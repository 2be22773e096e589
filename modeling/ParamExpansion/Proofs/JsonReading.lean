import ParamExpansion.Json.Printer
import ParamExpansion.Json.Reader

/-!
# Written texts and numbers are read back

The reader takes what the printer writes for a text or a number, and leaves what follows. Behind a
number nothing may follow that could belong to it.
-/

namespace ParamExpansion.Json

/-! ## Runs of the reader -/

/-- Whether a run reads some characters in front of others, with a value as its result. -/
def Reads {α : Type} (m : ReadM α) (cs rest : List Char) (a : α) : Prop :=
  ∀ p, ∃ q, m ⟨cs ++ rest, p⟩ = .ok (a, ⟨rest, q⟩)

namespace Reads

open ReadM

variable {α β : Type} {cs ds rest : List Char} {a : α} {b : β}

theorem pure (a : α) (rest : List Char) : Reads (Pure.pure a) [] rest a :=
  fun p => ⟨p, rfl⟩

theorem bind {m : ReadM α} {f : α → ReadM β} (hm : Reads m cs (ds ++ rest) a)
    (hf : Reads (f a) ds rest b) : Reads (m >>= f) (cs ++ ds) rest b := by
  intro p
  obtain ⟨q, hq⟩ := hm p
  obtain ⟨q', hq'⟩ := hf q
  refine ⟨q', ?_⟩
  rw [List.append_assoc]
  show (m ⟨cs ++ (ds ++ rest), p⟩ >>= fun x => f x.1 x.2) = _
  rw [hq]
  exact hq'

/-- The last step gives a value. -/
theorem bind_pure {m : ReadM α} (hm : Reads m cs rest a) (f : α → β) :
    Reads (m >>= fun a => Pure.pure (f a)) cs rest (f a) := by
  intro p
  obtain ⟨q, hq⟩ := hm p
  refine ⟨q, ?_⟩
  show (m ⟨cs ++ rest, p⟩ >>= fun x => Except.ok (f x.1, x.2)) = _
  rw [hq]
  rfl

/-- What is looked at does not move. -/
theorem peek {f : Cursor → ReadM β} (h : ∀ p, Reads (f ⟨cs ++ rest, p⟩) cs rest b) :
    Reads (get >>= f) cs rest b := fun p => h p p

/-- An expected character is there. -/
theorem accept_cons {x : Char} {f : Bool → ReadM β} (h : Reads (f true) cs rest b) :
    Reads (accept x >>= f) (x :: cs) rest b := by
  have hx : Reads (accept x) [x] (cs ++ rest) true := fun p =>
    ⟨p.step x, by simp [accept, Cursor.peek?, Cursor.skip]⟩
  exact hx.bind h

/-- Another character is there. -/
theorem accept_of_ne {x : Char} {f : Bool → ReadM β} (hx : (cs ++ rest).head? ≠ some x)
    (h : Reads (f false) cs rest b) : Reads (accept x >>= f) cs rest b := by
  have hr : Reads (accept x) [] (cs ++ rest) false := fun p =>
    ⟨p, congrArg Except.ok (if_neg hx)⟩
  exact hr.bind h

/-- White space is passed over. -/
theorem space (ws : List Char) (hws : ∀ c ∈ ws, isSpace c = true)
    (hr : ∀ c, (cs ++ rest).head? = some c → isSpace c = false) {f : Unit → ReadM β}
    (h : Reads (f ()) cs rest b) : Reads (ReadM.space >>= f) (ws ++ cs) rest b := by
  have hx : Reads ReadM.space ws (cs ++ rest) () := by
    intro p
    -- The white space ends where the next part begins.
    have hrun : (ws ++ (cs ++ rest)).takeWhile isSpace = ws := by
      rw [List.takeWhile_append_of_pos hws]
      cases hcs : cs ++ rest with
      | nil => simp
      | cons c r =>
        have hc : isSpace c = false := hr c (by rw [hcs]; rfl)
        rw [List.takeWhile_cons_of_neg (by simp [hc]), List.append_nil]
    refine ⟨p.steps ws, ?_⟩
    show Except.ok ((), (Cursor.takeWhile ⟨ws ++ (cs ++ rest), p⟩ isSpace).2) = _
    simp only [Cursor.takeWhile, hrun, Cursor.skip, List.drop_left, List.take_left]
  exact hx.bind h

end Reads

/-! ## Strings -/

namespace ReadM

theorem hexDigit?_digitChar : ∀ d : Fin 16, hexDigit? (Nat.digitChar d.val) = some d.val := by
  decide

/-- The digits of a number are read back. -/
theorem hexValue?_toDigits (n : Nat) : hexValue? (Nat.toDigits 16 n) = some n := by
  induction n using Nat.strongRecOn with
  | ind n ih =>
    rw [Nat.toDigits_eq_if (by decide)]
    split
    · next hlt => simp [hexValue?, hexDigit?_digitChar ⟨n, hlt⟩]
    · -- The last digit is the remainder, and the digits before it are those of the quotient.
      next hge =>
      have hlast := hexDigit?_digitChar ⟨n % 16, Nat.mod_lt n (by decide)⟩
      have hfirst := ih (n / 16) (by omega)
      unfold hexValue? at hfirst ⊢
      rw [List.foldlM_append, hfirst]
      simp [hlast, Nat.div_add_mod]

/-- Zeros in front of a number do not count. -/
theorem hexValue?_hex (width n : Nat) : hexValue? (Text.hex width n) = some n := by
  have hzeros (k : Nat) (digits : List Char) :
      hexValue? (List.replicate k '0' ++ digits) = hexValue? digits := by
    induction k with
    | zero => rfl
    | succ k ih => exact ih
  rw [Text.hex, hzeros, hexValue?_toDigits]

/-- What denotes a number is made up of digits. -/
theorem isSome_hexDigit?_of_mem {digits : List Char} {m n : Nat}
    (h : digits.foldlM (fun n c => (hexDigit? c).map (16 * n + ·)) m = some n) :
    ∀ c ∈ digits, (hexDigit? c).isSome := by
  induction digits generalizing m with
  | nil => exact List.forall_mem_nil _
  | cons c digits ih =>
    rw [List.foldlM_cons] at h
    cases hc : hexDigit? c with
    | none => rw [hc] at h; cases h
    | some d =>
      rw [hc] at h
      exact List.forall_mem_cons.2 ⟨by rw [hc]; rfl, ih h⟩

theorem length_hex {n : Nat} (h : n < 0x10000) : (Text.hex 4 n).length = 4 := by
  have hle : (Nat.toDigits 16 n).length ≤ 4 :=
    (Nat.length_toDigits_le_iff (by decide) (by decide)).2 h
  rw [Text.hex, List.length_append, List.length_replicate, Nat.sub_add_cancel hle]

/-- A written code point is read back. -/
theorem codeUnits_codePoint (opening : Position) {n : Nat} (hn : n < 0x10000) {rest : List Char}
    (hne : rest ≠ []) (p : Position) :
    ∃ q, codeUnits opening p ('\\' :: 'u' :: Text.hex 4 n ++ rest) =
      (codeUnits opening q rest).map fun r => (n :: r.1, r.2) := by
  match hd : Text.hex 4 n, length_hex hn, hexValue?_hex 4 n with
  | [a, b, c, d], _, hvalue =>
    refine ⟨p.steps ['\\', 'u', a, b, c, d], ?_⟩
    rw [List.cons_append, List.cons_append, List.cons_append, List.cons_append, List.cons_append,
      List.cons_append, List.nil_append, codeUnits]
    rw [hvalue, List.isEmpty_eq_false_iff.2 hne]

/-- A written character is read back. -/
theorem codeUnits_escapeChar (opening : Position) (c : Char) {rest : List Char} (hne : rest ≠ [])
    (p : Position) : ∃ q, codeUnits opening p (escapeChar c ++ rest) =
      (codeUnits opening q rest).map fun r => (c.toNat :: r.1, r.2) := by
  unfold escapeChar
  split
  -- Characters without a short escape are written by number or as they are. The reader must not
  -- take them for a mark or a backslash.
  case h_8 hq hb _ _ _ _ _ =>
    split
    · next h =>
      have hlt : c.toNat < 32 := Char.lt_def.1 h
      exact codeUnits_codePoint opening (Nat.lt_trans hlt (by decide)) hne p
    · next h =>
      refine ⟨p.step c, ?_⟩
      rw [List.cons_append, List.nil_append, codeUnits, if_neg h]
      · exact fun hc _ => hb hc
      · exact hq
      · exact fun _ _ _ _ _ hc _ => hb hc
      · exact fun _ _ hc _ => hb hc
  all_goals exact ⟨_, rfl⟩

/-- A written surrogate is read back, too. -/
theorem codeUnits_escapePoint (opening : Position) (x : CodePoint) {rest : List Char}
    (hne : rest ≠ []) (p : Position) : ∃ q, codeUnits opening p (escapePoint x ++ rest) =
      (codeUnits opening q rest).map fun r => (x.toNat :: r.1, r.2) := by
  cases x with
  | char c => exact codeUnits_escapeChar opening c hne p
  | surrogate offset =>
    have hlt : 0xD800 + offset.val < 0x10000 := by omega
    exact codeUnits_codePoint opening hlt hne p

/-- A written text is read back up to its closing mark. -/
theorem codeUnits_flatMap (opening : Position) (points : List CodePoint) (rest : List Char)
    (p : Position) : ∃ q, codeUnits opening p (points.flatMap escapePoint ++ '"' :: rest) =
      .ok (points.map CodePoint.toNat, ⟨rest, q⟩) := by
  -- Each point is read back on its own, and the closing mark always follows.
  induction points generalizing p with
  | nil => exact ⟨p.step '"', by simp [codeUnits]⟩
  | cons x points ih =>
    have hne : points.flatMap escapePoint ++ '"' :: rest ≠ [] := by simp
    obtain ⟨q, hq⟩ := codeUnits_escapePoint opening x hne p
    obtain ⟨q', hq'⟩ := ih q
    refine ⟨q', ?_⟩
    rw [List.flatMap_cons, List.append_assoc, hq, hq']
    rfl

theorem not_surrogate (c : Char) : ¬ (0xD800 ≤ c.toNat ∧ c.toNat < 0xE000) := by
  have hvalid : c.toNat < 0xD800 ∨ 0xDFFF < c.toNat ∧ c.toNat < 0x110000 := c.valid
  omega

theorem codePoint_toNat (c : Char) : CodePoint.ofNat c.toNat = .char c := by
  rw [CodePoint.ofNat, dif_neg (not_surrogate c), Char.ofNat_toNat]

/-- Characters are no surrogates. -/
theorem joinSurrogates_map_toNat (cs : List Char) :
    joinSurrogates (cs.map Char.toNat) = cs.map .char := by
  induction cs with
  | nil => rfl
  | cons c cs ih =>
    cases cs with
    | nil => simp [joinSurrogates, codePoint_toNat]
    -- The second unit is that of a character, so it is no partner.
    | cons d cs =>
      have hc : ¬ (0xD800 ≤ c.toNat ∧ c.toNat < 0xDC00 ∧ 0xDC00 ≤ d.toNat ∧ d.toNat < 0xE000) := by
        have := not_surrogate d
        omega
      rw [List.map_cons, List.map_cons, joinSurrogates, if_neg hc, codePoint_toNat]
      exact congrArg (.char c :: ·) ih

end ReadM

open ReadM

/-- Whether no two surrogates that are partners come together in a text. -/
def KeepsApart (value : WideText) : Prop :=
  joinSurrogates (value.points.map CodePoint.toNat) = value.points

@[simp] theorem keepsApart_plain (value : String) : KeepsApart value := by
  rw [KeepsApart, WideText.points, List.map_map]
  exact joinSurrogates_map_toNat value.toList

theorem toList_writeString (value : WideText) :
    (writeString value).toList = '"' :: (value.points.flatMap escapePoint ++ ['"']) := by
  simp [writeString]

/-- A written string is read back. -/
theorem reads_string {value : WideText} (h : KeepsApart value) (rest : List Char) :
    Reads ReadM.string (writeString value).toList rest value := by
  intro p
  obtain ⟨q, hq⟩ := codeUnits_flatMap p value.points rest (p.step '"')
  refine ⟨q, ?_⟩
  rw [toList_writeString, List.cons_append, List.append_assoc]
  show (codeUnits p (p.step '"') (value.points.flatMap escapePoint ++ '"' :: rest)).map _ = _
  rw [hq, Except.map, h, WideText.ofPoints_points]

/-! ## Numbers -/

/-- Whether some characters cannot continue a number. -/
def EndsNumber (rest : List Char) : Prop :=
  ∀ c, rest.head? = some c → c.isDigit = false ∧ c ≠ '.' ∧ c ≠ 'e' ∧ c ≠ 'E'

namespace Numeral

theorem natOf_toDigits (n : Nat) : natOf (Nat.toDigits 10 n) = n :=
  Nat.ofDigitChars_ten_toDigits

/-- No zero leads a number other than zero. -/
theorem head?_toDigits {n : Nat} (h : n ≠ 0) : (Nat.toDigits 10 n).head? ≠ some '0' := by
  induction n using Nat.strongRecOn with
  | ind n ih =>
    rw [Nat.toDigits_eq_if (by decide)]
    split
    · next hlt =>
      have hdigit : ∀ m : Fin 10, m.val ≠ 0 → Nat.digitChar m.val ≠ '0' := by decide
      simpa using hdigit ⟨n, hlt⟩ h
    · -- The first digit is that of the quotient, which is not zero either.
      next hge =>
      obtain ⟨c, cs, hc⟩ := List.exists_cons_of_ne_nil (Nat.toDigits_ne_nil (n := n / 10) (b := 10))
      have hhead := ih (n / 10) (by omega) (by omega)
      rw [hc] at hhead ⊢
      exact hhead

theorem isDigit_of_mem {n : Nat} {c : Char} (h : c ∈ Nat.toDigits 10 n) : c.isDigit = true :=
  Nat.isDigit_of_mem_toDigits (by decide) (by decide) h

variable {rest : List Char}

/-- The digits of a number are all that is read of it. -/
theorem wholeOf_toDigits (n : Nat) (hr : EndsNumber rest) :
    wholeOf (Nat.toDigits 10 n ++ rest) = Nat.toDigits 10 n := by
  by_cases hn : n = 0
  · subst hn
    rfl
  · -- The digits end where the number ends, and a leading zero would have ended them at once.
    have hrun : (Nat.toDigits 10 n ++ rest).takeWhile Char.isDigit = Nat.toDigits 10 n := by
      rw [List.takeWhile_append_of_pos fun c hc => isDigit_of_mem hc]
      cases rest with
      | nil => simp
      | cons c r =>
        rw [List.takeWhile_cons_of_neg (by simp [(hr c rfl).1]), List.append_nil]
    obtain ⟨c, cs, hc⟩ := List.exists_cons_of_ne_nil (Nat.toDigits_ne_nil (n := n) (b := 10))
    have hzero := head?_toDigits hn
    rw [hc] at hrun hzero ⊢
    rw [List.cons_append, wholeOf]
    · exact hrun
    · rintro ds hds
      exact hzero (congrArg List.head? hds)

theorem fractionOf_eq_nil (hr : EndsNumber rest) : fractionOf rest = [] := by
  unfold fractionOf
  split
  · exact absurd rfl (hr '.' rfl).2.1
  · rfl

theorem exponentOf_eq_nil (hr : EndsNumber rest) : exponentOf rest = [] := by
  cases rest with
  | nil => rfl
  | cons c cs =>
    obtain ⟨-, -, he, hE⟩ := hr c rfl
    exact if_neg fun h => h.1.elim he hE

/-- A whole number is read back with its sign. -/
theorem read?_toDigits (negative : Bool) (n : Nat) (hr : EndsNumber rest) :
    read? ((if negative then ['-'] else []) ++ Nat.toDigits 10 n ++ rest) =
      some ⟨negative, Nat.toDigits 10 n, [], []⟩ := by
  have hne : Nat.toDigits 10 n ≠ [] := Nat.toDigits_ne_nil
  have hsign : (Nat.toDigits 10 n).head? ≠ some '-' := fun h =>
    absurd (isDigit_of_mem (List.mem_of_head? h)) (by decide)
  -- Sign, digits, fraction and exponent are read one after the other, the last two being empty.
  have hwhole := wholeOf_toDigits n hr
  have hfraction := fractionOf_eq_nil hr
  have hexponent := exponentOf_eq_nil hr
  cases negative with
  | true => simp [read?, hwhole, hfraction, hexponent, partLength, hne]
  | false => simp [read?, hsign, hwhole, hfraction, hexponent, partLength, hne]

end Numeral

theorem toList_toString_int (value : Int) :
    (toString value).toList =
      (if decide (value < 0) then ['-'] else []) ++ Nat.toDigits 10 value.natAbs := by
  rw [Int.toString_eq_repr]
  cases value with
  | ofNat n => simp [Int.repr]
  | negSucc n => simp [Int.repr]

/-- No word begins like a number. -/
theorem words_find?_toDigits (negative : Bool) (n : Nat) (rest : List Char) :
    words.find? (·.1.toList.isPrefixOf
      ((if negative then ['-'] else []) ++ Nat.toDigits 10 n ++ rest)) = none := by
  obtain ⟨c, cs, hc⟩ := List.exists_cons_of_ne_nil (Nat.toDigits_ne_nil (n := n) (b := 10))
  have hdigit : c.isDigit = true :=
    Numeral.isDigit_of_mem (n := n) (by rw [hc]; exact List.mem_cons_self)
  have hne (x : Char) (hx : x.isDigit = false) : x ≠ c := by
    rintro rfl
    exact absurd hdigit (by simp [hx])
  rw [hc]
  cases negative with
  | true => simp [words, hne]
  | false => simp [words, hne]

/-- A written whole number is read back. -/
theorem reads_int {value : Int} {rest : List Char} (hr : EndsNumber rest)
    (h : (Nat.toDigits 10 value.natAbs).length ≤ maxDigits) :
    Reads scalar (toString value).toList rest (.int value) := by
  intro p
  refine ⟨p.steps (toString value).toList, ?_⟩
  -- The sign and the digits of the numeral make up the value.
  have hvalue : (if value < 0 then -(value.natAbs : Int) else value.natAbs) = value := by
    split <;> omega
  have hn : (Numeral.mk (decide (value < 0)) (Nat.toDigits 10 value.natAbs) [] []).value =
      .int value := by
    simp only [Numeral.value, Numeral.isWhole, Numeral.natOf_toDigits, decide_eq_true_eq, hvalue]
    rfl
  have hlength : (Numeral.mk (decide (value < 0)) (Nat.toDigits 10 value.natAbs) [] []).length =
      ((if decide (value < 0) then ['-'] else []) ++ Nat.toDigits 10 value.natAbs).length := by
    cases decide (value < 0) <;> simp [Numeral.length, Numeral.partLength, Nat.add_comm]
  -- The reader tries the words first, then the numeral, and then checks how long it is.
  rw [toList_toString_int]
  unfold scalar
  rw [words_find?_toDigits]
  dsimp only
  rw [Numeral.read?_toDigits _ _ hr]
  dsimp only
  rw [if_neg (by simp [h]), hn, hlength, Cursor.skip, List.drop_left, List.take_left]

end ParamExpansion.Json
