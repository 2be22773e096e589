import ParamExpansion.Proofs.Runs
import ParamExpansion.Proofs.WellFormed

/-!
# Reading what has been written

Each piece of a written template is read as the tokens that it stands for, at the place where it is
written and whatever follows there. The pieces are put together in the order of the text.
-/

namespace ParamExpansion

open Token (Kind kinds nestings)

/-! ## Doubled dollar signs -/

theorem escape_cons (c : Char) (cs : List Char) :
    escape (c :: cs) = (if c = '$' then ['$', '$'] else [c]) ++ escape cs := rfl

@[simp] theorem escape_eq_nil {cs : List Char} : escape cs = [] ↔ cs = [] := by
  cases cs with
  | nil => simp [escape]
  | cons c cs =>
    rw [escape_cons]
    split <;> simp

theorem unescape_cons_of_ne {c : Char} (hc : c ≠ '$') (cs : List Char) :
    unescape (c :: cs) = c :: unescape cs := by
  rw [unescape]
  exact fun _ h => absurd h hc

/-- Pairs of dollar signs are taken from left to right, so none of them goes on behind escaped text. -/
theorem unescape_escape_append (cs ds : List Char) :
    unescape (escape cs ++ ds) = cs ++ unescape ds := by
  induction cs with
  | nil => rfl
  | cons c cs ih =>
    rw [escape_cons, List.append_assoc]
    split
    · next hc => simp [unescape, ih, hc]
    · next hc => rw [List.singleton_append, unescape_cons_of_ne hc, ih, List.cons_append]

theorem unescape_escape (cs : List Char) : unescape (escape cs) = cs := by
  simpa [unescape] using unescape_escape_append cs []

namespace Lexeme

theorem opensParam_of_ne {c : Char} (hc : c ≠ '$') (cs : List Char) :
    opensParam (c :: cs) = false := by
  rw [Bool.eq_false_iff]
  intro h
  obtain ⟨d, r, hr, -⟩ := opensParam_iff.1 h
  exact hc (List.cons.inj hr).1

/-- Text outside parameters goes on behind escaped text. -/
theorem textRun_escape_append (cs ds : List Char) :
    textRun (escape cs ++ ds) = escape cs ++ textRun ds := by
  induction cs with
  | nil => rfl
  | cons c cs ih =>
    rw [escape_cons, List.append_assoc]
    split
    · simp [textRun, ih]
    · next hc =>
      rw [List.singleton_append, textRun_cons (by simp [hc]), if_neg (by simp [opensParam_of_ne hc]), ih]
      rfl

/-- Escaped text inside a parameter is one run, up to the closing brace. -/
theorem paramTextRun_escape {cs : List Char} (h : ∀ c ∈ cs, c ≠ '}' ∧ c ≠ '\n') (ds : List Char) :
    paramTextRun (escape cs ++ '}' :: ds) = escape cs := by
  have hall : ∀ c ∈ escape cs, (c ≠ '}' && c ≠ '\n') = true := by
    intro c hc
    obtain ⟨d, hd, hc⟩ := List.mem_flatMap.1 hc
    split at hc
    · obtain rfl : c = '$' := by simpa using hc
      rfl
    · obtain rfl := List.mem_singleton.1 hc
      simpa using h c hd
  rw [paramTextRun_eq_takeWhile, List.takeWhile_append_of_pos hall,
    List.takeWhile_cons_of_neg (by simp), List.append_nil]

end Lexeme

/-! ## Indexes -/

namespace Index

theorem toNat_of_isDigit {c : Char} (h : c.isDigit = true) : 48 ≤ c.toNat ∧ c.toNat ≤ 57 := by
  simpa [Char.isDigit, UInt32.le_iff_toNat_le] using h

theorem decimalDigit?_of_isDigit {c : Char} (h : c.isDigit = true) :
    Text.decimalDigit? c = some (c.toNat - '0'.toNat) := by
  obtain ⟨hl, hu⟩ := toNat_of_isDigit h
  have hlt : c.toNat < 0x0030 + 10 := by omega
  rw [Text.decimalDigit?, Text.decimalZeros, List.find?_cons_of_pos (by simp [hl, hlt])]
  rfl

theorem isNumeric_of_isDigit {c : Char} (h : c.isDigit = true) : Text.isNumeric c = true := by
  obtain ⟨hl, hu⟩ := toNat_of_isDigit h
  have hn : ¬ c.toNat < 0x0030 := by omega
  have hle : c.toNat ≤ 0x0039 := hu
  rw [Text.isNumeric, Text.numericRanges, Text.Ranges.covers, if_neg hn, decide_eq_true hle,
    Bool.true_or]

theorem foldlM_digits {ds : List Char} (h : ∀ d ∈ ds, d.isDigit = true) (n : Nat) :
    ds.foldlM (fun n c => (Text.decimalDigit? c).map (10 * n + ·)) n =
      some (Nat.ofDigitChars 10 ds n) := by
  induction ds generalizing n with
  | nil => rfl
  | cons d ds ih =>
    obtain ⟨hd, hds⟩ := List.forall_mem_cons.1 h
    rw [List.foldlM_cons, decimalDigit?_of_isDigit hd, Nat.ofDigitChars_cons]
    exact ih hds _

/-- A written number denotes itself. -/
theorem value?_toDigits (n : Nat) : value? (Nat.toDigits 10 n) = some n := by
  rw [value?, foldlM_digits fun d hd => Nat.isDigit_of_mem_toDigits (by decide) (by decide) hd,
    Nat.ofDigitChars_ten_toDigits]

/-- A written index reads as itself. -/
theorem read_toDigits {n : Nat} (h : n ≤ max) : read (Nat.toDigits 10 n) = n := by
  have hlength : (Nat.toDigits 10 n).length ≤ maxDigits := by
    -- The largest index has twenty digits, so no written index has more.
    have hlt : n < 10 ^ 20 := Nat.lt_of_le_of_lt h (by decide)
    have := (Nat.length_toDigits_le_iff (b := 10) (by decide) (by decide)).2 hlt
    exact Nat.le_trans this (by decide)
  simp [read, hlength, value?_toDigits, h]

end Index

/-! ## Single tokens -/

namespace Lexeme

/-- A character of a name is no operator. -/
theorem mark?_of_isNameChar {c : Char} (h : isNameChar c = true) (cs : List Char) :
    mark? (c :: cs) = none := by
  rw [mark?_cons]
  split
  · rfl
  · cases hm : Mark.ofChar? c with
    | none => rfl
    | some m =>
      rw [← Mark.char_of_ofChar? hm] at h
      cases m <;> exact absurd h (by decide)

theorem caseChange_of_isNameChar {c : Char} (h : isNameChar c = true) :
    CaseChange.ofChar? c = none := by
  cases hk : CaseChange.ofChar? c with
  | none => rfl
  | some k =>
    rw [← CaseChange.char_of_ofChar? hk] at h
    cases k <;> exact absurd h (by decide)

theorem mark?_char {m : Mark} {cs : List Char} (h : m = .dollar → cs.head? ≠ some '$') :
    mark? (m.char :: cs) = some m := by
  rw [mark?_cons, if_neg, Mark.ofChar?_char]
  rintro ⟨hm, hd⟩
  exact h (by cases m <;> first | rfl | exact absurd hm (by decide)) hd

theorem takeWhile_append_of_false {p : Char → Bool} {cs : List Char} (h : ∀ c ∈ cs, p c = true)
    {ds : List Char} (hd : ∀ e ∈ ds.head?, p e = false) : (cs ++ ds).takeWhile p = cs := by
  rw [List.takeWhile_append_of_pos h]
  cases ds with
  | nil => simp
  | cons e ds => rw [List.takeWhile_cons_of_neg (by simp [hd e rfl]), List.append_nil]

theorem isNameChar_of_isNumeric {c : Char} (h : Text.isNumeric c = true) : isNameChar c = true := by
  simp [isNameChar, h]

end Lexeme

namespace Identifier

/-- Whether some characters are read as an identifier, up to the first one that does not continue
them. -/
inductive ReadFrom : List Char → (Char → Bool) → Identifier → Prop where
  /-- A name goes on as long as there are characters of names. -/
  | name {name : String} (h : (named name).WellFormed) : ReadFrom name.toList isNameChar (.named name)
  /-- An index goes on as long as there are numeric characters. -/
  | index {run : List Char} (hne : run ≠ []) (h : ∀ c ∈ run, Text.isNumeric c = true) :
    ReadFrom run Text.isNumeric (.index (Index.read run))

namespace ReadFrom

variable {run ds : List Char} {continues : Char → Bool} {id : Identifier}

theorem ne_nil (h : ReadFrom run continues id) : run ≠ [] := by
  cases h with
  | name h =>
    obtain ⟨c, cs, hname, -, -⟩ := h
    simp [hname]
  | index hne h => exact hne

theorem isNameChar_of_mem (h : ReadFrom run continues id) : ∀ c ∈ run, isNameChar c = true := by
  cases h with
  | name h =>
    obtain ⟨c, cs, hname, -, hall⟩ := h
    rwa [hname]
  | index hne h => exact fun c hc => Lexeme.isNameChar_of_isNumeric (h c hc)

/-- What ends a name also ends an index, since numeric characters belong to names too. -/
theorem continues_eq_false (h : ReadFrom run continues id) {c : Char} (hc : isNameChar c = false) :
    continues c = false := by
  cases h with
  | name => exact hc
  | index =>
    rw [Bool.eq_false_iff] at hc ⊢
    exact fun hn => hc (Lexeme.isNameChar_of_isNumeric hn)

/-- The whole run is taken, and nothing of what is behind it. -/
theorem identifier?_append (h : ReadFrom run continues id)
    (hd : ∀ e ∈ ds.head?, continues e = false) :
    Lexeme.identifier? (run ++ ds) = some ⟨id.token, run⟩ := by
  -- The run of a name or of an index ends in front of what follows.
  cases h with
  | @name name h =>
    obtain ⟨c, cs, hname, hc, hcs⟩ := h
    have hrun := Lexeme.takeWhile_append_of_false hcs hd
    rw [List.cons_append] at hrun
    rw [hname, List.cons_append, Lexeme.identifier?, if_neg (by simp [hc]),
      if_pos (hcs c (List.mem_cons_self ..))]
    simp only [hrun, token, ← hname, String.ofList_toList]
  | index hne h =>
    have hrun := Lexeme.takeWhile_append_of_false h hd
    obtain ⟨c, cs, rfl⟩ := List.exists_cons_of_ne_nil hne
    rw [List.cons_append] at hrun
    rw [List.cons_append, Lexeme.identifier?, if_pos (h c (List.mem_cons_self ..))]
    simp only [hrun, token]

/-- Inside a parameter, the token behind one that introduces an identifier. -/
theorem lexeme?_eq (h : ReadFrom run continues id) {l : Lexer} (hr : l.cursor.rest = run ++ ds)
    (hi : l.inParam = true) (hq : l.previous.any (·.introducesIdentifier) = true)
    (hd : ∀ e ∈ ds.head?, continues e = false) : l.lexeme? = some ⟨id.token, run⟩ := by
  have hread := h.identifier?_append hd
  obtain ⟨c, cs, rfl⟩ := List.exists_cons_of_ne_nil h.ne_nil
  have hc := h.isNameChar_of_mem c (List.mem_cons_self ..)
  rw [List.cons_append] at hr hread
  rw [Lexer.lexeme?_inside (.inl hi), hr]
  simp [Lexeme.inParam?, Lexeme.mark?_of_isNameChar hc, Lexeme.caseChange_of_isNameChar hc, hq, hread]

end ReadFrom

/-- A written identifier is read back. -/
theorem WellFormed.readFrom {id : Identifier} (h : id.WellFormed) :
    ∃ continues, ReadFrom id.render continues id := by
  cases id with
  | named name => exact ⟨isNameChar, .name h⟩
  | index n =>
    have hdigits : ∀ d ∈ Nat.toDigits 10 n, Text.isNumeric d = true := fun d hd =>
      Index.isNumeric_of_isDigit (Nat.isDigit_of_mem_toDigits (by decide) (by decide) hd)
    have hread : ReadFrom (Nat.toDigits 10 n) Text.isNumeric (.index (Index.read (Nat.toDigits 10 n))) :=
      .index Nat.toDigits_ne_nil hdigits
    rw [Index.read_toDigits h] at hread
    exact ⟨Text.isNumeric, hread⟩

end Identifier

namespace Lexeme

/-- Escaped text is one token. -/
theorem text?_escape {value : String} (h : value ≠ "") :
    text? (escape value.toList) = some ⟨.text value, escape value.toList⟩ := by
  rw [text?, if_neg (by simpa using h), unescape_escape, String.ofList_toList]

theorem mark?_escape {c : Char} (h : c ∉ ['{', '}', ':', '-', '+', '?', '#', '!'])
    (cs ds : List Char) : mark? (escape (c :: cs) ++ ds) = none := by
  rw [escape_cons]
  split
  · rfl
  · next hd =>
    cases hm : Mark.ofChar? c with
    | none => simp [mark?_cons, hd, hm]
    -- The first character of the text is no dollar sign, and no other operator either.
    | some m =>
      rw [← Mark.char_of_ofChar? hm] at h hd
      cases m <;> simp [Mark.char] at h hd

/-- Behind an operator, what is not an operator is text. -/
theorem inParam?_of_mark?_eq_none {q : Option Kind} {cs : List Char} (hm : mark? cs = none)
    (hc : q.any (·.admitsCaseMark) = false) (hq : q.any (·.introducesIdentifier) = false) :
    inParam? q cs = text? (paramTextRun cs) := by
  rw [inParam?, hm]
  simp only [hc, hq, Bool.false_eq_true, if_false]
  split <;> rfl

end Lexeme

end ParamExpansion
