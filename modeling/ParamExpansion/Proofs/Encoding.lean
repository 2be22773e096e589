import Mathlib.Data.List.Forall2
import ParamExpansion.Text.Streams

/-!
# Encoded texts are decoded

The bytes of a text in UTF-8 denote the text, and bytes never denote more characters than they are.
-/

namespace ParamExpansion.Text.Utf8

/-! ## Bytes -/

theorem toList_loop_eq (bs : ByteArray) (i : Nat) (read : List UInt8) :
    ByteArray.toList.loop bs i read = read.reverse ++ bs.data.toList.drop i := by
  -- What the loop has read stands in reverse order in front of what is still to come.
  fun_induction ByteArray.toList.loop bs i read with
  | case1 i read hlt ih =>
    have hi : i < bs.data.toList.length := by simpa using hlt
    have hget : bs.get! i = bs.data.toList[i] := by
      simp only [ByteArray.get!, Array.getElem_toList]
      exact getElem!_pos bs.data i (by simpa using hlt)
    rw [ih, List.drop_eq_getElem_cons hi, hget]
    simp
  | case2 i read hge =>
    have hle : bs.data.toList.length ≤ i := by simpa using hge
    rw [List.drop_eq_nil_of_le hle, List.append_nil]

/-- A text is encoded character by character. -/
theorem toList_toUTF8 (s : String) :
    s.toUTF8.toList = s.toList.flatMap String.utf8EncodeChar := by
  rw [ByteArray.toList, toList_loop_eq, String.toUTF8_eq_toByteArray,
    ← String.ofList_toList (s := s), String.toByteArray_ofList, List.utf8Encode]
  simp

/-! ## Characters of several bytes -/

theorem toNat_ofNat {n : Nat} (h : n < 256) : (UInt8.ofNat n).toNat = n := by
  simpa using h

/-- The bits of a character with those of the byte that follows. -/
def addBits (bits : Nat) (byte : UInt8) : Nat := 64 * bits + byte.toNat % 64

/-- The bytes that are expected complete a character. -/
theorem decodeFrom_some (start : Nat) {expected : List ByteRange} {bytes : List UInt8}
    (h : List.Forall₂ (fun range byte => inRange range byte = true) expected bytes)
    (hne : expected ≠ []) (begun : List UInt8) (bits : Nat) (rest : List UInt8) :
    decodeFrom start (some ⟨begun, bits, expected⟩) (bytes ++ rest) =
      (decodeFrom (start + (begun ++ bytes).length) none rest).map
        (Char.ofNat (bytes.foldl addBits bits) :: ·) := by
  -- The induction is on the bytes that follow. The last one of them completes the character.
  induction h generalizing begun bits with
  | nil => exact absurd rfl hne
  | @cons range byte expected bytes hr hmore ih =>
    rw [List.cons_append, decodeFrom]
    simp only [List.head?_cons, Option.any_some, hr, if_true]
    cases hmore with
    | nil => simp [addBits]
    | @cons range' byte' expected bytes hr' hmore =>
      rw [if_neg (by simp), List.drop_one, List.tail_cons, ih (List.cons_ne_nil _ _)]
      simp [addBits, Nat.add_comm, Nat.add_left_comm]

/-- A first byte and the bytes that it asks for make up a character. -/
theorem decodeFrom_none (start : Nat) {first : UInt8} {bytes : List UInt8} {range : ByteRange}
    {expected : List ByteRange} (hf : following? first = some (range :: expected))
    (h : List.Forall₂ (fun range byte => inRange range byte = true) (range :: expected) bytes)
    (rest : List UInt8) :
    decodeFrom start none (first :: bytes ++ rest) =
      (decodeFrom (start + (first :: bytes).length) none rest).map
        (Char.ofNat (bytes.foldl addBits
          (first.toNat % (64 >>> (expected.length + 1)))) :: ·) := by
  rw [List.cons_append, decodeFrom]
  simp only [hf]
  exact decodeFrom_some start h (List.cons_ne_nil _ _) _ _ rest

theorem inRange_ofNat {lo hi n : Nat} (hlo : lo ≤ n) (hhi : n ≤ hi) (h : hi < 256) :
    inRange (lo, hi) (UInt8.ofNat n) = true := by
  simp only [inRange, toNat_ofNat (Nat.lt_of_le_of_lt hhi h), hlo, hhi, decide_true, Bool.and_self]

/-- No two forms share a first byte. -/
theorem following?_of_mem_forms : ∀ form ∈ forms, ∀ n : Fin 256,
    form.1.1 ≤ n.val → n.val ≤ form.1.2 → following? (UInt8.ofNat n.val) = some form.2 := by
  decide +kernel

theorem inRange_continuation (n : Nat) :
    inRange continuation (UInt8.ofNat (n % 64 + 128)) = true :=
  inRange_ofNat (by omega) (by omega) (by omega)

theorem addBits_continuation (bits n : Nat) :
    addBits bits (UInt8.ofNat (n % 64 + 128)) = 64 * bits + n % 64 := by
  rw [addBits, toNat_ofNat (by omega)]
  omega

variable (start : Nat) {c : Char} {n : Nat} (rest : List UInt8)

/-- Bytes of a form that has two bytes at least are decoded. -/
theorem decodeFrom_form (firsts range : ByteRange) (expected : List ByteRange) {bytes : List UInt8}
    (hform : (firsts, range :: expected) ∈ forms) (hlo : firsts.1 ≤ n) (hhi : n ≤ firsts.2)
    (h : List.Forall₂ (fun range byte => inRange range byte = true) (range :: expected) bytes)
    (hc : bytes.foldl addBits (n % (64 >>> (expected.length + 1))) = c.toNat) :
    decodeFrom start none (UInt8.ofNat n :: bytes ++ rest) =
      (decodeFrom (start + (bytes.length + 1)) none rest).map (c :: ·) := by
  have hbyte : ∀ form ∈ forms, form.1.2 < 256 := by decide
  have hn : n < 256 := Nat.lt_of_le_of_lt hhi (hbyte _ hform)
  rw [decodeFrom_none start (following?_of_mem_forms _ hform ⟨n, hn⟩ hlo hhi) h rest,
    toNat_ofNat hn, hc, Char.ofNat_toNat]
  rfl

/-- The first byte of three, and the range of the second one. -/
theorem exists_form_three (h : 0x7FF < n) (h' : n ≤ 0xFFFF)
    (hvalid : n < 0xD800 ∨ 0xDFFF < n) :
    ∃ firsts range, (firsts, [range, continuation]) ∈ forms ∧
      firsts.1 ≤ n / 4096 % 16 + 224 ∧ n / 4096 % 16 + 224 ≤ firsts.2 ∧
      inRange range (UInt8.ofNat (n / 64 % 64 + 128)) = true := by
  -- The first byte tells in which range the second one lies.
  by_cases hE0 : n < 0x1000
  · exact ⟨(0xE0, 0xE0), (0xA0, 0xBF), by decide, by omega, by omega,
      inRange_ofNat (by omega) (by omega) (by omega)⟩
  by_cases hEC : n < 0xD000
  · exact ⟨(0xE1, 0xEC), continuation, by decide, by omega, by omega, inRange_continuation _⟩
  by_cases hED : n < 0xD800
  · exact ⟨(0xED, 0xED), (0x80, 0x9F), by decide, by omega, by omega,
      inRange_ofNat (by omega) (by omega) (by omega)⟩
  · exact ⟨(0xEE, 0xEF), continuation, by decide, by omega, by omega, inRange_continuation _⟩

/-- The first byte of four, and the range of the second one. -/
theorem exists_form_four (h : 0xFFFF < n) (h' : n < 0x110000) :
    ∃ firsts range, (firsts, [range, continuation, continuation]) ∈ forms ∧
      firsts.1 ≤ n / 262144 % 8 + 240 ∧ n / 262144 % 8 + 240 ≤ firsts.2 ∧
      inRange range (UInt8.ofNat (n / 4096 % 64 + 128)) = true := by
  by_cases hF0 : n < 0x40000
  · exact ⟨(0xF0, 0xF0), (0x90, 0xBF), by decide, by omega, by omega,
      inRange_ofNat (by omega) (by omega) (by omega)⟩
  by_cases hF3 : n < 0x100000
  · exact ⟨(0xF1, 0xF3), continuation, by decide, by omega, by omega, inRange_continuation _⟩
  · exact ⟨(0xF4, 0xF4), (0x80, 0x8F), by decide, by omega, by omega,
      inRange_ofNat (by omega) (by omega) (by omega)⟩

/-- A character is decoded from its bytes. -/
theorem decodeFrom_utf8EncodeChar (c : Char) :
    decodeFrom start none (String.utf8EncodeChar c ++ rest) =
      (decodeFrom (start + (String.utf8EncodeChar c).length) none rest).map (c :: ·) := by
  have hvalid : c.toNat < 0xD800 ∨ 0xDFFF < c.toNat ∧ c.toNat < 0x110000 := c.valid
  have hc : c.val.toNat = c.toNat := rfl
  rw [String.utf8EncodeChar.eq_1, hc]
  generalize hn : c.toNat = n at hvalid
  -- The cases are those of the encoding: one byte, two, three or four. In each of them the first
  -- byte selects a form, the others lie in its ranges, and their bits make up the number.
  by_cases h1 : n ≤ 0x7F
  · have hf := following?_of_mem_forms ((0x00, 0x7F), []) (by decide) ⟨n, by omega⟩
      (Nat.zero_le n) h1
    rw [if_pos h1, List.cons_append, decodeFrom]
    simp only [hf]
    rw [toNat_ofNat (by omega), ← hn, Char.ofNat_toNat]
    rfl
  rw [if_neg h1]
  by_cases h2 : n ≤ 0x7FF
  · rw [if_pos h2]
    refine decodeFrom_form start rest (0xC2, 0xDF) continuation [] (by decide) ?_ ?_
      (.cons (inRange_continuation _) .nil) ?_
    · show 0xC2 ≤ n / 64 % 32 + 192
      omega
    · show n / 64 % 32 + 192 ≤ 0xDF
      omega
    · simp only [List.foldl, addBits_continuation, List.length_nil, Nat.reduceShiftRight,
        Nat.reduceAdd]
      omega
  rw [if_neg h2]
  by_cases h3 : n ≤ 0xFFFF
  · rw [if_pos h3]
    obtain ⟨firsts, range, hform, hlo, hhi, hr⟩ := exists_form_three (by omega) h3 (by omega)
    refine decodeFrom_form start rest firsts range _ hform hlo hhi
      (.cons hr (.cons (inRange_continuation _) .nil)) ?_
    simp only [List.foldl, addBits_continuation, List.length_cons, List.length_nil,
      Nat.reduceShiftRight, Nat.reduceAdd]
    omega
  · rw [if_neg h3]
    obtain ⟨firsts, range, hform, hlo, hhi, hr⟩ := exists_form_four (n := n) (by omega) (by omega)
    refine decodeFrom_form start rest firsts range _ hform hlo hhi
      (.cons hr (.cons (inRange_continuation _) (.cons (inRange_continuation _) .nil))) ?_
    simp only [List.foldl, addBits_continuation, List.length_cons, List.length_nil,
      Nat.reduceShiftRight, Nat.reduceAdd]
    omega

/-! ## Texts -/

theorem decodeFrom_flatMap (cs : List Char) :
    decodeFrom start none (cs.flatMap String.utf8EncodeChar) = .ok cs := by
  induction cs generalizing start with
  | nil => rfl
  | cons c cs ih =>
    rw [List.flatMap_cons, decodeFrom_utf8EncodeChar, ih]
    rfl

/-- The bytes of a text denote the text. -/
theorem decode_toUTF8 (s : String) : decode s.toUTF8.toList = .ok s.toList := by
  rw [decode, toList_toUTF8, decodeFrom_flatMap]

theorem exists_of_map_cons {ε : Type} {d : Char} {x : Except ε (List Char)} {cs : List Char}
    (h : x.map (d :: ·) = .ok cs) : ∃ ds, x = .ok ds ∧ cs = d :: ds := by
  cases x with
  | error e => cases h
  | ok ds => cases h; exact ⟨ds, rfl, rfl⟩

theorem length_le_of_decodeFrom {begun : Option Partial} {bytes : List UInt8} {cs : List Char}
    (h : decodeFrom start begun bytes = .ok cs) : cs.length ≤ bytes.length := by
  induction bytes generalizing start begun cs with
  | nil =>
    cases begun with
    | none => cases h; exact Nat.le_refl _
    | some p => cases h
  | cons byte rest ih =>
    -- The byte completes a character, or else it is kept for later.
    have hcomplete {start' : Nat} {d : Char}
        (h : (decodeFrom start' none rest).map (d :: ·) = .ok cs) :
        cs.length ≤ (byte :: rest).length := by
      obtain ⟨ds, hds, rfl⟩ := exists_of_map_cons h
      exact Nat.succ_le_succ (ih start' hds)
    have hkept {begun' : Option Partial} (h : decodeFrom start begun' rest = .ok cs) :
        cs.length ≤ (byte :: rest).length := Nat.le_succ_of_le (ih start h)
    cases begun with
    | none =>
      simp only [decodeFrom] at h
      split at h
      · cases h
      · exact hcomplete h
      · exact hkept h
    | some p =>
      simp only [decodeFrom] at h
      split at h
      · split at h
        · exact hcomplete h
        · exact hkept h
      · cases h

/-- Bytes denote no more characters than they are. -/
theorem length_le_of_decode {bytes : List UInt8} {cs : List Char} (h : decode bytes = .ok cs) :
    cs.length ≤ bytes.length := length_le_of_decodeFrom 0 h

end ParamExpansion.Text.Utf8
