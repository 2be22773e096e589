import Mathlib.Data.Nat.Digits.Defs
import ParamExpansion.Proofs.Locations
import ParamExpansion.Proofs.Rendering

/-!
# The numbers of indexes

A run of numeric characters is the index that it denotes in base ten, or zero if it denotes none that
is small enough. So two numbers are never confused, except that those that are too large all read as
zero.
-/

namespace ParamExpansion

/-! ## Numerals -/

/-- A decimal digit is less than ten. -/
theorem Text.decimalDigit?_lt {c : Char} {d : Nat} (h : decimalDigit? c = some d) : d < 10 := by
  obtain ⟨first, hfind, rfl⟩ := Option.map_eq_some_iff.1 h
  have hblock : first ≤ c.toNat ∧ c.toNat < first + 10 := by simpa using List.find?_some hfind
  omega

namespace Index

/-- Whether a run of decimal digits denotes a number in base ten. The digits may be of any scripts, and
zeros may stand in front. -/
def Denotes (run : List Char) (n : Nat) : Prop :=
  ∃ ds : List Nat, run.map Text.decimalDigit? = ds.map some ∧ (∀ d ∈ ds, d < 10) ∧
    n = Nat.ofDigits 10 ds.reverse

/-- The digits count from the highest one to the lowest, behind those that make up `m`. -/
theorem foldlM_eq_some_iff {run : List Char} {m n : Nat} :
    run.foldlM (fun n c => (Text.decimalDigit? c).map (10 * n + ·)) m = some n ↔
      ∃ ds : List Nat, run.map Text.decimalDigit? = ds.map some ∧
        n = ds.foldl (fun n d => 10 * n + d) m := by
  -- The induction is on the run, for every number `m` that the digits before it denote.
  induction run generalizing m with
  | nil =>
    constructor
    · rintro ⟨⟩
      exact ⟨[], rfl, rfl⟩
    · rintro ⟨ds, hds, rfl⟩
      obtain rfl : ds = [] := by simpa using hds
      rfl
  | cons c cs ih =>
    rw [List.foldlM_cons, List.map_cons]
    cases Text.decimalDigit? c with
    | none =>
      constructor
      · intro h
        cases h
      · rintro ⟨_ | ⟨d, ds⟩, hds, -⟩ <;> cases hds
    | some d =>
      refine ih.trans ?_
      constructor
      · rintro ⟨ds, hds, hn⟩
        exact ⟨d :: ds, congrArg (some d :: ·) hds, hn⟩
      · rintro ⟨_ | ⟨e, ds⟩, hds, hn⟩
        · cases hds
        · obtain ⟨he, htail⟩ := List.cons.inj hds
          obtain rfl : d = e := Option.some.inj he
          exact ⟨ds, htail, hn⟩

theorem value?_eq_some_iff {run : List Char} {n : Nat} : value? run = some n ↔ Denotes run n := by
  -- The value that the digits are given from the left is the positional one.
  have hpositional (ds : List Nat) : Nat.ofDigits 10 ds.reverse =
      ds.foldl (fun n d => 10 * n + d) 0 := by
    rw [Nat.ofDigits_eq_foldr, List.foldr_reverse]
    simp [Nat.add_comm]
  rw [value?, foldlM_eq_some_iff]
  constructor
  · rintro ⟨ds, hds, hn⟩
    refine ⟨ds, hds, fun d hd => ?_, hn.trans (hpositional ds).symm⟩
    have hmem : some d ∈ run.map Text.decimalDigit? := hds ▸ List.mem_map_of_mem hd
    obtain ⟨c, -, hc⟩ := List.mem_map.1 hmem
    exact Text.decimalDigit?_lt hc
  · rintro ⟨ds, hds, -, hn⟩
    exact ⟨ds, hds, hn.trans (hpositional ds)⟩

/-- Whether a run is the numeral of an index: it is not too long to be read, and the number that it
denotes is not too large. -/
def Represents (run : List Char) (n : Nat) : Prop :=
  run.length ≤ 4300 ∧ Denotes run n ∧ n ≤ 2 ^ 64 - 1

theorem read_of_represents {run : List Char} {n : Nat} (h : Represents run n) : read run = n := by
  obtain ⟨hlength, hvalue, hn⟩ := h
  have hshort : run.length ≤ maxDigits := hlength
  rw [read, if_pos hshort, value?_eq_some_iff.2 hvalue]
  exact if_pos hn

theorem read_eq_zero {run : List Char} (h : ∀ n, ¬ Represents run n) : read run = 0 := by
  unfold read
  split
  · next hlength =>
    cases hvalue : value? run with
    | none => rfl
    | some n => exact if_neg fun hn => h n ⟨hlength, value?_eq_some_iff.1 hvalue, hn⟩
  · rfl

/-- A number that is written in base ten is its own index, unless it is too large. -/
theorem read_toDigits_eq (n : Nat) :
    read (Nat.toDigits 10 n) = if n ≤ 2 ^ 64 - 1 then n else 0 := by
  split
  · next hn => exact read_toDigits hn
  · next hn =>
    refine read_eq_zero fun m hm => hn ?_
    have hsame : some n = some m := by rw [← value?_toDigits n, value?_eq_some_iff.2 hm.2.1]
    exact Option.some.inj hsame ▸ hm.2.2

end Index

/-! ## Parameters in braces -/

namespace Identifier.ReadFrom

variable {run : List Char} {continues : Char → Bool} {id : Identifier}

/-- The tokens of an identifier in braces. -/
theorem tokenize_enclose (h : id.ReadFrom run continues) :
    tokenize (.ofList (Node.enclose run)) =
      [⟨.mark .dollar, .start, ⟨1, 1, 2⟩⟩, ⟨.mark .openBrace, ⟨1, 1, 2⟩, ⟨2, 1, 3⟩⟩,
       ⟨id.token, ⟨2, 1, 3⟩, ⟨run.length + 2, 1, run.length + 3⟩⟩,
       ⟨.mark .closeBrace, ⟨run.length + 2, 1, run.length + 3⟩,
        ⟨run.length + 3, 1, run.length + 4⟩⟩] := by
  have hnewline : '\n' ∉ run := fun hmem => absurd (h.isNameChar_of_mem _ hmem) (by decide)
  -- The lexer behind the opening brace, and then in front of the closing one.
  let inside : Lexer := ⟨⟨run ++ ['}'], ⟨2, 1, 3⟩⟩, some (.mark .openBrace), 1⟩
  let closing : Lexer := ⟨⟨['}'], ⟨run.length + 2, 1, run.length + 3⟩⟩, some id.token, 1⟩
  have hstart : Lexer.ofString (.ofList (Node.enclose run)) =
      ⟨⟨'$' :: '{' :: (run ++ ['}']), .start⟩, none, 0⟩ := by
    simp [Lexer.ofString, Cursor.ofString, Node.enclose]
  have hid : inside.next? =
      some (⟨id.token, ⟨2, 1, 3⟩, ⟨run.length + 2, 1, run.length + 3⟩⟩, closing) := by
    have hlexeme : inside.lexeme? = some ⟨id.token, run⟩ :=
      h.lexeme?_eq rfl rfl rfl fun e he => by
        obtain rfl : '}' = e := by simpa using he
        exact h.continues_eq_false (by decide)
    rw [Lexer.next?_of_lexeme? hlexeme]
    simp [inside, closing, Lexer.skip, Cursor.skip, Position.steps_of_not_mem hnewline, Nat.add_comm]
  have hclose : closing.tokens = [⟨.mark .closeBrace, ⟨run.length + 2, 1, run.length + 3⟩,
      ⟨run.length + 3, 1, run.length + 4⟩⟩] := by
    rw [Lexer.tokens_of_some rfl, Lexer.tokens_of_none rfl]
    rfl
  rw [tokenize, hstart, Lexer.tokens_of_some rfl,
    Lexer.tokens_of_some (show Lexer.next? _ = some (_, inside) from rfl),
    Lexer.tokens_of_some hid, hclose]
  rfl

/-- An identifier in braces is a template of one parameter. -/
theorem ofString_enclose (h : id.ReadFrom run continues) :
    Template.ofString (.ofList (Node.enclose run)) = .ok ⟨[.simple id none .start]⟩ := by
  rw [Template.ofString_eq_ofSource_tokenize, h.tokenize_enclose]
  have hheight : ∀ d ∈ [Derivation.braced id], d.height ≤ Parser.maxNesting :=
    List.forall_mem_singleton.2 (by decide : 1 ≤ Parser.maxNesting)
  refine Template.ofSource_eq_of_sentence [.braced id] hheight rfl rfl ?_
  cases id <;> rfl

end Identifier.ReadFrom

/-- The text of a parameter in braces. -/
theorem Node.ofList_enclose (s : String) : String.ofList (enclose s.toList) = "$\x7b" ++ s ++ "\x7d" := by
  apply String.toList_injective
  simp [enclose]

namespace Template

open Index

/-- A number in braces stands for the positional value of this number, or for all positional values if
the number is too large. -/
theorem ofString_number (n : Nat) : ofString ("$\x7b" ++ toString n ++ "\x7d") =
    .ok ⟨[.simple (.index (if n ≤ 2 ^ 64 - 1 then n else 0)) none .start]⟩ := by
  have hdigits : ∀ d ∈ Nat.toDigits 10 n, Text.isNumeric d = true := fun d hd =>
    isNumeric_of_isDigit (Nat.isDigit_of_mem_toDigits (by decide) (by decide) hd)
  have hread := Identifier.ReadFrom.index Nat.toDigits_ne_nil hdigits
  have htext : (toString n).toList = Nat.toDigits 10 n := String.toList_ofList
  rw [← Node.ofList_enclose, htext, hread.ofString_enclose, read_toDigits_eq]

/-- A run of numeric characters in braces is one token between the braces. It is the index that the run
denotes in base ten, if all characters are decimal digits, there are not too many of them and the
number is small enough, and zero otherwise. So every number is an index of its own or reads as zero,
and no two numbers that are indexes are confused. -/
theorem index_exact_or_zero :
    (∀ run : String, run ≠ "" → (∀ c ∈ run.toList, Text.isNumeric c = true) →
      ∃ v, tokenize ("$\x7b" ++ run ++ "\x7d") =
          [⟨.mark .dollar, ⟨0, 1, 1⟩, ⟨1, 1, 2⟩⟩, ⟨.mark .openBrace, ⟨1, 1, 2⟩, ⟨2, 1, 3⟩⟩,
           ⟨.index v, ⟨2, 1, 3⟩, ⟨run.length + 2, 1, run.length + 3⟩⟩,
           ⟨.mark .closeBrace, ⟨run.length + 2, 1, run.length + 3⟩,
            ⟨run.length + 3, 1, run.length + 4⟩⟩] ∧
        v ≤ 2 ^ 64 - 1 ∧ (∀ n, Represents run.toList n → v = n) ∧
        ((∀ n, ¬ Represents run.toList n) → v = 0)) ∧
    (∀ n : Nat, ofString ("$\x7b" ++ toString n ++ "\x7d") =
      .ok ⟨[.simple (.index (if n ≤ 2 ^ 64 - 1 then n else 0)) none .start]⟩) ∧
    ∀ m n : Nat, ofString ("$\x7b" ++ toString m ++ "\x7d") =
        ofString ("$\x7b" ++ toString n ++ "\x7d") ↔
      m = n ∨ (m = 0 ∨ 2 ^ 64 - 1 < m) ∧ (n = 0 ∨ 2 ^ 64 - 1 < n) := by
  refine ⟨?_, ofString_number, ?_⟩
  · intro run hne hrun
    have hread := Identifier.ReadFrom.index (by simpa using hne) hrun
    refine ⟨read run.toList, ?_, read_le_max _, fun n => read_of_represents, read_eq_zero⟩
    rw [← Node.ofList_enclose, hread.tokenize_enclose, String.length_toList]
    rfl
  · intro m n
    rw [ofString_number, ofString_number]
    -- Both indexes are told by their templates.
    have hsame (i j : Nat) : (Except.ok ⟨[.simple (.index i) none .start]⟩ :
        Except ParseError Template) = .ok ⟨[.simple (.index j) none .start]⟩ ↔ i = j := by simp
    rw [hsame]
    split <;> split <;> omega

/-- Digits of two scripts behind a zero, and a character that is numeric but no digit. -/
theorem index_exact_or_zero_scripts :
    tokenize "$\x7b0٣5\x7d" =
      [⟨.mark .dollar, ⟨0, 1, 1⟩, ⟨1, 1, 2⟩⟩, ⟨.mark .openBrace, ⟨1, 1, 2⟩, ⟨2, 1, 3⟩⟩,
       ⟨.index 35, ⟨2, 1, 3⟩, ⟨5, 1, 6⟩⟩, ⟨.mark .closeBrace, ⟨5, 1, 6⟩, ⟨6, 1, 7⟩⟩] ∧
    tokenize "$\x7b²\x7d" =
      [⟨.mark .dollar, ⟨0, 1, 1⟩, ⟨1, 1, 2⟩⟩, ⟨.mark .openBrace, ⟨1, 1, 2⟩, ⟨2, 1, 3⟩⟩,
       ⟨.index 0, ⟨2, 1, 3⟩, ⟨3, 1, 4⟩⟩, ⟨.mark .closeBrace, ⟨3, 1, 4⟩, ⟨4, 1, 5⟩⟩] := by
  -- Digits of two scripts make up a number, and a superscript is no digit.
  constructor
  · obtain ⟨v, htokens, -, hv, -⟩ := index_exact_or_zero.1 "0٣5" (by decide)
      (List.all_eq_true.1 (by decide))
    have hdenotes : Denotes "0٣5".toList 35 := ⟨[0, 3, 5], by decide, by decide, by decide⟩
    obtain rfl : v = 35 := hv 35 ⟨by decide, hdenotes, by decide⟩
    exact htokens
  · obtain ⟨v, htokens, -, -, hv⟩ := index_exact_or_zero.1 "²" (by decide)
      (List.all_eq_true.1 (by decide))
    have hnone : value? "²".toList = none := by decide
    obtain rfl : v = 0 := hv fun n hn => by
      have hsome := value?_eq_some_iff.2 hn.2.1
      rw [hnone] at hsome
      cases hsome
    exact htokens

end Template

end ParamExpansion
