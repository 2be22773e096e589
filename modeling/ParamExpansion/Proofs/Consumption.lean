import ParamExpansion.Proofs.Parsing
import ParamExpansion.Proofs.Runs

/-!
# No part of a text is dropped

The lexer stops at the end of the text, and also at the end of a line inside braces. The parser does
not see the difference. But a node closes all the braces that it opens, so the tokens of a template
leave none open, and where they come to an end the text does too.
-/

namespace ParamExpansion

open Token (Kind kinds nestings)

/-! ## Open braces -/

namespace Derivation

@[simp] theorem nesting_token (id : Identifier) (n : Nat) : id.token.nesting n = n := by
  cases id <;> rfl

@[simp] theorem nestings_colonTokens (colon : Bool) (n : Nat) :
    nestings (colonTokens colon) n = n := by
  cases colon <;> rfl

theorem nestings_guarded (id : Identifier) (colon : Bool) {m : Mark}
    (hm : m ≠ .openBrace ∧ m ≠ .closeBrace) (more : List Kind) (n : Nat) :
    nestings (guarded id colon m more) n = nestings more n := by
  have h : Kind.nesting (.mark m) n = n := by cases m <;> simp_all [Kind.nesting]
  simp [guarded, h]

/-- A node closes the brace that it opens, if what stands inside closes all others. -/
theorem nestings_yield_of_inside {d : Derivation}
    (h : ∀ inside, d.yield = enclosed inside → ∀ n, nestings inside n = n) (n : Nat) :
    nestings d.yield n = n := by
  rcases d.exists_inside with ⟨value, rfl⟩ | ⟨id, rfl⟩ | ⟨inside, hy, -⟩
  · rfl
  · simp [yield, Kind.nesting]
  · rw [hy]
    simp [enclosed, opened, h inside hy, Kind.nesting]

/-- What stands between the braces of a parameter leaves as many open as it finds. -/
theorem nestings_inside {d : Derivation} {inside : List Kind} (hy : d.yield = enclosed inside)
    (n : Nat) : nestings inside n = n := by
  -- The induction is on the derivation. A payload stands inside one more brace, so `n` is free.
  induction d generalizing inside n with
  | text value => simp [yield, enclosed, opened] at hy
  | plain id => simp [yield, enclosed, opened] at hy
  | withDefault id colon payload ih | withAlternative id colon payload ih =>
    obtain rfl := enclosed_injective hy
    rw [nestings_guarded id colon (by decide), nestings_yield_of_inside fun _ h => ih h]
  | withError id colon message =>
    obtain rfl := enclosed_injective hy
    rw [nestings_guarded id colon (by decide)]
    cases message <;> rfl
  | cased id k all =>
    obtain rfl := enclosed_injective hy
    cases all <;> simp [Kind.nesting]
  | _ =>
    obtain rfl := enclosed_injective hy
    simp [Kind.nesting]

/-- A node leaves as many braces open as it finds. -/
theorem nestings_yield (d : Derivation) (n : Nat) : nestings d.yield n = n :=
  nestings_yield_of_inside (fun _ hy => nestings_inside hy) n

@[simp] theorem nestings_yields (ds : List Derivation) (n : Nat) : nestings (yields ds) n = n := by
  induction ds with
  | nil => rfl
  | cons d ds ih => rw [yields_cons, Token.nestings_append, nestings_yield, ih]

end Derivation

/-- Where a node is blocked, a brace is open, unless it is blocked at its start or directly behind
its dollar sign. -/
theorem Blocked.nestings_lt {room : Nat} {us : List Kind} {found : Option Kind}
    {cause : ParseError.Cause} (h : Blocked room us found cause) (n : Nat) :
    us = [] ∨ us = [.mark .dollar] ∨ n < nestings us n := by
  -- A parameter opens a brace, which remains open as long as the tokens behind it close no
  -- more than they open.
  have hopen {ks : List Kind} {n : Nat} (hk : n + 1 ≤ nestings ks (n + 1)) :
      n < nestings (Derivation.opened ks) n := hk
  induction h generalizing n with
  | missingNode | unexpectedToken => exact .inl rfl
  | missingParam | nestingTooDeep => exact .inr (.inl rfl)
  | missingContent | missingIdentifier | missingLengthOperand | lengthOperand | indirectOperand =>
    exact .inr (.inr (hopen (Nat.le_refl _)))
  | unterminated id colon | misplacedToken id hk =>
    exact .inr (.inr (hopen (by simp)))
  | payload id colon hm h ih =>
    refine .inr (.inr (hopen ?_))
    rw [Derivation.nestings_guarded id colon (by rcases hm with rfl | rfl <;> decide)]
    -- The payload is blocked at its start, behind its dollar sign, or inside a brace of its own.
    rcases ih (n + 1) with rfl | rfl | hlt
    · exact Nat.le_refl _
    · exact Nat.le_refl _
    · exact Nat.le_of_lt hlt
  | unclosed hd hy hf =>
    exact .inr (.inr (hopen (Nat.le_of_eq (Derivation.nestings_inside hy (n + 1)).symm)))

namespace Template

open ParamExpansion.Derivation Lexer

/-- A text that forms a template leaves no brace open. -/
theorem nesting_exhausted_of_ok {text : String} {t : Template} (h : ofString text = .ok t) :
    (Lexer.ofString text).exhausted.nesting = 0 := by
  obtain ⟨ds, hk, -⟩ := exists_derivations_of_ok h
  calc (Lexer.ofString text).exhausted.nesting
      = nestings (kinds (tokenize text)) 0 := (runs_exhausted _).1.nesting_eq
    _ = 0 := by rw [hk, nestings_yields]

/-- Of a text that forms a template all is read, and no brace is left open. Of any other text all is
read too, unless a line ends inside braces: the lexer stops there for good, and the text forms no
template. -/
theorem exhausted_ofString (text : String) :
    let l := (Lexer.ofString text).exhausted
    Runs (.ofString text) (tokenize text) l ∧ l.next? = none ∧
      ((∃ t, ofString text = .ok t) → l.cursor.position.index = text.length ∧ l.nesting = 0) ∧
      l.cursor.position.index ≤ text.length ∧
      (l.cursor.position.index < text.length →
        0 < l.nesting ∧ text.toList[l.cursor.position.index]? = some '\n' ∧
          ∃ e, ofString text = .error e) := by
  intro l
  obtain ⟨hr, hn⟩ := runs_exhausted (Lexer.ofString text)
  obtain ⟨cs, hc, hp⟩ := hr.covers
  have htext : text.toList = cs ++ l.cursor.rest := hc
  have hindex : l.cursor.position.index = cs.length := by
    have hp' : l.cursor.position = Position.start.steps cs := hp
    rw [hp', Position.index_steps]
    show 0 + cs.length = cs.length
    exact Nat.zero_add cs.length
  have hlength : text.length = cs.length + l.cursor.rest.length := by
    rw [← String.length_toList, htext, List.length_append]
  -- Nothing more is read here, because all has been read or because of the end of a line.
  have hstop := (hr.coherent (coherent_ofString text)).stopped hn
  refine ⟨hr, hn, ?_, by omega, ?_⟩
  · rintro ⟨t, ht⟩
    have h0 : l.nesting = 0 := nesting_exhausted_of_ok ht
    rcases hstop with hrest | ⟨hpos, -⟩
    -- Either all is read, or a brace is open, which a template does not allow.
    · have : l.cursor.rest.length = 0 := congrArg List.length hrest
      exact ⟨by omega, h0⟩
    · exact absurd h0 (Nat.ne_of_gt hpos)
  · intro hlt
    rcases hstop with hrest | ⟨hpos, hhead⟩
    · have : l.cursor.rest.length = 0 := congrArg List.length hrest
      omega
    · refine ⟨hpos, ?_, ?_⟩
      · rw [htext, hindex, List.getElem?_append_right (Nat.le_refl _), Nat.sub_self,
          ← List.head?_eq_getElem?]
        exact hhead
      -- A template would leave no brace open.
      · cases ht : ofString text with
        | error e => exact ⟨e, rfl⟩
        | ok t => exact absurd (nesting_exhausted_of_ok ht) (Nat.ne_of_gt hpos)

/-- A line that ends behind an opening brace. -/
theorem exhausted_ofString_openBrace :
    (Lexer.ofString "$\x7b\n").exhausted.cursor.position.index = 2 ∧
      ∃ e, ofString "$\x7b\n" = .error e := by
  have h : (Lexer.ofString "$\x7b\n").exhausted.cursor.position.index = 2 := by
    rw [exhausted_of_some rfl, exhausted_of_some rfl, exhausted_of_none rfl]
    rfl
  exact ⟨h, ((exhausted_ofString "$\x7b\n").2.2.2.2 (by rw [h]; decide)).2.2⟩

end Template

end ParamExpansion
