import ParamExpansion.Proofs.Evaluation
import ParamExpansion.Proofs.Locations

/-!
# A text behind other characters

With some characters in front of it a text lies further on, and its first line goes on from the last
line of these. Where the lexer begins anew behind them, it reads the tokens of the text there, and the
parser makes of these what it makes of the text alone: the nodes come behind others, and an error is
the same one at its new place.
-/

namespace ParamExpansion

open Token (Kind kinds dollars)

/-! ## Positions -/

namespace Position

/-- Where a position of a text lies with some characters in front of the text. The columns of the first
line are counted on from the last line of these characters. -/
def after (cs : List Char) (p : Position) : Position where
  index := p.index + cs.length
  line := p.line + cs.count '\n'
  col := if p.line = 1 then p.col + (cs.reverse.takeWhile (· ≠ '\n')).length else p.col

theorem after_start (cs : List Char) : start.after cs = start.steps cs := by
  have hindex := index_start_steps cs
  have hline := line_steps start cs
  have hcol := col_start_steps cs
  simp only [after, start, Nat.zero_add, if_true] at hindex hline hcol ⊢
  rw [← hindex, ← hline, ← hcol]

@[simp] theorem after_nil (p : Position) : p.after [] = p := by simp [after]

/-- Lines are counted from one, so behind a step to a new line the first line is over. -/
theorem after_step (cs : List Char) {p : Position} (h : 1 ≤ p.line) (c : Char) :
    (p.step c).after cs = (p.after cs).step c := by
  by_cases hc : c = '\n'
  · have hline : p.line ≠ 0 := Nat.ne_of_gt h
    simp [step, after, hc, hline, Nat.add_right_comm]
  · by_cases hline : p.line = 1 <;> simp [step, after, hc, hline, Nat.add_right_comm]

theorem one_le_line_step {p : Position} (h : 1 ≤ p.line) (c : Char) : 1 ≤ (p.step c).line := by
  unfold step
  split
  · exact Nat.le_add_left 1 p.line
  · exact h

end Position

/-- The tokens of a text behind some characters. -/
theorem Lexer.tokens_inFrontOf_after (cs : List Char) (text : String) :
    (inFrontOf (Position.start.steps cs) text.toList).tokens =
      (tokenize text).map (Token.relocate (Position.after cs)) := by
  rw [← Position.after_start]
  exact tokens_relocate (1 ≤ ·.line) (fun _ c h => Position.one_le_line_step h c)
    (fun _ c h => Position.after_step cs h c) (l := ofString text) (Nat.le_refl 1)

/-! ## Errors -/

namespace ExpansionError

/-- The error at another place. -/
def relocate (f : Position → Position) : ExpansionError → ExpansionError
  | parse e => parse (e.relocate f)
  | eval e => eval (e.relocate f)

variable (f : Position → Position) (e : ExpansionError)

@[simp] theorem message_relocate : (e.relocate f).message = e.message := by cases e <;> rfl

/-- Only the place counts to which the error is moved. -/
theorem relocate_eq : e.relocate f = e.relocate fun _ => f e.position := by cases e <;> rfl

@[simp] theorem relocate_id : e.relocate (fun p => p) = e := by cases e <;> rfl

end ExpansionError

/-! ## Templates -/

namespace Template

open ParamExpansion.Derivation ParamExpansion.Parser

/-- Behind tokens that form nodes, others form their own nodes, or have their own error, at another
place. -/
theorem ofSource_append {ts us : List Token} (ds : List Derivation) (ns : List Node)
    (f : Position → Position) (hts : kinds ts = yields ds) (hds : ∀ d ∈ ds, d.height ≤ maxNesting)
    (hns : ns.map Node.unplaced = ds.map Derivation.node)
    (hnp : ns.flatMap Node.positions = dollars ts)
    (hhead : ∀ t, us.head? = some t → t.kind = .mark .dollar ∨ ∃ value, t.kind = .text value) :
    ofSource (ts ++ us.map (Token.relocate f)) =
      ((ofSource us).map fun t => ⟨ns ++ (t.relocate f).nodes⟩).mapError (ParseError.relocate f) := by
  have hheight {es : List Derivation} (hes : ∀ d ∈ es, d.height ≤ maxNesting) :
      ∀ d ∈ ds ++ es, d.height ≤ maxNesting := fun d hd =>
    (List.mem_append.1 hd).elim (hds d) (hes d)
  rcases ofSource_cases us with
    ⟨es, t, hus, hes, ht, hs, hp⟩ | ⟨es, vs, ws, rest, cause, rfl, hvs, hes, hne, hb, he⟩
  · have hkinds : kinds (ts ++ us.map (Token.relocate f)) = yields (ds ++ es) := by
      rw [Token.kinds_append, yields_append, hts, Token.kinds_relocate, hus]
    have hshapes : (t.relocate f).nodes.map Node.unplaced = es.map Derivation.node :=
      congrArg Template.nodes ((unplaced_relocate f t).trans hs)
    have hpositions : (t.relocate f).nodes.flatMap Node.positions = (dollars us).map f := by
      rw [← hp]
      exact positions_relocate f t
    have hnodes : ofSource (ts ++ us.map (Token.relocate f)) = .ok ⟨ns ++ (t.relocate f).nodes⟩ := by
      apply ofSource_eq_of_sentence _ (hheight hes) hkinds
      · rw [List.map_append, hns, hshapes, List.map_append]
      · rw [List.flatMap_append, hnp, hpositions, ← Token.dollars_relocate, Token.dollars_append]
    rw [ht, hnodes]
    rfl
  · obtain ⟨-, htaken⟩ := taken_of_blocked hhead hne hb
    have hkinds : kinds (ts ++ vs.map (Token.relocate f)) = yields (ds ++ es) := by
      rw [Token.kinds_append, yields_append, hts, Token.kinds_relocate, hvs]
    -- At least one token is taken, so where the last one stops is told by these tokens alone.
    have hbehind : behind none (ts ++ vs.map (Token.relocate f) ++ ws.map (Token.relocate f) ++
          offending cause (rest.map (Token.relocate f))) =
        (behind none (vs ++ ws ++ offending cause rest)).map f := by
      have hmap : vs.map (Token.relocate f) ++ (ws.map (Token.relocate f) ++
          (offending cause rest).map (Token.relocate f)) =
            (vs ++ ws ++ offending cause rest).map (Token.relocate f) := by simp
      rw [offending_relocate, List.append_assoc, List.append_assoc, hmap, behind_append,
        behind_eq_of_ne_nil (by simpa using htaken) _ none]
      exact behind_relocate f none _
    rw [List.map_append, List.map_append, ← List.append_assoc, he,
      ofSource_of_blocked_relocate hkinds (hheight hes) hb hne htaken hbehind rfl]
    rfl

end Template

end ParamExpansion
