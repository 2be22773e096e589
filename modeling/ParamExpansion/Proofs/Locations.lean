import Mathlib.Data.List.Induction
import Mathlib.Data.List.TakeWhile
import ParamExpansion.Position

/-!
# The line and the column of an offset

Positions are found by walking over a text one character at a time. Where such a walk arrives depends
only on how many characters it has passed: the line counts the line feeds among them, and the column
the characters behind the last of these.
-/

namespace ParamExpansion

namespace Position

/-- Whether a position is that of an offset in a text. -/
structure LiesIn (p : Position) (text : String) : Prop where
  index_le : p.index ≤ text.length
  line_eq : p.line = 1 + (text.toList.take p.index).count '\n'
  col_eq : p.col = 1 + ((text.toList.take p.index).reverse.takeWhile (· ≠ '\n')).length

/-- Characters on one line are all behind the last line feed. -/
theorem takeWhile_reverse_of_not_mem {cs : List Char} (h : '\n' ∉ cs) :
    cs.reverse.takeWhile (· ≠ '\n') = cs.reverse := by
  rw [List.takeWhile_eq_self_iff]
  intro c hc
  have hne : c ≠ '\n' := fun heq => h (heq ▸ List.mem_reverse.1 hc)
  simpa using hne

theorem index_start_steps (cs : List Char) : (start.steps cs).index = cs.length := by
  rw [index_steps]
  exact Nat.zero_add cs.length

theorem line_steps (p : Position) (cs : List Char) : (p.steps cs).line = p.line + cs.count '\n' := by
  induction cs generalizing p with
  | nil => rfl
  | cons c cs ih =>
    rw [steps_cons, ih]
    by_cases hc : c = '\n'
    · simp [step, hc, Nat.add_assoc, Nat.add_comm 1]
    · simp [step, hc]

theorem col_start_steps (cs : List Char) :
    (start.steps cs).col = 1 + (cs.reverse.takeWhile (· ≠ '\n')).length := by
  -- The last character decides whether the column starts anew, so the induction is from the end.
  induction cs using List.reverseRecOn with
  | nil => rfl
  | append_singleton cs c ih =>
    rw [steps_append, steps_cons, steps_nil]
    by_cases hc : c = '\n'
    · simp [step, hc]
    · simp [step, hc, ih, Nat.add_assoc]

/-- A walk over characters on one line stays on this line. -/
theorem steps_of_not_mem {cs : List Char} (h : '\n' ∉ cs) (p : Position) :
    p.steps cs = ⟨p.index + cs.length, p.line, p.col + cs.length⟩ := by
  induction cs generalizing p with
  | nil => rfl
  | cons c cs ih =>
    obtain ⟨hc, hcs⟩ := List.ne_and_not_mem_of_not_mem_cons h
    simp [ih hcs, step, hc.symm, Nat.add_assoc, Nat.add_comm 1]

/-- Where a walk from the beginning of a text arrives, the text has that position. -/
theorem start_steps_liesIn {text : String} {cs ds : List Char} (h : text.toList = cs ++ ds) :
    (start.steps cs).LiesIn text := by
  have htake : text.toList.take (start.steps cs).index = cs := by
    rw [index_start_steps, h, List.take_left]
  refine ⟨?_, ?_, ?_⟩
  · rw [index_start_steps, ← String.length_toList, h, List.length_append]
    exact Nat.le_add_right _ _
  · rw [htake, line_steps]
    rfl
  · rw [htake, col_start_steps]

/-- In front of a character of the text neither the line nor the column exceeds the length. -/
theorem LiesIn.le_length {p : Position} {text : String} (h : p.LiesIn text)
    (hlt : p.index < text.length) : p.line ≤ text.length ∧ p.col ≤ text.length := by
  have hline : (text.toList.take p.index).count '\n' ≤ p.index :=
    Nat.le_trans List.count_le_length (List.length_take_le _ _)
  have hcol : ((text.toList.take p.index).reverse.takeWhile (· ≠ '\n')).length ≤ p.index := by
    refine Nat.le_trans (List.takeWhile_prefix _).length_le ?_
    rw [List.length_reverse]
    exact List.length_take_le _ _
  rw [h.line_eq, h.col_eq]
  omega

end Position

end ParamExpansion
