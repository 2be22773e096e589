import ParamExpansion.Proofs.LineBreaks
import ParamExpansion.Proofs.Placement

/-!
# A text moved to another place

Moved behind some lines, a text is read as the same tokens, which all lie as many characters and
lines further on.
-/

namespace ParamExpansion

open Token (Kind kinds)

namespace Position

/-- The position so many characters and lines further on, in the same column. -/
def shift (chars lines : Nat) (p : Position) : Position := ⟨p.index + chars, p.line + lines, p.col⟩

@[simp] theorem shift_zero (p : Position) : p.shift 0 0 = p := rfl

@[simp] theorem shift_shift (a b c d : Nat) (p : Position) :
    (p.shift a b).shift c d = p.shift (a + c) (b + d) := by
  simp [shift, Nat.add_assoc]

theorem shift_step (chars lines : Nat) (p : Position) (c : Char) :
    (p.step c).shift chars lines = (p.shift chars lines).step c := by
  unfold step
  split <;> simp [shift, Nat.add_right_comm]

/-- Behind the end of a line a new line begins. -/
theorem steps_of_endsLine {cs : List Char} (h : EndsLine cs) (p : Position) :
    p.steps cs = ⟨p.index + cs.length, p.line + cs.count '\n', 1⟩ := by
  induction cs generalizing p with
  | nil => exact absurd rfl h.ne_nil
  | cons c cs ih =>
    -- Only the last step has to lead to a new line. The columns before it do not matter.
    rcases h.uncons with ⟨rfl, rfl⟩ | h
    · simp [step]
    · rw [steps_cons, ih h]
      by_cases hc : c = '\n'
      · simp [step, hc, Nat.add_assoc, Nat.add_comm 1]
      · simp [step, hc, Nat.add_assoc, Nat.add_comm 1]

end Position

/-- A position behind some lines is the same position in what follows, further on. -/
theorem Position.start_steps {cs : List Char} (h : EndsLine cs) :
    start.steps cs = start.shift cs.length (cs.count '\n') := by
  rw [steps_of_endsLine h]
  rfl

/-- The token at another place. -/
def Token.relocate (f : Position → Position) (t : Token) : Token :=
  { t with start := f t.start, stop := f t.stop }

namespace Token

variable (f : Position → Position)

@[simp] theorem kind_relocate (t : Token) : (t.relocate f).kind = t.kind := rfl

@[simp] theorem kinds_relocate (ts : List Token) : kinds (ts.map (relocate f)) = kinds ts := by
  simp [kinds]

@[simp] theorem dollars_relocate (ts : List Token) :
    dollars (ts.map (relocate f)) = (dollars ts).map f := by
  induction ts with
  | nil => rfl
  | cons t ts ih =>
    rw [List.map_cons, dollars_cons, dollars_cons, kind_relocate, ih]
    split <;> rfl

end Token

namespace Lexer

/-- The lexer in the same text at another place. -/
def relocate (f : Position → Position) (l : Lexer) : Lexer :=
  { l with cursor := { l.cursor with position := f l.cursor.position } }

/-- What comes next is the same at both places. It lies where `f` leads if `f` commutes with each step
over a character, from the positions that can be reached. -/
theorem tokens_relocate (Reached : Position → Prop) {f : Position → Position}
    (hreached : ∀ p c, Reached p → Reached (p.step c))
    (hf : ∀ p c, Reached p → f (p.step c) = (f p).step c) {l : Lexer}
    (hl : Reached l.cursor.position) :
    (l.relocate f).tokens = l.tokens.map (Token.relocate f) := by
  have hsteps (cs : List Char) {p : Position} (hp : Reached p) :
      Reached (p.steps cs) ∧ f (p.steps cs) = (f p).steps cs := by
    induction cs generalizing p with
    | nil => exact ⟨hp, rfl⟩
    | cons c cs ih =>
      rw [Position.steps_cons, Position.steps_cons, ← hf p c hp]
      exact ih (hreached p c hp)
  -- The induction is on the length of the remaining text. Moving the lexer changes no lexeme.
  induction hn : l.cursor.rest.length using Nat.strongRecOn generalizing l with
  | ind n ih =>
    subst hn
    have hx : (l.relocate f).lexeme? = l.lexeme? := rfl
    cases h : l.lexeme? with
    | none =>
      rw [tokens_of_none (next?_eq_none_iff.2 h), tokens_of_none (next?_eq_none_iff.2 (hx.trans h))]
      rfl
    | some x =>
      obtain ⟨hskipped, hmoved⟩ := hsteps (l.cursor.rest.take x.slice.length) hl
      have hskip : (l.relocate f).skip x = (l.skip x).relocate f := by
        simp [skip, relocate, Cursor.skip, hmoved]
      have hl := next?_of_lexeme? h
      rw [tokens_of_some hl, tokens_of_some (next?_of_lexeme? (hx.trans h)), hskip,
        ih _ (rest_length_lt_of_next? hl) hskipped rfl]
      rfl

/-- The tokens of a text that lies behind some lines. -/
theorem tokens_inFrontOf_shift (chars lines : Nat) (p : Position) (cs : List Char) :
    (inFrontOf (p.shift chars lines) cs).tokens =
      (inFrontOf p cs).tokens.map (Token.relocate (Position.shift chars lines)) :=
  tokens_relocate (fun _ => True) (fun _ _ h => h)
    (fun p c _ => Position.shift_step chars lines p c) (l := inFrontOf p cs) trivial

end Lexer

end ParamExpansion
