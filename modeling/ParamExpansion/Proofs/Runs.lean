import ParamExpansion.Proofs.Lexing
import ParamExpansion.Proofs.TokenKinds

/-!
# Runs of the lexer

A run reads some tokens and leaves the lexer further on in the text. Runs can be joined, and the
longest one reads exactly `Lexer.tokens`. What a run preserves is proved for one step first.
-/

namespace ParamExpansion

open Token (Kind kinds nestings)

namespace Lexer

/-- Reading the tokens `ts` leads from one lexer to another. -/
inductive Runs : Lexer → List Token → Lexer → Prop where
  | done (l : Lexer) : Runs l [] l
  | step {l l' l'' : Lexer} {t : Token} {ts : List Token} (h : l.next? = some (t, l'))
      (hs : Runs l' ts l'') : Runs l (t :: ts) l''

/-- The lexer behind the last token that can be read. -/
def exhausted (l : Lexer) : Lexer :=
  match _h : l.next? with
  | none => l
  | some (_, l') => l'.exhausted
termination_by l.cursor.rest.length
decreasing_by exact rest_length_lt_of_next? _h

theorem next?_of_lexeme? {l : Lexer} {x : Lexeme} (h : l.lexeme? = some x) :
    l.next? = some (⟨x.kind, l.cursor.position, (l.skip x).cursor.position⟩, l.skip x) := by
  rw [next?, h]
  rfl

@[simp] theorem next?_eq_none_iff {l : Lexer} : l.next? = none ↔ l.lexeme? = none :=
  Option.map_eq_none_iff

/-! ## The longest run -/

theorem tokens_of_none {l : Lexer} (h : l.next? = none) : l.tokens = [] := by
  unfold tokens
  split <;> simp_all

theorem tokens_of_some {l l' : Lexer} {t : Token} (h : l.next? = some (t, l')) :
    l.tokens = t :: l'.tokens := by
  rw [tokens]
  split <;> simp_all

theorem exhausted_of_none {l : Lexer} (h : l.next? = none) : l.exhausted = l := by
  unfold exhausted
  split <;> simp_all

theorem exhausted_of_some {l l' : Lexer} {t : Token} (h : l.next? = some (t, l')) :
    l.exhausted = l'.exhausted := by
  rw [exhausted]
  split <;> simp_all

/-- A lexer either can read no token, or it reads one and goes on. -/
theorem runs_exhausted (l : Lexer) : Runs l l.tokens l.exhausted ∧ l.exhausted.next? = none := by
  -- The induction is on the length of the remaining text, which every token makes shorter.
  induction hn : l.cursor.rest.length using Nat.strongRecOn generalizing l with
  | ind n ih =>
    subst hn
    cases h : l.next? with
    | none =>
      rw [tokens_of_none h, exhausted_of_none h]
      exact ⟨.done l, h⟩
    | some p =>
      obtain ⟨t, l'⟩ := p
      obtain ⟨hr, hn⟩ := ih _ (rest_length_lt_of_next? h) l' rfl
      rw [tokens_of_some h, exhausted_of_some h]
      exact ⟨.step h hr, hn⟩

theorem Runs.append {l l' l'' : Lexer} {ts us : List Token} (h : Runs l ts l')
    (h' : Runs l' us l'') : Runs l (ts ++ us) l'' := by
  induction h with
  | done => exact h'
  | step hs _ ih => exact .step hs (ih h')

/-- A run stops behind each of its tokens. -/
theorem Runs.exists_of_append {l l'' : Lexer} {ts us : List Token} (h : Runs l (ts ++ us) l'') :
    ∃ l', Runs l ts l' ∧ Runs l' us l'' := by
  induction ts generalizing l with
  | nil => exact ⟨l, .done l, h⟩
  | cons t ts ih =>
    cases h with
    | step hs hr =>
      obtain ⟨l', hts, hus⟩ := ih hr
      exact ⟨l', .step hs hts, hus⟩

theorem Runs.tokens_eq {l l' : Lexer} {ts : List Token} (h : Runs l ts l') :
    l.tokens = ts ++ l'.tokens := by
  induction h with
  | done => rfl
  | step hs _ ih => rw [tokens_of_some hs, ih, List.cons_append]

/-! ## What one step does -/

/-- One step reads a token off the front of the text. -/
structure Moves (l : Lexer) (x : Lexeme) (t : Token) (l' : Lexer) : Prop where
  reads : Reads l x
  kind : t.kind = x.kind
  start : t.start = l.cursor.position
  stop : t.stop = l'.cursor.position
  rest : l.cursor.rest = x.slice ++ l'.cursor.rest
  position : l'.cursor.position = l.cursor.position.steps x.slice
  previous : l'.previous = some x.kind
  nesting : l'.nesting = x.kind.nesting l.nesting

theorem moves_of_next? {l l' : Lexer} {t : Token} (h : l.next? = some (t, l')) :
    ∃ x, Moves l x t l' := by
  obtain ⟨x, hx, heq⟩ := Option.map_eq_some_iff.1 h
  cases heq
  have hp := (reads_of_lexeme? hx).slice_isPrefix
  obtain ⟨r, hr⟩ := hp
  -- The cursor skips as many characters as the token has, and these are its own.
  refine ⟨x, reads_of_lexeme? hx, rfl, rfl, rfl, ?_, ?_, rfl, rfl⟩
  · simp [skip, ← hr]
  · simp [skip, ← hr]

/-! ## What a run does -/

/-- A run covers a part of the text without gaps. -/
theorem Runs.covers {l l' : Lexer} {ts : List Token} (h : Runs l ts l') :
    ∃ cs, l.cursor.rest = cs ++ l'.cursor.rest ∧
      l'.cursor.position = l.cursor.position.steps cs := by
  induction h with
  | done l => exact ⟨[], rfl, rfl⟩
  | step hs _ ih =>
    obtain ⟨x, hx⟩ := moves_of_next? hs
    obtain ⟨cs, hr, hp⟩ := ih
    refine ⟨x.slice ++ cs, ?_, ?_⟩
    · rw [hx.rest, hr, List.append_assoc]
    · rw [hp, hx.position, Position.steps_append]

theorem Runs.nesting_eq {l l' : Lexer} {ts : List Token} (h : Runs l ts l') :
    l'.nesting = nestings (kinds ts) l.nesting := by
  induction h with
  | done l => rfl
  | step hs _ ih =>
    obtain ⟨x, hx⟩ := moves_of_next? hs
    rw [ih, hx.nesting, Token.kinds_cons, Token.nestings_cons, hx.kind]

theorem Runs.previous_eq {l l' : Lexer} {ts : List Token} (h : Runs l ts l') :
    l'.previous = (kinds ts).getLast?.or l.previous := by
  induction h with
  | done l => rfl
  | step hs _ ih =>
    obtain ⟨x, hx⟩ := moves_of_next? hs
    -- The last token of the run comes from its end, unless this step is the last one.
    rw [ih, hx.previous, Token.kinds_cons, List.getLast?_cons, hx.kind]
    cases (kinds _).getLast? <;> rfl

/-- Behind a dollar sign that is a token stands no other one, and outside braces no end of a line. -/
def Coherent (l : Lexer) : Prop :=
  l.previous = some (.mark .dollar) → l.cursor.rest.head? ≠ some '$' ∧
    (l.nesting = 0 → l.cursor.rest.head? ≠ some '\n')

theorem coherent_ofString (text : String) : (ofString text).Coherent := fun h => nomatch h

theorem Coherent.next {l l' : Lexer} {t : Token} (hl : l.Coherent) (h : l.next? = some (t, l')) :
    l'.Coherent := by
  obtain ⟨x, hx⟩ := moves_of_next? h
  intro hp
  have hk : x.kind = .mark .dollar := by simpa [hx.previous] using hp
  have hn : l'.nesting = l.nesting := by rw [hx.nesting, hk]; rfl
  have hrest := hx.rest
  -- Only the reading of a mark leaves a dollar sign behind.
  cases hx.reads with
  | mark m cs hr hd hi =>
    cases hk
    obtain rfl : cs = l'.cursor.rest := by simpa [hr] using hrest
    refine ⟨hd rfl, fun hn' => ?_⟩
    rw [hn] at hn'
    rcases hi with hi | ⟨-, ho⟩
    · -- Inside a parameter, but outside braces, the token before is a dollar sign.
      have hprev : l.previous = some (.mark .dollar) := by simpa [inParam, hn'] using hi
      exact absurd (by rw [hr]; rfl) (hl hprev).1
    · obtain ⟨c, r, hc, -, hnl, -⟩ := Lexeme.opensParam_iff.1 ho
      rw [hr] at hc
      obtain ⟨-, hc⟩ := List.cons.inj hc
      simpa [hc] using hnl
  | _ => cases hk

theorem Runs.coherent {l l' : Lexer} {ts : List Token} (h : Runs l ts l') (hl : l.Coherent) :
    l'.Coherent := by
  induction h with
  | done l => exact hl
  | step hs _ ih => exact ih (hl.next hs)

/-- Reading stops at the end of the text, or at the end of a line inside braces. -/
theorem Coherent.stopped {l : Lexer} (hl : l.Coherent) (h : l.next? = none) :
    l.cursor.rest = [] ∨ 0 < l.nesting ∧ l.cursor.rest.head? = some '\n' := by
  rcases stopped_of_lexeme?_eq_none (next?_eq_none_iff.1 h) with hr | ⟨hi, hr⟩
  · exact .inl hr
  · refine .inr ⟨Nat.pos_of_ne_zero fun hn => ?_, hr⟩
    have hprev : l.previous = some (.mark .dollar) := by simpa [inParam, hn] using hi
    exact (hl hprev).2 hn hr

end Lexer

end ParamExpansion
