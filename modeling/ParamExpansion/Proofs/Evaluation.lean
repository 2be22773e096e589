import ParamExpansion.Expander
import ParamExpansion.Proofs.Cut

/-!
# The outcome of an evaluation

The outcome of an evaluation does not depend on the trace. The nodes of two templates are evaluated
one template after the other. An error lies at a parameter, and a parameter at another place fails at
that place.
-/

namespace ParamExpansion

section

variable {ε δ α β : Type}

@[simp] theorem ok_bind (a : α) (f : α → Except ε β) : (.ok a >>= f) = f a := rfl

@[simp] theorem error_bind (e : ε) (f : α → Except ε β) :
    ((.error e : Except ε α) >>= f) = .error e := rfl

@[simp] theorem mapError_ok (f : ε → δ) (a : α) :
    (.ok a : Except ε α).mapError f = .ok a := rfl

@[simp] theorem mapError_error (f : ε → δ) (e : ε) :
    (.error e : Except ε α).mapError f = .error (f e) := rfl

/-- An error comes from the first step or, behind its value, from the second one. -/
theorem error_or_of_bind {x : Except ε α} {f : α → Except ε β} {e : ε}
    (h : (x >>= f) = .error e) : x = .error e ∨ ∃ a, x = .ok a ∧ f a = .error e := by
  cases x with
  | error e' => cases h; exact .inl rfl
  | ok a => exact .inr ⟨a, rfl, h⟩

/-- Steps that end with a value do so one after the other. -/
theorem exists_of_bind_eq_ok {x : Except ε α} {f : α → Except ε β} {b : β}
    (h : (x >>= f) = .ok b) : ∃ a, x = .ok a ∧ f a = .ok b := by
  cases x with
  | error e => cases h
  | ok a => exact ⟨a, rfl, h⟩

end

namespace Traced

variable {ι ε δ α β : Type}

@[simp] theorem outcome_pure (a : α) : (pure a : Traced ι ε α).outcome = .ok a := rfl

@[simp] theorem outcome_throw (e : ε) : (throw e : Traced ι ε α).outcome = .error e := rfl

@[simp] theorem outcome_record (verbosity : Nat) (event : Event ι) :
    (record verbosity event : Traced ι ε Unit).outcome = .ok () := rfl

@[simp] theorem outcome_mapError (f : ε → δ) (x : Traced ι ε α) :
    (x.mapError f).outcome = x.outcome.mapError f := rfl

@[simp] theorem outcome_bind (x : Traced ι ε α) (f : α → Traced ι ε β) :
    (x >>= f).outcome = x.outcome >>= fun a => (f a).outcome := by
  change (x.bind f).outcome = _
  unfold bind
  split <;> simp_all [Bind.bind, Except.bind]

end Traced

/-- The error at another place. -/
def EvalError.relocate (f : Position → Position) (e : EvalError) : EvalError :=
  { e with position := f e.position }

namespace Expander

variable (x : Expander)

@[simp] theorem outcome_lookUp (id : Identifier) :
    (x.lookUp id).outcome = .ok (x.values.resolve id) := rfl

theorem exists_outcome_lookUpUnless (emptyIsUnset : Bool) (id : Identifier) :
    ∃ value, (x.lookUpUnless emptyIsUnset id).outcome = .ok value := ⟨_, rfl⟩

variable (f : Position → Position)

theorem outcome_substitute_relocate (id : Identifier) (p : Position) (text : String) :
    (x.substitute id (f p) text).outcome =
      (x.substitute id p text).outcome.mapError (EvalError.relocate f) := by
  unfold substitute
  split <;> rfl

theorem outcome_require_relocate (id : Identifier) (p : Position) :
    (x.require id (f p)).outcome = (x.require id p).outcome.mapError (EvalError.relocate f) := by
  simp only [require, Traced.outcome_bind, outcome_lookUp, ok_bind]
  cases x.values.resolve id with
  | none => exact x.outcome_substitute_relocate f id p ""
  | some value => rfl

/-- A parameter at another place fails at that place. -/
theorem outcome_evaluateNode_relocate (n : Node) :
    (x.evaluateNode (n.relocate f)).outcome =
      (x.evaluateNode n).outcome.mapError (EvalError.relocate f) := by
  induction n with
  | text value | arity p => rfl
  | simple id modifier p =>
    simp only [Node.relocate, evaluateNode, Traced.outcome_bind, outcome_require_relocate]
    cases (x.require id p).outcome <;> rfl
  | length id p =>
    simp only [Node.relocate, evaluateNode, Traced.outcome_bind, outcome_lookUp, ok_bind]
    cases x.values.resolve id with
    | none => exact x.outcome_substitute_relocate f id p "0"
    | some value => rfl
  | indirect id p =>
    simp only [Node.relocate, evaluateNode, Traced.outcome_bind, outcome_require_relocate]
    cases (x.require id p).outcome <;> rfl
  -- The default is only evaluated when there is no value, and the alternative only when there is.
  | withDefault id default emptyIsUnset p ih =>
    obtain ⟨value, hv⟩ := x.exists_outcome_lookUpUnless emptyIsUnset id
    simp only [Node.relocate, evaluateNode, Traced.outcome_bind, hv, ok_bind]
    cases value with
    | none => exact ih
    | some value => rfl
  | withAlternative id alternative emptyIsUnset p ih =>
    obtain ⟨value, hv⟩ := x.exists_outcome_lookUpUnless emptyIsUnset id
    simp only [Node.relocate, evaluateNode, Traced.outcome_bind, hv, ok_bind]
    cases value with
    | none => rfl
    | some value => exact ih
  | withError id message emptyIsUnset p =>
    obtain ⟨value, hv⟩ := x.exists_outcome_lookUpUnless emptyIsUnset id
    simp only [Node.relocate, evaluateNode, Traced.outcome_bind, hv, ok_bind]
    cases value <;> rfl

theorem outcome_evaluateNodes_relocate (ns : List Node) :
    (x.evaluateNodes (ns.map (Node.relocate f))).outcome =
      (x.evaluateNodes ns).outcome.mapError (EvalError.relocate f) := by
  induction ns with
  | nil => rfl
  | cons n ns ih =>
    simp only [List.map_cons, evaluateNodes, Traced.outcome_bind, Traced.outcome_pure, ih,
      outcome_evaluateNode_relocate]
    cases (x.evaluateNode n).outcome with
    | error e => rfl
    | ok text => cases (x.evaluateNodes ns).outcome <;> rfl

/-- Some nodes are evaluated after others. -/
theorem outcome_evaluateNodes_append (ns ms : List Node) :
    (x.evaluateNodes (ns ++ ms)).outcome = (do
      let text ← (x.evaluateNodes ns).outcome
      let more ← (x.evaluateNodes ms).outcome
      return text ++ more) := by
  induction ns with
  | nil =>
    simp only [List.nil_append, evaluateNodes, Traced.outcome_pure, ok_bind]
    cases (x.evaluateNodes ms).outcome <;> simp [pure, Except.pure]
  | cons n ns ih =>
    simp only [List.cons_append, evaluateNodes, Traced.outcome_bind, Traced.outcome_pure, ih]
    -- The first error ends both sides, so the nodes are followed as long as there is none.
    cases (x.evaluateNode n).outcome with
    | error e => rfl
    | ok text =>
      cases (x.evaluateNodes ns).outcome with
      | error e => rfl
      | ok more =>
        cases (x.evaluateNodes ms).outcome with
        | error e => rfl
        | ok rest => simp [pure, Except.pure, String.append_assoc]

/-- A text that is joined with another one stands before it. -/
theorem outcome_evaluateNodes_joinText (value : String) (ns : List Node) :
    (x.evaluateNodes (Node.joinText value ns)).outcome = (do
      let more ← (x.evaluateNodes ns).outcome
      return value ++ more) := by
  unfold Node.joinText
  -- A text in front of a text is one text, and elsewhere it is a node of its own.
  split
  · next w ns =>
    simp only [evaluateNodes, evaluateNode, Traced.outcome_bind, Traced.outcome_pure]
    cases (x.evaluateNodes ns).outcome with
    | error e => rfl
    | ok more => simp [pure, Except.pure, String.append_assoc]
  · next ns hn =>
    simp only [evaluateNodes, evaluateNode, Traced.outcome_bind, Traced.outcome_pure]
    rfl

/-- What is expanded is the template of the text. -/
theorem outcome_expand_of_ok {text : String} {t : Template} (h : Template.ofString text = .ok t) :
    (x.expand text).outcome = (x.evaluateNodes t.nodes).outcome.mapError .eval := by
  simp [expand, h, evaluate]

theorem outcome_expand_of_error {text : String} {e : ParseError}
    (h : Template.ofString text = .error e) : (x.expand text).outcome = .error (.parse e) := by
  simp [expand, h]

end Expander

/-! ## Places of errors -/

namespace Expander

variable {x : Expander} {e : EvalError}

theorem position_eq_of_substitute {id : Identifier} {p : Position} {text : String}
    (h : (x.substitute id p text).outcome = .error e) : e.position = p := by
  unfold substitute at h
  split at h
  · cases h; rfl
  · cases h

theorem position_eq_of_require {id : Identifier} {p : Position}
    (h : (x.require id p).outcome = .error e) : e.position = p := by
  simp only [require, Traced.outcome_bind, outcome_lookUp, ok_bind] at h
  cases hv : x.values.resolve id with
  | none => rw [hv] at h; exact position_eq_of_substitute h
  | some value => rw [hv] at h; cases h

/-- An error of a node lies at a parameter in the node. -/
theorem position_mem_of_evaluateNode {n : Node} (h : (x.evaluateNode n).outcome = .error e) :
    e.position ∈ n.positions := by
  -- A node fails at its own position, or its payload fails at one of those that lie in it.
  induction n with
  | text value | arity p => cases h
  | simple id modifier p =>
    simp only [evaluateNode, Traced.outcome_bind] at h
    rcases error_or_of_bind h with h | ⟨value, -, h⟩
    · exact List.mem_singleton.2 (position_eq_of_require h)
    · cases h
  | length id p =>
    simp only [evaluateNode, Traced.outcome_bind, outcome_lookUp, ok_bind] at h
    cases hv : x.values.resolve id with
    | none => rw [hv] at h; exact List.mem_singleton.2 (position_eq_of_substitute h)
    | some value => rw [hv] at h; cases h
  | indirect id p =>
    simp only [evaluateNode, Traced.outcome_bind] at h
    rcases error_or_of_bind h with h | ⟨name, -, h⟩
    · exact List.mem_singleton.2 (position_eq_of_require h)
    · exact List.mem_singleton.2 (position_eq_of_require h)
  | withDefault id default emptyIsUnset p ih =>
    obtain ⟨value, hv⟩ := x.exists_outcome_lookUpUnless emptyIsUnset id
    simp only [evaluateNode, Traced.outcome_bind, hv, ok_bind] at h
    cases value with
    | none => exact List.mem_cons_of_mem p (ih h)
    | some value => cases h
  | withAlternative id alternative emptyIsUnset p ih =>
    obtain ⟨value, hv⟩ := x.exists_outcome_lookUpUnless emptyIsUnset id
    simp only [evaluateNode, Traced.outcome_bind, hv, ok_bind] at h
    cases value with
    | none => cases h
    | some value => exact List.mem_cons_of_mem p (ih h)
  | withError id message emptyIsUnset p =>
    obtain ⟨value, hv⟩ := x.exists_outcome_lookUpUnless emptyIsUnset id
    simp only [evaluateNode, Traced.outcome_bind, hv, ok_bind] at h
    cases value with
    | none => cases h; exact List.mem_singleton_self p
    | some value => cases h

theorem position_mem_of_evaluateNodes {ns : List Node}
    (h : (x.evaluateNodes ns).outcome = .error e) : e.position ∈ ns.flatMap Node.positions := by
  induction ns with
  | nil => cases h
  | cons n ns ih =>
    rw [List.flatMap_cons, List.mem_append]
    simp only [evaluateNodes, Traced.outcome_bind] at h
    -- Either the first node fails, or one of the others.
    rcases error_or_of_bind h with h | ⟨text, -, h⟩
    · exact .inl (position_mem_of_evaluateNode h)
    · rcases error_or_of_bind h with h | ⟨more, -, h⟩
      · exact .inr (ih h)
      · cases h

/-- An error of a template lies at a parameter in the template. -/
theorem position_mem_of_evaluate {t : Template} (h : (x.evaluate t).outcome = .error e) :
    e.position ∈ t.positions := by
  simp only [evaluate, Traced.outcome_bind, Traced.outcome_record, ok_bind] at h
  exact position_mem_of_evaluateNodes h

end Expander

/-- The error so many characters and lines further on. -/
def ExpansionError.shift (chars lines : Nat) : ExpansionError → ExpansionError
  | parse e => parse (e.shift chars lines)
  | eval e => eval (e.relocate (Position.shift chars lines))

/-- The expansions of a line and of what follows it stand side by side, and the first error counts.
Nothing is expanded unless both form templates. -/
theorem Expander.outcome_expand_append (x : Expander) {text more : String}
    (hline : EndsLine text.toList) {t u : Template} (ht : Template.ofString text = .ok t)
    (hu : Template.ofString more = .ok u) :
    (x.expand (text ++ more)).outcome = (do
      let first ← (x.expand text).outcome
      let rest ← (x.expand more).outcome.mapError
        (ExpansionError.shift text.length (text.toList.count '\n'))
      return first ++ rest) := by
  -- The nodes of the line, without the text at its end, come first in both expansions.
  obtain ⟨ns, value, hn, hok, -⟩ := Template.ofString_append_of_ok hline ht more
  rw [outcome_expand_of_ok x ht, outcome_expand_of_ok x hu, outcome_expand_of_ok x (hok u hu), hn,
    outcome_evaluateNodes_append, outcome_evaluateNodes_append, outcome_evaluateNodes_joinText,
    Template.relocate, outcome_evaluateNodes_relocate]
  cases (x.evaluateNodes ns).outcome with
  | error e => rfl
  | ok first =>
    cases (x.evaluateNodes u.nodes).outcome with
    | error e => rfl
    | ok rest =>
      simp [evaluateNodes, evaluateNode, pure, Except.pure, String.append_assoc]

end ParamExpansion
