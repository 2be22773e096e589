import ParamExpansion.Expander
import ParamExpansion.Proofs.ConditionalForms
import ParamExpansion.Proofs.StoredEvaluation

/-!
# Strict variables

A parameter that requires a value and finds none is an error if the variables are strict, and empty
otherwise. Nothing else asks whether they are: neither the lookups nor the choice of a payload do. So
a strict evaluation goes the way of the lenient one, up to the first node on it that lacks its value.
-/

namespace ParamExpansion

namespace Expander

/-! ## Evaluated nodes -/

/-- The nodes that are evaluated for a node: the node itself and, behind a conditional parameter that
needs its payload, those that are evaluated for the payload. -/
def visited (x : Expander) : Node → List Node
  | .withDefault id default emptyIsUnset p =>
    .withDefault id default emptyIsUnset p ::
      (x.value? id emptyIsUnset).elim (x.visited default) fun _ => []
  | .withAlternative id alternative emptyIsUnset p =>
    .withAlternative id alternative emptyIsUnset p ::
      (x.value? id emptyIsUnset).elim [] fun _ => x.visited alternative
  | node => [node]

/-- What the evaluation of a node records, without that of its payload, if the variables are not
strict. -/
def eventsOf (x : Expander) : Node → List (Event Identifier)
  | .text _ | .arity _ => []
  | .simple id _ _ | .length id _ => [.resolved id (x.values.resolve id)]
  | .indirect id _ =>
    let name := .named ((x.values.resolve id).getD "")
    [.resolved id (x.values.resolve id), .resolved name (x.values.resolve name)]
  | .withDefault id _ emptyIsUnset _ =>
    .resolved id (x.values.resolve id) ::
      (x.value? id emptyIsUnset).elim [.took .default id] fun _ => []
  | .withAlternative id _ emptyIsUnset _ =>
    .resolved id (x.values.resolve id) ::
      (x.value? id emptyIsUnset).elim [] fun _ => [.took .alternative id]
  | .withError id _ emptyIsUnset _ =>
    .resolved id (x.values.resolve id) ::
      (x.value? id emptyIsUnset).elim [.took .error id] fun _ => []

section

variable {x : Expander} {id : Identifier} {emptyIsUnset : Bool}

theorem lookUp_eq (h : 2 ≤ x.verbosity) (id : Identifier) :
    x.lookUp id = ⟨[.resolved id (x.values.resolve id)], .ok (x.values.resolve id)⟩ := by
  rw [lookUp, Traced.record_of_le h]
  rfl

theorem lookUpUnless_eq (h : 2 ≤ x.verbosity) (emptyIsUnset : Bool) (id : Identifier) :
    x.lookUpUnless emptyIsUnset id =
      ⟨[.resolved id (x.values.resolve id)], .ok (x.value? id emptyIsUnset)⟩ := by
  have houtcome := x.outcome_lookUpUnless id emptyIsUnset
  rw [lookUpUnless, lookUp_eq h, Traced.value_bind] at houtcome ⊢
  rw [Traced.mk.injEq]
  exact ⟨rfl, houtcome⟩

/-- Variables that are not strict have an empty value for what has none. -/
theorem require_eq (hlenient : x.values.strict = false) (h : 2 ≤ x.verbosity) (id : Identifier)
    (p : Position) : x.require id p =
      ⟨[.resolved id (x.values.resolve id)], .ok ((x.values.resolve id).getD "")⟩ := by
  rw [require, lookUp_eq h, Traced.value_bind]
  cases x.values.resolve id with
  | some value => rfl
  | none => simp [substitute, hlenient, pure]

theorem events_take_bind {α : Type} (h : 3 ≤ x.verbosity) (branch : Branch) (id : Identifier)
    (payload : Traced Identifier EvalError α) :
    (x.take branch id >>= fun _ => payload).events = .took branch id :: payload.events := by
  rw [take, Traced.record_of_le h, Traced.value_bind]
  rfl

/-- What is recorded for a node is what is recorded for the nodes that are evaluated for it. -/
theorem events_evaluateNode (hlenient : x.values.strict = false) (h : 3 ≤ x.verbosity) (n : Node) :
    (x.evaluateNode n).events = (x.visited n).flatMap x.eventsOf := by
  have h2 : 2 ≤ x.verbosity := Nat.le_of_succ_le h
  induction n with
  | text value | arity p => rfl
  | simple id modifier p =>
    rw [evaluateNode, require_eq hlenient h2]
    rfl
  | length id p =>
    -- A length of zero is put in without a record.
    rw [evaluateNode, lookUp_eq h2, Traced.value_bind]
    cases hv : x.values.resolve id with
    | some value => simp [visited, eventsOf, hv, pure]
    | none => simp [visited, eventsOf, hv, substitute, hlenient, pure]
  | indirect id p =>
    rw [evaluateNode, require_eq hlenient h2, Traced.value_bind, require_eq hlenient h2]
    rfl
  | withDefault id default emptyIsUnset p ih =>
    rw [evaluateNode, lookUpUnless_eq h2, Traced.value_bind]
    cases hv : x.value? id emptyIsUnset with
    | some value => simp [visited, eventsOf, hv, pure]
    | none => simp [visited, eventsOf, hv, events_take_bind h, ih]
  | withAlternative id alternative emptyIsUnset p ih =>
    rw [evaluateNode, lookUpUnless_eq h2, Traced.value_bind]
    cases hv : x.value? id emptyIsUnset with
    | some value => simp [visited, eventsOf, hv, events_take_bind h, ih]
    | none => simp [visited, eventsOf, hv, pure]
  | withError id message emptyIsUnset p =>
    rw [evaluateNode, lookUpUnless_eq h2, Traced.value_bind]
    cases hv : x.value? id emptyIsUnset with
    | some value => simp [visited, eventsOf, hv, pure]
    | none =>
      simp only [visited, eventsOf, hv, events_take_bind h, List.flatMap_singleton]
      rfl

/-- Nodes that are evaluated one after the other record their events one after the other. -/
theorem events_evaluateNodes {ns : List Node} {s : String} (hlenient : x.values.strict = false)
    (h : 3 ≤ x.verbosity) (hs : (x.evaluateNodes ns).outcome = .ok s) :
    (x.evaluateNodes ns).events = (ns.flatMap x.visited).flatMap x.eventsOf := by
  induction ns generalizing s with
  | nil => rfl
  | cons n ns ih =>
    rw [evaluateNodes, Traced.outcome_bind] at hs
    obtain ⟨text, htext, hs⟩ := exists_of_bind_eq_ok hs
    rw [Traced.outcome_bind] at hs
    obtain ⟨more, hmore, -⟩ := exists_of_bind_eq_ok hs
    -- Both parts have succeeded, so their events follow each other.
    rw [evaluateNodes, Traced.bind_of_ok htext, Traced.bind_of_ok hmore]
    simp [events_evaluateNode hlenient h, ih hmore, pure]

/-- A template that is evaluated records the start and then what its nodes do. -/
theorem events_evaluate {t : Template} {s : String} (hlenient : x.values.strict = false)
    (h : 3 ≤ x.verbosity) (hs : (x.evaluate t).outcome = .ok s) : (x.evaluate t).events =
      .started t.nodes.length :: (t.nodes.flatMap x.visited).flatMap x.eventsOf := by
  have hstart : (Event.started t.nodes.length : Event Identifier).level ≤ x.verbosity :=
    Nat.le_trans (by decide : 1 ≤ 3) h
  rw [evaluate, Traced.record_of_le hstart, Traced.value_bind] at hs ⊢
  rw [← events_evaluateNodes hlenient h hs]
  rfl

end

/-! ## Nodes without a value -/

/-- A node that has no value, since this identifier has none. -/
inductive Lacks (x : Expander) : Node → Identifier → Position → Prop
  /-- The identifier of a parameter has no value. -/
  | simple {id modifier p} (h : x.values.resolve id = none) : Lacks x (.simple id modifier p) id p
  | length {id p} (h : x.values.resolve id = none) : Lacks x (.length id p) id p
  | indirect {id p} (h : x.values.resolve id = none) : Lacks x (.indirect id p) id p
  /-- The identifier names a variable that has no value. -/
  | denoted {id p name} (hname : x.values.resolve id = some name)
      (h : x.values.resolve (.named name) = none) : Lacks x (.indirect id p) (.named name) p

/-- The error of a node that requires the value of an identifier. -/
def lacking? (x : Expander) (id : Identifier) (p : Position) : Option EvalError :=
  (x.values.resolve id).elim (some ⟨.unset id false, p⟩) fun _ => none

/-- The error of a node that lacks its value. -/
def lack? (x : Expander) : Node → Option EvalError
  | .simple id _ p | .length id p => x.lacking? id p
  | .indirect id p => (x.values.resolve id).elim (x.lacking? id p) fun name => x.lacking? (.named name) p
  | _ => none

variable {x : Expander}

theorem lacking?_eq_some_iff {id : Identifier} {p : Position} {e : EvalError} :
    x.lacking? id p = some e ↔ x.values.resolve id = none ∧ e = ⟨.unset id false, p⟩ := by
  unfold lacking?
  cases x.values.resolve id <;> simp [eq_comm]

/-- An error of a node tells which identifier it lacks. -/
theorem exists_lacks_of_lack? {n : Node} {e : EvalError} (h : x.lack? n = some e) :
    ∃ id, x.Lacks n id e.position ∧ e.cause = .unset id false := by
  cases n with
  | simple id modifier p =>
    obtain ⟨hid, rfl⟩ := lacking?_eq_some_iff.1 h
    exact ⟨id, .simple hid, rfl⟩
  | length id p =>
    obtain ⟨hid, rfl⟩ := lacking?_eq_some_iff.1 h
    exact ⟨id, .length hid, rfl⟩
  -- An indirect parameter lacks its own value, or that of the name which it holds.
  | indirect id p =>
    rw [lack?] at h
    cases hid : x.values.resolve id with
    | none =>
      rw [hid] at h
      obtain ⟨-, rfl⟩ := lacking?_eq_some_iff.1 h
      exact ⟨id, .indirect hid, rfl⟩
    | some name =>
      rw [hid] at h
      obtain ⟨hname, rfl⟩ := lacking?_eq_some_iff.1 h
      exact ⟨.named name, .denoted hid hname, rfl⟩
  | _ => cases h

/-! ## Strict and lenient evaluations -/

section

variable (x : Expander) (strict : Bool)

@[simp] theorem resolve_set_strict (id : Identifier) :
    (x.set (.strict strict)).values.resolve id = x.values.resolve id := by
  cases id with
  | named name => rfl
  | index n => cases n <;> rfl

@[simp] theorem value?_set_strict (id : Identifier) (colon : Bool) :
    (x.set (.strict strict)).value? id colon = x.value? id colon := by
  rw [value?, value?, resolve_set_strict]

/-- Strictness does not choose what is evaluated. -/
@[simp] theorem visited_set_strict : (x.set (.strict strict)).visited = x.visited := by
  funext n
  induction n with
  | withDefault id default emptyIsUnset p ih | withAlternative id default emptyIsUnset p ih =>
    rw [visited, visited, value?_set_strict, ih]
  | _ => rfl

/-- What is required and has no value ends a strict evaluation. -/
theorem outcome_require_strict (id : Identifier) (p : Position) :
    ((x.set (.strict true)).require id p).outcome =
      (x.lacking? id p).elim ((x.set (.strict false)).require id p).outcome .error := by
  simp only [require, Traced.outcome_bind, outcome_lookUp, ok_bind, resolve_set_strict, lacking?]
  cases x.values.resolve id <;> rfl

theorem outcome_require_of_some {id : Identifier} {value : String} (p : Position)
    (h : x.values.resolve id = some value) : (x.require id p).outcome = .ok value := by
  simp only [require, Traced.outcome_bind, outcome_lookUp, ok_bind, h]
  rfl

/-- A strict evaluation of a node fails at the first node on its way that lacks its value. If there
is none, it ends as the lenient one does. -/
theorem outcome_evaluateNode_strict (n : Node) :
    ((x.set (.strict true)).evaluateNode n).outcome =
      ((x.visited n).findSome? x.lack?).elim ((x.set (.strict false)).evaluateNode n).outcome
        .error := by
  induction n with
  | text value | arity p => rfl
  | simple id modifier p =>
    simp only [evaluateNode, Traced.outcome_bind, outcome_require_strict, visited, lack?,
      List.findSome?_singleton]
    cases x.lacking? id p <;> rfl
  | length id p =>
    simp only [evaluateNode, Traced.outcome_bind, outcome_lookUp, ok_bind, resolve_set_strict,
      visited, lack?, lacking?, List.findSome?_singleton]
    cases x.values.resolve id <;> rfl
  -- The lenient evaluation looks up an empty name if there is none, and the strict one has failed.
  | indirect id p =>
    simp only [evaluateNode, Traced.outcome_bind, visited, lack?, List.findSome?_singleton]
    cases hid : x.values.resolve id with
    | none =>
      rw [outcome_require_strict, lacking?, hid]
      rfl
    | some name =>
      rw [outcome_require_of_some _ p ((x.resolve_set_strict _ id).trans hid),
        outcome_require_of_some _ p ((x.resolve_set_strict _ id).trans hid)]
      exact x.outcome_require_strict (.named name) p
  | withDefault id default emptyIsUnset p ih =>
    simp only [outcome_withDefault, value?_set_strict, visited]
    cases x.value? id emptyIsUnset with
    | some value => rfl
    | none => exact ih
  | withAlternative id alternative emptyIsUnset p ih =>
    simp only [outcome_withAlternative, value?_set_strict, visited]
    cases x.value? id emptyIsUnset with
    | some value => exact ih
    | none => rfl
  | withError id message emptyIsUnset p =>
    simp only [outcome_withError, value?_set_strict]
    rfl

variable {x}

/-- A strict evaluation of some nodes that succeeds ends as the lenient one does. -/
theorem lenient_of_strict {ns : List Node} {s : String}
    (h : ((x.set (.strict true)).evaluateNodes ns).outcome = .ok s) :
    ((x.set (.strict false)).evaluateNodes ns).outcome = .ok s := by
  induction ns generalizing s with
  | nil => exact h
  | cons n ns ih =>
    simp only [evaluateNodes, Traced.outcome_bind, outcome_evaluateNode_strict] at h ⊢
    obtain ⟨text, htext, h⟩ := exists_of_bind_eq_ok h
    obtain ⟨more, hmore, h⟩ := exists_of_bind_eq_ok h
    -- The evaluation has gone on to the other nodes, so nothing lacks a value up to here.
    cases hlack : (x.visited n).findSome? x.lack? with
    | some e => rw [hlack] at htext; cases htext
    | none =>
      rw [hlack] at htext
      change ((x.set (.strict false)).evaluateNode n).outcome = .ok text at htext
      rw [htext, ok_bind, ih hmore]
      exact h

/-- Where the lenient evaluation of some nodes succeeds, the strict one fails at the first evaluated
node that lacks its value, if there is one. -/
theorem outcome_evaluateNodes_strict {ns : List Node} {s : String}
    (h : ((x.set (.strict false)).evaluateNodes ns).outcome = .ok s) :
    ((x.set (.strict true)).evaluateNodes ns).outcome =
      ((ns.flatMap x.visited).findSome? x.lack?).elim (.ok s) .error := by
  induction ns generalizing s with
  | nil => exact h
  | cons n ns ih =>
    rw [evaluateNodes, Traced.outcome_bind] at h ⊢
    obtain ⟨text, htext, h⟩ := exists_of_bind_eq_ok h
    rw [Traced.outcome_bind] at h
    obtain ⟨more, hmore, hs⟩ := exists_of_bind_eq_ok h
    obtain rfl : text ++ more = s := Except.ok.inj hs
    -- The first lack is that of the node, if it has one, and otherwise that of the other nodes.
    rw [outcome_evaluateNode_strict, htext, List.flatMap_cons, List.findSome?_append]
    cases (x.visited n).findSome? x.lack? with
    | some e => rfl
    | none =>
      change ((x.set (.strict true)).evaluateNodes ns >>= fun more =>
        pure (text ++ more)).outcome = _
      rw [Traced.outcome_bind, ih hmore]
      cases (ns.flatMap x.visited).findSome? x.lack? <;> rfl

end

/-- Strictness only adds failures. A strict evaluation that succeeds has the result of the lenient
one, and it fails where the lenient one does. If it alone fails, it fails at the first of the nodes
that the lenient evaluation evaluates and that lack the value of an identifier. These nodes are the
ones whose lookups and branches the lenient evaluation records. -/
theorem strictness_only_adds_failures (x : Expander) (t : Template) :
    let lenient := x.set (.strict false)
    let strict := x.set (.strict true)
    let nodes := t.nodes.flatMap lenient.visited
    (∀ s, (strict.evaluate t).outcome = .ok s → (lenient.evaluate t).outcome = .ok s) ∧
    (∀ e, (lenient.evaluate t).outcome = .error e →
      ∃ e', (strict.evaluate t).outcome = .error e') ∧
    ∀ s, (lenient.evaluate t).outcome = .ok s →
      (strict.evaluate t).outcome = (nodes.findSome? x.lack?).elim (.ok s) .error ∧
      (∀ e, (strict.evaluate t).outcome = .error e →
        ∃ n ∈ nodes, ∃ id, x.Lacks n id e.position ∧ e.message = s!"'{id}' is unset") ∧
      (3 ≤ x.verbosity → (lenient.evaluate t).events =
        .started t.nodes.length :: nodes.flatMap lenient.eventsOf) := by
  intro lenient strict nodes
  have houtcome (y : Expander) : (y.evaluate t).outcome = (y.evaluateNodes t.nodes).outcome := by
    rw [evaluate, Traced.outcome_bind, Traced.outcome_record, ok_bind]
  have hsame {s} (h : (strict.evaluate t).outcome = .ok s) : (lenient.evaluate t).outcome = .ok s := by
    rw [houtcome] at h ⊢
    exact lenient_of_strict h
  refine ⟨fun s => hsame, ?_, ?_⟩
  · intro e he
    cases hs : (strict.evaluate t).outcome with
    | error e' => exact ⟨e', rfl⟩
    | ok s => cases he.symm.trans (hsame hs)
  · intro s hs
    have hstrict : (strict.evaluate t).outcome = (nodes.findSome? x.lack?).elim (.ok s) .error := by
      rw [houtcome, outcome_evaluateNodes_strict ((houtcome lenient).symm.trans hs)]
      simp only [nodes, lenient, visited_set_strict]
    refine ⟨hstrict, ?_, fun hlevel => events_evaluate rfl hlevel hs⟩
    intro e he
    -- The lenient evaluation succeeds, so the error is that of the first node that lacks its value.
    cases hlack : nodes.findSome? x.lack? with
    | none => rw [hstrict, hlack] at he; cases he
    | some e' =>
      obtain rfl : e' = e := by
        rw [hstrict, hlack] at he
        exact Except.error.inj he
      obtain ⟨n, hn, hlack⟩ := List.exists_of_findSome?_eq_some hlack
      obtain ⟨id, hid, hcause⟩ := exists_lacks_of_lack? hlack
      refine ⟨n, hn, id, hid, ?_⟩
      rw [EvalError.message, hcause]
      rfl

/-- A default that requires a value. Without one it is a length of zero, or an error. -/
theorem strictness_only_adds_failures_length :
    let x : Expander := {}
    let t : Template := ⟨[.withDefault (.named "b") (.length (.named "a") ⟨4, 1, 5⟩) false .start]⟩
    ((x.set (.strict false)).evaluate t).outcome = .ok "0" ∧
      ((x.set (.strict true)).evaluate t).outcome =
        .error ⟨.unset (.named "a") false, ⟨4, 1, 5⟩⟩ := by
  intro x t
  have hlenient : ((x.set (.strict false)).evaluate t).outcome = .ok "0" := rfl
  obtain ⟨hstrict, -⟩ := (strictness_only_adds_failures x t).2.2 "0" hlenient
  exact ⟨hlenient, hstrict⟩

end Expander

end ParamExpansion
