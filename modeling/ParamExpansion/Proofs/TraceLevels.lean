import ParamExpansion.Proofs.StoredEvaluation

/-!
# Traces only observe

What an evaluation comes to does not depend on the verbosity, and a less verbose trace holds the
events of the full one up to its level. This goes for templates and for stored templates in which
the names of variables are texts. A name that is no text cannot be shown, so there the evaluation
fails as soon as a lookup is to be recorded.
-/

namespace ParamExpansion

theorem Event.eq_resolved_of_level {ι : Type} {event : Event ι} (h : event.level = 2) :
    ∃ id value, event = .resolved id value := by
  cases event with
  | started nodes => cases h
  | resolved id value => exact ⟨id, value, rfl⟩
  | took branch id => cases h

namespace Traced

variable {ι ε α : Type}

/-- What the verbosity does to an evaluation that begins with so many nodes: the outcome is the
same, and the trace holds the events up to the level, in the order of the full trace. Without any
verbosity there are none, then there is the start only, then there are lookups, too, and from level
three on there is all that happens. -/
structure Leveled (nodes : Nat) (m : Nat → Traced ι ε α) : Prop where
  outcome : ∀ j k, (m j).outcome = (m k).outcome
  events : ∀ k, (m k).events = (m 3).events.filter (·.level ≤ k)
  silent : (m 0).events = []
  start : (m 1).events = [.started nodes]
  lookups : ∃ events, (m 2).events = .started nodes :: events ∧
    ∀ event ∈ events, ∃ id value, event = .resolved id value
  full : ∀ k, 3 ≤ k → m k = m 3

/-- The start is the first event, and the only one of its level. -/
theorem Layered.leveled {nodes : Nat} {m : Nat → Traced ι ε α} (h : Layered 2 m) :
    Leveled nodes fun k => Traced.record k (.started nodes) >>= fun _ => m k := by
  have hall : Layered 1 fun k => Traced.record k (.started nodes) >>= fun _ => m k :=
    .bind (.record (Nat.le_refl 1)) fun _ => h.mono (by decide)
  have hevents (k : Nat) : (Traced.record (k + 1) (.started nodes) >>= fun _ => m (k + 1)).events =
      .started nodes :: (m (k + 1)).events := by
    rw [record_of_le (Nat.le_add_left 1 k), value_bind]
    rfl
  constructor
  case outcome =>
    intro j k
    exact (hall.outcome_eq j).trans (hall.outcome_eq k).symm
  case events => exact hall.events_eq
  case silent => exact hall.events_eq_nil (by decide)
  case start =>
    have hnone : (m 1).events = [] := h.events_eq_nil (by decide)
    exact (hevents 0).trans (congrArg _ hnone)
  case lookups =>
    refine ⟨(m 2).events, hevents 1, ?_⟩
    intro event hmem
    -- What comes after the start has a level of at least two, and at most two is shown.
    rw [h.events_eq, List.mem_filter, decide_eq_true_eq] at hmem
    exact event.eq_resolved_of_level (Nat.le_antisymm hmem.2 (h.above event hmem.1))
  case full =>
    intro k hk
    exact hall.eq_full hk

end Traced

/-! ## Stored templates -/

namespace Stored

open Traced

/-- The identifiers in a node, apart from those in a sequence, which has no value in a node. -/
def Node.identifiers : Node → List Identifier
  | .sequence _ | .text _ | .arity _ => []
  | .simple id _ _ | .length id _ | .indirect id _ | .withError id _ _ _ => [id]
  | .withDefault id payload _ _ | .withAlternative id payload _ _ => id :: payload.identifiers

/-- Whether an identifier can be shown: the name of a variable is a text. -/
def Identifier.IsShown (id : Identifier) : Prop := id.shown?.isSome

variable (x : Expander) {id : Identifier}

namespace Run

theorem record_of_shown {text : WideText} (htext : id.shown? = some text)
    {event : WideText → Event WideText} (hlevel : ∀ s, (event s).level = (event "").level) :
    record x id event = Traced.record x.verbosity (event text) := by
  unfold record
  split
  · rw [shown, htext]
    exact traced_pure_bind _ _
  · next h =>
    rw [Traced.record, hlevel, if_neg h]
    rfl

theorem layered_record {event : WideText → Event WideText} (hid : id.IsShown)
    (hlevel : ∀ s, (event s).level = (event "").level) (h : 2 ≤ (event "").level) :
    Layered 2 fun k => record (x.set (.verbosity k)) id event := by
  obtain ⟨text, htext⟩ := Option.isSome_iff_exists.1 hid
  simp only [record_of_shown _ htext hlevel]
  exact .record ((hlevel text).symm ▸ h)

theorem layered_ofExcept {α : Type} (outcome : Except EvalError α) :
    Layered 2 fun _ => ofExcept outcome :=
  ⟨fun _ => rfl, fun _ h => nomatch h⟩

theorem layered_lookUp (hid : id.IsShown) :
    Layered 2 fun k => lookUp (x.set (.verbosity k)) id := by
  refine .bind (layered_ofExcept (id.resolve x.values)) fun value => ?_
  exact .bind (layered_record x hid (fun _ => rfl) (by decide : 2 ≤ 2)) fun _ => .pure value

theorem layered_lookUpUnless (emptyIsUnset : Json) (hid : id.IsShown) :
    Layered 2 fun k => lookUpUnless (x.set (.verbosity k)) emptyIsUnset id :=
  .bind (layered_lookUp x hid) fun _ => .pure _

theorem layered_take (branch : Branch) (hid : id.IsShown) :
    Layered 2 fun k => record (x.set (.verbosity k)) id (.took branch ·) :=
  layered_record x hid (fun _ => rfl) (by decide : 2 ≤ 3)

/-- A step that neither records anything nor asks for the verbosity. -/
theorem layered_unset {α : Type} (orEmpty : Bool) (place : Option Place) :
    Layered 2 fun _ => (unset id orEmpty place : Run α) := by
  unfold unset shown
  cases id.shown? with
  | none => exact .bind (.throw _) fun _ => .throw _
  | some text => exact .bind (.pure text) fun _ => .throw _

theorem layered_substitute (place : Option Place) (text : String) :
    Layered 2 fun k => substitute (x.set (.verbosity k)) id place text := by
  unfold substitute
  -- The verbosity is no part of the values, so it does not decide between the two.
  cases hstrict : x.values.strict with
  | true => simpa [Expander.set, hstrict] using layered_unset false place
  | false => simpa [Expander.set, hstrict] using Layered.pure _

theorem layered_require (hid : id.IsShown) (place : Option Place) :
    Layered 2 fun k => require (x.set (.verbosity k)) id place := by
  refine .bind (layered_lookUp x hid) fun value => ?_
  cases value with
  | none => exact layered_substitute x place ""
  | some value => exact .pure value

end Run

namespace Node

/-- The evaluation of a stored node does the same at each verbosity. -/
theorem layered_evaluate : ∀ n : Node, (∀ id ∈ n.identifiers, id.IsShown) →
    Layered 2 fun k => n.evaluate (x.set (.verbosity k))
  | .sequence _, _ => .throw EvalError.unsuited
  | .text value, _ => .pure value
  | .arity _, _ => .pure (Json.string (toString x.values.arity))
  | .simple id modifier place, h => by
    refine .bind (Run.layered_require x (h id (List.mem_singleton_self id)) place) fun value => ?_
    cases modifier with
    | none => exact .pure _
    | some m => exact .bind (Run.layered_ofExcept _) fun _ => .pure _
  | .length id place, h => by
    refine .bind (Run.layered_lookUp x (h id (List.mem_singleton_self id))) fun value => ?_
    cases value with
    | none => exact .bind (Run.layered_substitute x place "0") fun _ => .pure _
    | some value => exact .pure _
  | .indirect id place, h => by
    refine .bind (Run.layered_require x (h id (List.mem_singleton_self id)) place) fun name => ?_
    -- The name that has been found is a text, whatever the identifier is.
    have hname : (Identifier.named (.string name)).IsShown := rfl
    exact .bind (Run.layered_require x hname place) fun _ => .pure _
  | .withDefault id payload emptyIsUnset _, h => by
    obtain ⟨hid, hpayload⟩ := List.forall_mem_cons.1 h
    refine .bind (Run.layered_lookUpUnless x emptyIsUnset hid) fun value => ?_
    cases value with
    | none => exact .bind (Run.layered_take x .default hid) fun _ => layered_evaluate payload hpayload
    | some value => exact .pure _
  | .withAlternative id payload emptyIsUnset _, h => by
    obtain ⟨hid, hpayload⟩ := List.forall_mem_cons.1 h
    refine .bind (Run.layered_lookUpUnless x emptyIsUnset hid) fun value => ?_
    cases value with
    | none => exact .pure _
    | some value =>
      exact .bind (Run.layered_take x .alternative hid) fun _ => layered_evaluate payload hpayload
  | .withError id message emptyIsUnset place, h => by
    have hid := h id (List.mem_singleton_self id)
    refine .bind (Run.layered_lookUpUnless x emptyIsUnset hid) fun value => ?_
    cases value with
    | none =>
      refine .bind (Run.layered_take x .error hid) fun _ => ?_
      cases message with
      | null => exact Run.layered_unset _ place
      | _ => exact .throw _
    | some value => exact .pure _

theorem layered_evaluateAll {ns : List Node} (h : ∀ n ∈ ns, ∀ id ∈ n.identifiers, id.IsShown) :
    Layered 2 fun k => evaluateAll (x.set (.verbosity k)) ns := by
  induction ns with
  | nil => exact .pure []
  | cons n ns ih =>
    obtain ⟨hn, hns⟩ := List.forall_mem_cons.1 h
    exact .bind (n.layered_evaluate x hn) fun _ => .bind (ih hns) fun _ => .pure _

end Node

end Stored

/-! ## Whole templates -/

namespace Expander

open Traced

/-- Tracing only observes. A template is evaluated to the same outcome at each verbosity, be it a text
or an error, and the trace holds the events up to the verbosity. The same goes for a stored template
in which the names of variables are texts; its other values may be any. -/
theorem verbosity_only_observes (x : Expander) :
    (∀ t : Template, Leveled t.nodes.length fun k => (x.set (.verbosity k)).evaluate t) ∧
    ∀ nodes : List Stored.Node, (∀ n ∈ nodes, ∀ id ∈ n.identifiers, id.IsShown) →
      Leveled nodes.length fun k => (x.set (.verbosity k)).evaluateStored (.sequence nodes) := by
  constructor
  · intro t
    exact (x.layered_evaluateNodes t.nodes).leveled
  · intro nodes h
    -- The values are put together behind the last event, whatever they are.
    have hvalues := Stored.Node.layered_evaluateAll x h
    exact (hvalues.bind fun values => Stored.Run.layered_ofExcept _).leveled

/-- A lookup of the last positional value, and a message that is no text. -/
theorem verbosity_only_observes_message :
    let x : Expander := { values := { positional := ["a"] } }
    let nodes : List Stored.Node :=
      [.length (.index (.int (-1))) none,
       .withError (.named (.string "b")) (.int 1) (.bool false) none]
    (∀ n ∈ nodes, ∀ id ∈ n.identifiers, id.IsShown) ∧
    Leveled 2 fun k => (x.set (.verbosity k)).evaluateStored (.sequence nodes) := by
  intro x nodes
  have hshown : ∀ n ∈ nodes, ∀ id ∈ n.identifiers, id.IsShown := by
    simp [nodes, Stored.Node.identifiers, Stored.Identifier.IsShown, Stored.Identifier.shown?]
  exact ⟨hshown, x.verbosity_only_observes.2 nodes hshown⟩

end Expander

end ParamExpansion
