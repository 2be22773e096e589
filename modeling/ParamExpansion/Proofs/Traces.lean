import ParamExpansion.Expander

/-!
# What an evaluation records

An evaluation is taken here as a family, with one member for each verbosity. It is layered if every
member is the full evaluation, less the events above its level. All steps are, and steps that are put
together stay so. No event has level zero, so at verbosity zero there is no trace.
-/

namespace ParamExpansion

namespace Event

variable {ι : Type} {event : Event ι}

theorem level_le_three : event.level ≤ 3 := by cases event <;> simp [level]

end Event

namespace Traced

variable {ι ε α β : Type} {lowest : Nat}

theorem bind_eq (x : Traced ι ε α) (f : α → Traced ι ε β) : (x >>= f) = x.bind f := rfl

theorem bind_of_ok {x : Traced ι ε α} {a : α} (h : x.outcome = .ok a) (f : α → Traced ι ε β) :
    (x >>= f) = ⟨x.events ++ (f a).events, (f a).outcome⟩ := by
  rw [bind_eq, bind, h]

theorem bind_of_error {x : Traced ι ε α} {e : ε} (h : x.outcome = .error e)
    (f : α → Traced ι ε β) : (x >>= f) = ⟨x.events, .error e⟩ := by
  rw [bind_eq, bind, h]

theorem value_bind (events : List (Event ι)) (a : α) (f : α → Traced ι ε β) :
    ((⟨events, .ok a⟩ : Traced ι ε α) >>= f) = ⟨events ++ (f a).events, (f a).outcome⟩ :=
  bind_of_ok rfl f

theorem record_of_le {verbosity : Nat} {event : Event ι} (h : event.level ≤ verbosity) :
    (record verbosity event : Traced ι ε Unit) = ⟨[event], .ok ()⟩ := by
  rw [record, if_pos h]

/-- The evaluation without the events above a level. -/
def upTo (level : Nat) (x : Traced ι ε α) : Traced ι ε α :=
  ⟨x.events.filter (·.level ≤ level), x.outcome⟩

/-- Whether the evaluations of all verbosities are the one of verbosity three without the events
above their levels, none of which is below the lowest level. -/
structure Layered (lowest : Nat) (m : Nat → Traced ι ε α) : Prop where
  eq_upTo : ∀ k, m k = (m 3).upTo k
  above : ∀ event ∈ (m 3).events, lowest ≤ event.level

namespace Layered

theorem pure (a : α) : Layered lowest fun _ => (pure a : Traced ι ε α) :=
  ⟨fun _ => rfl, fun _ h => nomatch h⟩

theorem throw (e : ε) : Layered lowest fun _ => (throw e : Traced ι ε α) :=
  ⟨fun _ => rfl, fun _ h => nomatch h⟩

/-- What is recorded at its level is left out below it. -/
theorem record {event : Event ι} (h : lowest ≤ event.level) :
    Layered lowest fun k => (record k event : Traced ι ε Unit) := by
  constructor
  · intro k
    rw [record_of_le event.level_le_three, Traced.record, upTo]
    by_cases hk : event.level ≤ k <;> simp [hk]
  · intro event' hmem
    rw [record_of_le event.level_le_three] at hmem
    obtain rfl := List.mem_singleton.1 hmem
    exact h

variable {m : Nat → Traced ι ε α}

theorem mono {lower : Nat} (h : Layered lowest m) (hle : lower ≤ lowest) : Layered lower m :=
  ⟨h.eq_upTo, fun event hmem => Nat.le_trans hle (h.above event hmem)⟩

theorem events_eq (h : Layered lowest m) (k : Nat) :
    (m k).events = (m 3).events.filter (·.level ≤ k) :=
  congrArg Traced.events (h.eq_upTo k)

theorem outcome_eq (h : Layered lowest m) (k : Nat) : (m k).outcome = (m 3).outcome := by
  rw [h.eq_upTo k]
  rfl

/-- Below the lowest level nothing is recorded. -/
theorem events_eq_nil (h : Layered lowest m) {k : Nat} (hk : k < lowest) : (m k).events = [] := by
  rw [h.events_eq, List.filter_eq_nil_iff]
  intro event hmem
  have hlevel : k < event.level := Nat.lt_of_lt_of_le hk (h.above event hmem)
  simpa using hlevel

/-- From the highest level on everything is recorded. -/
theorem eq_full (h : Layered lowest m) {k : Nat} (hk : 3 ≤ k) : m k = m 3 := by
  have hkeep : (m 3).events.filter (·.level ≤ k) = (m 3).events := by
    rw [List.filter_eq_self]
    intro event _
    exact decide_eq_true (Nat.le_trans event.level_le_three hk)
  rw [h.eq_upTo k, upTo, hkeep]

theorem mapError {δ : Type} (h : Layered lowest m) (f : ε → δ) :
    Layered lowest fun k => (m k).mapError f := by
  constructor
  · intro k
    rw [h.eq_upTo k]
    rfl
  · exact h.above

/-- Steps are layered together if each of them is. -/
theorem bind {f : Nat → α → Traced ι ε β} (hm : Layered lowest m)
    (hf : ∀ a, Layered lowest fun k => f k a) : Layered lowest fun k => m k >>= f k := by
  cases hout : (m 3).outcome with
  -- Without a value there is no second step at any verbosity.
  | error e =>
    have heq (k : Nat) : (m k >>= f k) = ⟨(m k).events, .error e⟩ := by
      apply bind_of_error
      rw [hm.eq_upTo k]
      exact hout
    constructor
    · intro k
      rw [heq, heq, hm.eq_upTo k]
      rfl
    · intro event hmem
      rw [heq] at hmem
      exact hm.above event hmem
  | ok a =>
    have heq (k : Nat) : (m k >>= f k) = ⟨(m k).events ++ (f k a).events, (f k a).outcome⟩ := by
      apply bind_of_ok
      rw [hm.eq_upTo k]
      exact hout
    constructor
    · intro k
      rw [heq, heq, hm.eq_upTo k, (hf a).eq_upTo k]
      simp only [upTo, List.filter_append]
    · intro event hmem
      rw [heq] at hmem
      rcases List.mem_append.1 hmem with hmem | hmem
      · exact hm.above event hmem
      · exact (hf a).above event hmem

end Layered

end Traced

namespace Expander

open Traced

variable (x : Expander)

theorem layered_lookUp (id : Identifier) :
    Layered 2 fun k => (x.set (.verbosity k)).lookUp id := by
  refine .bind (m := fun k => Traced.record k (.resolved id (x.values.resolve id))) ?_ fun _ => ?_
  · exact .record (Nat.le_refl 2)
  · exact .pure (x.values.resolve id)

theorem layered_lookUpUnless (emptyIsUnset : Bool) (id : Identifier) :
    Layered 2 fun k => (x.set (.verbosity k)).lookUpUnless emptyIsUnset id :=
  .bind (x.layered_lookUp id) fun _ => .pure _

theorem layered_take (branch : Branch) (id : Identifier) :
    Layered 2 fun k => (x.set (.verbosity k)).take branch id := .record (by decide : 2 ≤ 3)

theorem layered_substitute (id : Identifier) (p : Position) (text : String) :
    Layered 2 fun k => (x.set (.verbosity k)).substitute id p text := by
  unfold substitute
  cases hstrict : x.values.strict with
  | true => simpa [set, hstrict] using Layered.throw _
  | false => simpa [set, hstrict] using Layered.pure _

theorem layered_require (id : Identifier) (p : Position) :
    Layered 2 fun k => (x.set (.verbosity k)).require id p := by
  refine .bind (x.layered_lookUp id) fun value => ?_
  cases value with
  | none => exact x.layered_substitute id p ""
  | some value => exact .pure value

/-- The evaluation of a node does the same at each verbosity. -/
theorem layered_evaluateNode (n : Node) :
    Layered 2 fun k => (x.set (.verbosity k)).evaluateNode n := by
  induction n with
  | text value => exact .pure value
  | arity p => exact .pure (toString x.values.arity)
  | simple id modifier p => exact .bind (x.layered_require id p) fun _ => .pure _
  | length id p =>
    refine .bind (x.layered_lookUp id) fun value => ?_
    cases value with
    | none => exact x.layered_substitute id p "0"
    | some value => exact .pure _
  | indirect id p => exact .bind (x.layered_require id p) fun _ => x.layered_require _ p
  -- Which way a parameter goes is told by a value, so it is the same way at each verbosity.
  | withDefault id default emptyIsUnset p ih =>
    refine .bind (x.layered_lookUpUnless emptyIsUnset id) fun value => ?_
    cases value with
    | none => exact .bind (x.layered_take .default id) fun _ => ih
    | some value => exact .pure value
  | withAlternative id alternative emptyIsUnset p ih =>
    refine .bind (x.layered_lookUpUnless emptyIsUnset id) fun value => ?_
    cases value with
    | none => exact .pure ""
    | some value => exact .bind (x.layered_take .alternative id) fun _ => ih
  | withError id message emptyIsUnset p =>
    refine .bind (x.layered_lookUpUnless emptyIsUnset id) fun value => ?_
    cases value with
    | none => exact .bind (x.layered_take .error id) fun _ => .throw _
    | some value => exact .pure value

theorem layered_evaluateNodes (ns : List Node) :
    Layered 2 fun k => (x.set (.verbosity k)).evaluateNodes ns := by
  induction ns with
  | nil => exact .pure ""
  | cons n ns ih => exact .bind (x.layered_evaluateNode n) fun _ => .bind ih fun _ => .pure _

theorem layered_evaluate (t : Template) :
    Layered 1 fun k => (x.set (.verbosity k)).evaluate t := by
  refine .bind (m := fun k => Traced.record k (.started t.nodes.length)) ?_ fun _ => ?_
  · exact .record (Nat.le_refl 1)
  · exact (x.layered_evaluateNodes t.nodes).mono (by decide)

/-- An expansion does the same at each verbosity. -/
theorem layered_expand (text : String) :
    Layered 1 fun k => (x.set (.verbosity k)).expand text := by
  unfold expand
  cases Template.ofString text with
  | error e => exact .throw _
  | ok t => exact (x.layered_evaluate t).mapError _

variable {x}

/-- Without any verbosity nothing is recorded. -/
theorem events_expand_eq_nil (h : x.verbosity = 0) (text : String) : (x.expand text).events = [] := by
  have hx : x.set (.verbosity 0) = x := by rw [set, ← h]
  have hnone := (x.layered_expand text).events_eq_nil Nat.zero_lt_one
  rwa [hx] at hnone

end Expander

end ParamExpansion
