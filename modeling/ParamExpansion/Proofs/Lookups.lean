import Mathlib.Data.List.Forall2
import ParamExpansion.Proofs.Strictness

/-!
# What an evaluation depends on

An evaluation depends on the values that it looks up, on how many positional values there are and on
whether the variables are strict. What is looked up is told by what has been found before, so two
evaluations are followed side by side here: as long as the second one finds what the first one has
found, they take the same steps. A payload that is not evaluated is not looked into at all.
-/

namespace ParamExpansion

/-! ## Lookups -/

/-- The identifier that has been looked up, with what has been found. -/
def Event.lookup? {ι : Type} : Event ι → Option (ι × Option String)
  | .resolved id value => some (id, value)
  | .started _ | .took .. => none

namespace Traced

variable {ι κ ε α β : Type}

/-- The recorded lookups, in their order. -/
def lookups (m : Traced ι ε α) : List (ι × Option String) := m.events.filterMap Event.lookup?

/-- What belongs to the steps behind an evaluation. There are none behind an error. -/
def behind (m : Traced ι ε α) (next : α → List κ) : List κ :=
  match m.outcome with
  | .ok a => next a
  | .error _ => []

theorem behind_of_ok {m : Traced ι ε α} {a : α} (h : m.outcome = .ok a) (next : α → List κ) :
    m.behind next = next a := by rw [behind, h]

theorem behind_of_error {m : Traced ι ε α} {e : ε} (h : m.outcome = .error e)
    (next : α → List κ) : m.behind next = [] := by rw [behind, h]

@[simp] theorem behind_nil (m : Traced ι ε α) : (m.behind fun _ => ([] : List κ)) = [] := by
  unfold behind
  split <;> rfl

theorem lookups_bind (m : Traced ι ε α) (f : α → Traced ι ε β) :
    (m >>= f).lookups = m.lookups ++ m.behind fun a => (f a).lookups := by
  cases h : m.outcome with
  | error e => rw [bind_of_error h, behind_of_error h, List.append_nil, lookups, lookups]
  | ok a => rw [bind_of_ok h, behind_of_ok h, lookups, lookups, lookups, List.filterMap_append]

/-- The second evaluation does what the first one does, provided that each lookup of the first one
agrees; then it makes the same lookups. -/
def Follows (Agrees : κ → Prop) (made made' : List κ) (m m' : Traced ι ε α) : Prop :=
  (∀ found ∈ made, Agrees found) → m' = m ∧ made' = made

namespace Follows

variable {Agrees : κ → Prop} {made made' : List κ} {m m' : Traced ι ε α}

theorem refl (made : List κ) (m : Traced ι ε α) : Follows Agrees made made m m :=
  fun _ => ⟨rfl, rfl⟩

/-- The lookups of the first steps agree, so these come to the same value; and then those of the
steps behind them do. -/
theorem bind (hm : Follows Agrees made made' m m') {f f' : α → Traced ι ε β}
    {next next' : α → List κ} (hf : ∀ a, Follows Agrees (next a) (next' a) (f a) (f' a)) :
    Follows Agrees (made ++ m.behind next) (made' ++ m'.behind next') (m >>= f) (m' >>= f') := by
  intro h
  obtain ⟨rfl, rfl⟩ := hm fun found hmem => h found (List.mem_append_left _ hmem)
  -- What the second part looks up counts only if the first part has succeeded.
  cases hout : m'.outcome with
  | error e =>
    rw [bind_of_error hout, bind_of_error hout, behind_of_error hout, behind_of_error hout]
    exact ⟨rfl, rfl⟩
  | ok a =>
    rw [behind_of_ok hout] at h ⊢
    obtain ⟨heq, hnext⟩ := hf a fun found hmem => h found (List.mem_append_right _ hmem)
    rw [bind_of_ok hout, bind_of_ok hout, behind_of_ok hout, heq, hnext]
    exact ⟨rfl, rfl⟩

/-- The steps behind the lookups are the same ones. -/
theorem bind_of_eq (hm : Follows Agrees made made' m m') {f f' : α → Traced ι ε β}
    (hf : ∀ a, f' a = f a) : Follows Agrees made made' (m >>= f) (m' >>= f') := by
  intro h
  obtain ⟨rfl, rfl⟩ := hm h
  rw [funext hf]
  exact ⟨rfl, rfl⟩

end Follows

/-- The second evaluation does what the first one does, provided that the recorded lookups of the
first one agree. -/
def FollowsRecord (Agrees : ι × Option String → Prop) (m m' : Traced ι ε α) : Prop :=
  Follows Agrees m.lookups m'.lookups m m'

namespace FollowsRecord

variable {Agrees : ι × Option String → Prop} {m m' : Traced ι ε α}

theorem refl (m : Traced ι ε α) : FollowsRecord Agrees m m := Follows.refl _ m

theorem bind (hm : FollowsRecord Agrees m m') {f f' : α → Traced ι ε β}
    (hf : ∀ a, FollowsRecord Agrees (f a) (f' a)) : FollowsRecord Agrees (m >>= f) (m' >>= f') := by
  unfold FollowsRecord
  rw [lookups_bind, lookups_bind]
  exact Follows.bind hm hf

end FollowsRecord

end Traced

namespace Expander

open Traced

/-! ## Two evaluations side by side -/

/-- Whether two expanders differ at most in the values of their variables. -/
structure Alike (x y : Expander) : Prop where
  strict : y.values.strict = x.values.strict
  arity : y.values.arity = x.values.arity
  verbosity : y.verbosity = x.verbosity

/-- Whether a value that has been found is what an identifier stands for. -/
def Finds (y : Expander) (found : Identifier × Option String) : Prop :=
  y.values.resolve found.1 = found.2

section

variable {x y : Expander} (h : x.Alike y) (hv : 2 ≤ x.verbosity)

include h hv

/-- Each lookup is recorded, so the second one finds what the first one has found. -/
theorem followsRecord_lookUp (id : Identifier) :
    FollowsRecord y.Finds (x.lookUp id) (y.lookUp id) := by
  rw [lookUp_eq hv, lookUp_eq (h.verbosity ▸ hv)]
  intro hfound
  have hvalue : y.values.resolve id = x.values.resolve id :=
    hfound (id, x.values.resolve id) (List.mem_singleton_self _)
  rw [hvalue]
  exact ⟨rfl, rfl⟩

theorem followsRecord_lookUpUnless (emptyIsUnset : Bool) (id : Identifier) :
    FollowsRecord y.Finds (x.lookUpUnless emptyIsUnset id) (y.lookUpUnless emptyIsUnset id) :=
  (followsRecord_lookUp h hv id).bind fun _ => .refl _

omit hv in
theorem take_alike (branch : Branch) (id : Identifier) : y.take branch id = x.take branch id := by
  rw [take, take, h.verbosity]

omit hv in
theorem substitute_alike (id : Identifier) (p : Position) (text : String) :
    y.substitute id p text = x.substitute id p text := by
  rw [substitute, substitute, h.strict]

theorem followsRecord_require (id : Identifier) (p : Position) :
    FollowsRecord y.Finds (x.require id p) (y.require id p) := by
  refine (followsRecord_lookUp h hv id).bind fun value => ?_
  cases value with
  | none =>
    simp only [substitute_alike h]
    exact .refl _
  | some value => exact .refl _

omit hv in
/-- The evaluations of a payload follow each other, so those with the branch before it do. -/
theorem followsRecord_take_bind {α : Type} (branch : Branch) (id : Identifier)
    {payload payload' : Traced Identifier EvalError α}
    (hpayload : FollowsRecord y.Finds payload payload') :
    FollowsRecord y.Finds (x.take branch id >>= fun _ => payload)
      (y.take branch id >>= fun _ => payload') := by
  rw [take_alike h]
  exact (FollowsRecord.refl _).bind fun _ => hpayload

theorem followsRecord_evaluateNode (n : Node) :
    FollowsRecord y.Finds (x.evaluateNode n) (y.evaluateNode n) := by
  induction n with
  | text value => exact .refl _
  | arity p =>
    simp only [evaluateNode, h.arity]
    exact .refl _
  | simple id modifier p => exact (followsRecord_require h hv id p).bind fun _ => .refl _
  | length id p =>
    refine (followsRecord_lookUp h hv id).bind fun value => ?_
    cases value with
    | none =>
      simp only [substitute_alike h]
      exact .refl _
    | some value => exact .refl _
  -- The first lookup tells the second identifier, which is the same one once the values agree.
  | indirect id p =>
    exact (followsRecord_require h hv id p).bind fun name => followsRecord_require h hv _ p
  | withDefault id default emptyIsUnset p ih =>
    refine (followsRecord_lookUpUnless h hv emptyIsUnset id).bind fun value => ?_
    cases value with
    | none => exact followsRecord_take_bind h .default id ih
    | some value => exact .refl _
  | withAlternative id alternative emptyIsUnset p ih =>
    refine (followsRecord_lookUpUnless h hv emptyIsUnset id).bind fun value => ?_
    cases value with
    | none => exact .refl _
    | some value => exact followsRecord_take_bind h .alternative id ih
  | withError id message emptyIsUnset p =>
    refine (followsRecord_lookUpUnless h hv emptyIsUnset id).bind fun value => ?_
    cases value with
    | none => exact followsRecord_take_bind h .error id (.refl _)
    | some value => exact .refl _

theorem followsRecord_evaluateNodes (ns : List Node) :
    FollowsRecord y.Finds (x.evaluateNodes ns) (y.evaluateNodes ns) := by
  induction ns with
  | nil => exact .refl _
  | cons n ns ih =>
    -- Both go on to the other nodes, or both stop at an error of this one.
    exact (followsRecord_evaluateNode h hv n).bind fun _ => ih.bind fun _ => .refl _

theorem followsRecord_evaluate (t : Template) :
    FollowsRecord y.Finds (x.evaluate t) (y.evaluate t) := by
  simp only [evaluate, h.verbosity]
  exact (FollowsRecord.refl _).bind fun _ => followsRecord_evaluateNodes h hv t.nodes

end

/-- What is looked up at verbosity two decides on the evaluation at each verbosity. -/
theorem evaluate_eq_of_finds {x y : Expander} (hstrict : y.values.strict = x.values.strict)
    (harity : y.values.arity = x.values.arity) {t : Template}
    (hfound : ∀ found ∈ ((x.set (.verbosity 2)).evaluate t).lookups, y.Finds found) (level : Nat) :
    (y.set (.verbosity level)).evaluate t = (x.set (.verbosity level)).evaluate t := by
  have hlayers := x.layered_evaluate t
  -- All lookups have level two, so the full evaluation has the same ones.
  have hlookups : ((x.set (.verbosity 2)).evaluate t).lookups =
      ((x.set (.verbosity 3)).evaluate t).lookups := by
    rw [lookups, lookups, hlayers.events_eq, List.filterMap_filter]
    congr 1
    funext event
    cases event <;> rfl
  have halike : (x.set (.verbosity 3)).Alike (y.set (.verbosity 3)) := ⟨hstrict, harity, rfl⟩
  obtain ⟨hfull, -⟩ := followsRecord_evaluate halike (by decide : 2 ≤ 3) t (hlookups ▸ hfound)
  rw [hlayers.eq_upTo level, (y.layered_evaluate t).eq_upTo level, hfull]

/-! ## Payloads that are not evaluated -/

/-- Two nodes that differ only in payloads that are not evaluated. -/
inductive SameLive (x : Expander) : Node → Node → Prop where
  /-- Nothing is replaced. -/
  | same (n : Node) : SameLive x n n
  /-- A default is not evaluated if there is a value. -/
  | deadDefault {id : Identifier} {emptyIsUnset : Bool} (h : (x.value? id emptyIsUnset).isSome)
      (default replacement : Node) (p : Position) :
      SameLive x (.withDefault id default emptyIsUnset p) (.withDefault id replacement emptyIsUnset p)
  /-- An alternative is not evaluated if there is no value. -/
  | deadAlternative {id : Identifier} {emptyIsUnset : Bool} (h : x.value? id emptyIsUnset = none)
      (alternative replacement : Node) (p : Position) :
      SameLive x (.withAlternative id alternative emptyIsUnset p)
        (.withAlternative id replacement emptyIsUnset p)
  /-- Inside a default. -/
  | default (id : Identifier) (emptyIsUnset : Bool) (p : Position) {payload replacement : Node}
      (h : SameLive x payload replacement) :
      SameLive x (.withDefault id payload emptyIsUnset p) (.withDefault id replacement emptyIsUnset p)
  /-- Inside an alternative. -/
  | alternative (id : Identifier) (emptyIsUnset : Bool) (p : Position) {payload replacement : Node}
      (h : SameLive x payload replacement) :
      SameLive x (.withAlternative id payload emptyIsUnset p)
        (.withAlternative id replacement emptyIsUnset p)

variable {x : Expander}

theorem evaluateNode_eq_of_sameLive {n m : Node} (h : x.SameLive n m) :
    x.evaluateNode m = x.evaluateNode n := by
  induction h with
  | same n => rfl
  -- The lookup tells that the branch with the payload is not taken.
  | @deadDefault id emptyIsUnset h default replacement p =>
    obtain ⟨value, hvalue⟩ := Option.isSome_iff_exists.1 h
    have houtcome := (x.outcome_lookUpUnless id emptyIsUnset).trans (congrArg _ hvalue)
    rw [evaluateNode, evaluateNode, bind_of_ok houtcome, bind_of_ok houtcome]
  | @deadAlternative id emptyIsUnset h alternative replacement p =>
    have houtcome := (x.outcome_lookUpUnless id emptyIsUnset).trans (congrArg _ h)
    rw [evaluateNode, evaluateNode, bind_of_ok houtcome, bind_of_ok houtcome]
  | default id emptyIsUnset p h ih => rw [evaluateNode, evaluateNode, ih]
  | alternative id emptyIsUnset p h ih => rw [evaluateNode, evaluateNode, ih]

theorem evaluateNodes_eq_of_sameLive {ns ms : List Node} (h : List.Forall₂ x.SameLive ns ms) :
    x.evaluateNodes ms = x.evaluateNodes ns := by
  induction h with
  | nil => rfl
  | cons hn hns ih => rw [evaluateNodes, evaluateNodes, evaluateNode_eq_of_sameLive hn, ih]

/-- The outcome and the trace stay what they are. -/
theorem evaluate_eq_of_sameLive {t u : Template} (h : List.Forall₂ x.SameLive t.nodes u.nodes) :
    x.evaluate u = x.evaluate t := by
  rw [evaluate, evaluate, evaluateNodes_eq_of_sameLive h, h.length_eq]

end Expander

end ParamExpansion
