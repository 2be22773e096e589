import ParamExpansion.Proofs.Lookups
import ParamExpansion.Proofs.TraceLevels

/-!
# What the evaluation of a stored template depends on

A stored template depends on its lookups as a template does. Here a lookup may also fail, or have no
name that can be shown, and such a lookup is not recorded; so the lookups are listed beside the
evaluation. Whether a lookup fails is told by the number of positional values alone.
-/

namespace ParamExpansion

namespace Stored

open Traced

/-! ## Lookups -/

/-- The identifiers that the evaluation of a node looks up, in their order. -/
def Node.lookups (x : Expander) : Node → List Identifier
  | .sequence _ | .text _ | .arity _ => []
  | .simple id _ _ | .length id _ | .withError id _ _ _ => [id]
  | .indirect id place =>
    id :: (Run.require x id place).behind fun name => [.named (.string name)]
  | .withDefault id default emptyIsUnset _ =>
    id :: (Run.lookUpUnless x emptyIsUnset id).behind fun value =>
      value.elim (default.lookups x) fun _ => []
  | .withAlternative id alternative emptyIsUnset _ =>
    id :: (Run.lookUpUnless x emptyIsUnset id).behind fun value =>
      value.elim [] fun _ => alternative.lookups x

/-- The identifiers that the evaluation of some nodes looks up. It ends with the first node that
fails. -/
def Node.lookupsAll (x : Expander) : List Node → List Identifier
  | [] => []
  | n :: ns => n.lookups x ++ (n.evaluate x).behind fun _ => lookupsAll x ns

/-- What the trace shows of a lookup, unless it fails or cannot be shown. -/
def Identifier.found? (v : Variables) (id : Identifier) :
    Option (WideText × Option String) :=
  match id.shown?, id.resolve v with
  | some text, .ok value => some (text, value)
  | _, _ => none

/-- Whether an identifier that has a value, or none, in the one expander has the same in the other. -/
def Identifier.Agrees (x y : Expander) (id : Identifier) : Prop :=
  ∀ value, id.resolve x.values = .ok value → id.resolve y.values = .ok value

/-! ## Two evaluations side by side -/

section

variable {v w : Variables} {id : Identifier}

/-- Only an index that counts back too far has no value at all. -/
theorem valueAt_eq_error_iff {index : Int} {e : EvalError} :
    valueAt v index = .error e ↔
      (index ≠ 0 ∧ index ≤ v.arity ∧ (if index < 1 then index - 1 + v.arity else index - 1) < 0) ∧
        e = .noSuchIndex := by
  dsimp only [valueAt]
  generalize (if index < 1 then index - 1 + v.arity else index - 1) = place
  by_cases hzero : index = 0 <;> by_cases hle : index ≤ v.arity <;> by_cases hneg : place < 0 <;>
    simp [hzero, hle, hneg, eq_comm]

theorem valueAt_eq_error (harity : w.arity = v.arity) {index : Int} {e : EvalError}
    (h : valueAt v index = .error e) : valueAt w index = .error e := by
  rw [valueAt_eq_error_iff] at h ⊢
  rwa [harity]

/-- A lookup fails whatever the values are. -/
theorem Identifier.resolve_eq_error (harity : w.arity = v.arity) {e : EvalError}
    (h : id.resolve v = .error e) : id.resolve w = .error e := by
  -- Looking a name up fails for names that cannot be keys, and an index by how many values there
  -- are.
  cases id with
  | named name =>
    cases name with
    | array items | object members => exact h
    | string text => cases text <;> cases h
    | _ => cases h
  | index index =>
    cases index with
    | int n => exact valueAt_eq_error harity h
    | bool b => exact valueAt_eq_error harity h
    | float value =>
      simp only [resolve, harity] at h ⊢
      split at h
      · cases h
      · split at h
        · next h0 hle => rw [if_neg h0, if_pos hle]; exact h
        · cases h
    | _ => exact h

end

namespace Run

variable {x y : Expander} (h : x.Alike y) {id : Identifier}

include h

theorem record_alike (event : WideText → Event WideText) : record y id event = record x id event := by
  rw [record, record, h.verbosity]

theorem substitute_alike (place : Option Place) (text : String) :
    substitute y id place text = substitute x id place text := by
  rw [substitute, substitute, h.strict]

theorem follows_lookUp :
    Follows (Identifier.Agrees x y) [id] [id] (lookUp x id) (lookUp y id) := by
  intro hid
  refine ⟨?_, rfl⟩
  rw [lookUp, lookUp]
  cases hx : id.resolve x.values with
  | error e => rw [id.resolve_eq_error h.arity hx]; rfl
  | ok value =>
    rw [hid id (List.mem_singleton_self id) value hx]
    simp only [record_alike h]

theorem follows_lookUpUnless (emptyIsUnset : Json) :
    Follows (Identifier.Agrees x y) [id] [id] (lookUpUnless x emptyIsUnset id)
      (lookUpUnless y emptyIsUnset id) :=
  (follows_lookUp h).bind_of_eq fun _ => rfl

theorem follows_require (place : Option Place) :
    Follows (Identifier.Agrees x y) [id] [id] (require x id place) (require y id place) := by
  refine (follows_lookUp h).bind_of_eq fun value => ?_
  cases value with
  | none => exact substitute_alike h place ""
  | some value => rfl

/-- The evaluations of a payload follow each other, so those with the branch before it do. -/
theorem follows_record_bind {α : Type} {made made' : List Identifier} {payload payload' : Run α}
    (event : WideText → Event WideText)
    (hpayload : Follows (Identifier.Agrees x y) made made' payload payload') :
    Follows (Identifier.Agrees x y) made made' (record x id event >>= fun _ => payload)
      (record y id event >>= fun _ => payload') := by
  intro hmade
  obtain ⟨rfl, rfl⟩ := hpayload hmade
  rw [record_alike h]
  exact ⟨rfl, rfl⟩

end Run

namespace Node

variable {x y : Expander} (h : x.Alike y)

include h

theorem follows_evaluate : ∀ n : Node,
    Follows (Identifier.Agrees x y) (n.lookups x) (n.lookups y) (n.evaluate x) (n.evaluate y)
  | .sequence _ | .text _ => .refl _ _
  | .arity _ => by
    rw [evaluate, evaluate, h.arity]
    exact .refl _ _
  | .simple id modifier place => (Run.follows_require h place).bind_of_eq fun _ => rfl
  | .length id place => by
    refine (Run.follows_lookUp h).bind_of_eq fun value => ?_
    cases value with
    | none => simp only [Run.substitute_alike h]
    | some value => rfl
  -- The first lookup tells the second identifier, which is the same one once the values agree.
  | .indirect id place =>
    (Run.follows_require h place).bind fun _ => (Run.follows_require h place).bind_of_eq fun _ => rfl
  | .withDefault id default emptyIsUnset _ => by
    refine (Run.follows_lookUpUnless h emptyIsUnset).bind fun value => ?_
    cases value with
    | none => exact Run.follows_record_bind h _ (follows_evaluate default)
    | some value => exact .refl _ _
  | .withAlternative id alternative emptyIsUnset _ => by
    refine (Run.follows_lookUpUnless h emptyIsUnset).bind fun value => ?_
    cases value with
    | none => exact .refl _ _
    | some value => exact Run.follows_record_bind h _ (follows_evaluate alternative)
  | .withError id message emptyIsUnset place => by
    refine (Run.follows_lookUpUnless h emptyIsUnset).bind_of_eq fun value => ?_
    cases value with
    | none => simp only [Run.record_alike h]
    | some value => rfl

theorem follows_evaluateAll (ns : List Node) :
    Follows (Identifier.Agrees x y) (lookupsAll x ns) (lookupsAll y ns) (evaluateAll x ns)
      (evaluateAll y ns) := by
  induction ns with
  | nil => exact .refl _ _
  | cons n ns ih => exact (follows_evaluate h n).bind fun _ => ih.bind_of_eq fun _ => rfl

end Node

/-! ## Recorded lookups -/

/-- Whether the trace of a run shows its lookups, less those that cannot be shown. -/
def Run.Records {α : Type} (x : Expander) (made : List Identifier) (m : Run α) : Prop :=
  m.lookups = made.filterMap (·.found? x.values)

namespace Run

variable {x : Expander} {id : Identifier}

theorem Records.bind {α β : Type} {made : List Identifier} {next : α → List Identifier} {m : Run α}
    {f : α → Run β} (hm : Records x made m)
    (hf : ∀ a, m.outcome = .ok a → Records x (next a) (f a)) :
    Records x (made ++ m.behind next) (m >>= f) := by
  rw [Records, lookups_bind, List.filterMap_append, ← hm]
  cases hout : m.outcome with
  | error e => rw [behind_of_error hout, behind_of_error hout]; rfl
  | ok a => rw [behind_of_ok hout, behind_of_ok hout, hf a hout]

/-- A lookup is recorded unless it fails, and it fails unless its identifier can be shown. -/
theorem lookUp_cases (hv : 2 ≤ x.verbosity) (id : Identifier) :
    (∃ text value, id.shown? = some text ∧ id.found? x.values = some (text, value) ∧
      lookUp x id = ⟨[.resolved text value], .ok value⟩) ∨
    (id.found? x.values = none ∧ ∃ e, lookUp x id = ⟨[], .error e⟩) := by
  unfold lookUp
  cases hresolve : id.resolve x.values with
  | error e => exact .inr ⟨by simp [Identifier.found?, hresolve], e, rfl⟩
  | ok value =>
    have hlevel (text : WideText) : (Event.resolved text value).level ≤ x.verbosity := hv
    rw [Expander.ofExcept_ok_bind, record, if_pos (hlevel ""), shown]
    cases hshown : id.shown? with
    | none => exact .inr ⟨by simp [Identifier.found?, hshown], .unsuited, rfl⟩
    | some text =>
      refine .inl ⟨text, value, rfl, by simp [Identifier.found?, hshown, hresolve], ?_⟩
      rw [traced_pure_bind, record_of_le (hlevel text), value_bind]
      rfl

theorem records_lookUp (hv : 2 ≤ x.verbosity) (id : Identifier) :
    Records x [id] (lookUp x id) := by
  rcases lookUp_cases hv id with ⟨text, value, -, hfound, heq⟩ | ⟨hfound, e, heq⟩ <;>
    simp [Records, Traced.lookups, Event.lookup?, heq, hfound]

variable {made : List Identifier}

/-- Steps that make no lookups. -/
theorem Records.bind_of_nil {α β : Type} {m : Run α} {f : α → Run β} (hm : Records x made m)
    (hf : ∀ a, m.outcome = .ok a → (f a).lookups = []) : Records x made (m >>= f) := by
  have hbind : Records x (made ++ m.behind fun _ => []) (m >>= f) := hm.bind hf
  rwa [behind_nil, List.append_nil] at hbind

@[simp] theorem lookups_pure {α : Type} (a : α) : (pure a : Run α).lookups = [] := rfl

@[simp] theorem lookups_throw {α : Type} (e : EvalError) : (throw e : Run α).lookups = [] := rfl

@[simp] theorem lookups_ofExcept {α : Type} (outcome : Except EvalError α) :
    (ofExcept outcome).lookups = [] := rfl

@[simp] theorem lookups_unset {α : Type} (orEmpty : Bool) (place : Option Place) :
    (unset id orEmpty place : Run α).lookups = [] := by
  unfold unset shown
  cases id.shown? <;> rfl

@[simp] theorem lookups_substitute (place : Option Place) (text : String) :
    (substitute x id place text).lookups = [] := by
  unfold substitute
  split <;> simp

theorem records_lookUpUnless (hv : 2 ≤ x.verbosity) (emptyIsUnset : Json) :
    Records x [id] (lookUpUnless x emptyIsUnset id) :=
  (records_lookUp hv id).bind_of_nil fun _ _ => lookups_pure _

theorem records_require (hv : 2 ≤ x.verbosity) (place : Option Place) :
    Records x [id] (require x id place) := by
  refine (records_lookUp hv id).bind_of_nil fun value _ => ?_
  cases value <;> simp

/-- An identifier that has been looked up can be shown, so taking a branch for it does not fail. -/
theorem lookups_take_bind (hv : 2 ≤ x.verbosity) {emptyIsUnset : Json} {value : Option String}
    (h : (lookUpUnless x emptyIsUnset id).outcome = .ok value) {α : Type} (branch : Branch)
    (payload : Run α) :
    (record x id (.took branch ·) >>= fun _ => payload).lookups = payload.lookups := by
  rcases lookUp_cases hv id with ⟨text, found, hshown, -, -⟩ | ⟨-, e, heq⟩
  · rw [record_of_shown x hshown fun _ => rfl, lookups_bind, behind_of_ok rfl]
    unfold Traced.record Traced.lookups
    split <;> rfl
  · rw [lookUpUnless, heq] at h
    cases h

end Run

/-- What the trace of a node shows. -/
theorem Node.records_evaluate {x : Expander} (hv : 2 ≤ x.verbosity) : ∀ n : Node,
    Run.Records x (n.lookups x) (n.evaluate x)
  | .sequence _ | .text _ | .arity _ => rfl
  | .simple id modifier place => by
    refine (Run.records_require hv place).bind_of_nil fun value _ => ?_
    cases modifier with
    | none => rfl
    | some m => rw [lookups_bind]; simp
  | .length id place => by
    refine (Run.records_lookUp hv id).bind_of_nil fun value _ => ?_
    cases value with
    | none => rw [lookups_bind]; simp
    | some value => rfl
  | .indirect id place =>
    (Run.records_require hv place).bind fun _ _ =>
      (Run.records_require hv place).bind_of_nil fun _ _ => rfl
  -- The lookups of a payload follow only where its branch is taken.
  | .withDefault id default emptyIsUnset _ => by
    refine (Run.records_lookUpUnless hv emptyIsUnset).bind fun value hvalue => ?_
    cases value with
    | none => exact (Run.lookups_take_bind hv hvalue .default _).trans (records_evaluate hv default)
    | some value => rfl
  | .withAlternative id alternative emptyIsUnset _ => by
    refine (Run.records_lookUpUnless hv emptyIsUnset).bind fun value hvalue => ?_
    cases value with
    | none => rfl
    | some value =>
      exact (Run.lookups_take_bind hv hvalue .alternative _).trans (records_evaluate hv alternative)
  | .withError id message emptyIsUnset place => by
    refine (Run.records_lookUpUnless hv emptyIsUnset).bind_of_nil fun value hvalue => ?_
    cases value with
    | none =>
      refine (Run.lookups_take_bind hv hvalue .error _).trans ?_
      cases message <;> simp
    | some value => rfl

theorem Node.records_evaluateAll {x : Expander} (hv : 2 ≤ x.verbosity) (ns : List Node) :
    Run.Records x (lookupsAll x ns) (evaluateAll x ns) := by
  induction ns with
  | nil => rfl
  | cons n ns ih =>
    -- The other nodes are evaluated behind a value only, and `behind` counts their lookups only then.
    exact (records_evaluate hv n).bind fun _ _ => ih.bind_of_nil fun _ _ => rfl

/-! ## Payloads that are not evaluated -/

/-- Two stored nodes that differ only in payloads that are not evaluated. -/
inductive Node.SameLive (x : Expander) : Node → Node → Prop where
  /-- Nothing is replaced. -/
  | same (n : Node) : SameLive x n n
  /-- A default is not evaluated if there is a value, which must not be empty if that counts. -/
  | deadDefault {id : Identifier} {emptyIsUnset : Json} {value : String}
      (h : id.resolve x.values = .ok (some value)) (hempty : emptyIsUnset.holds → value ≠ "")
      (default replacement : Node) (place : Option Place) :
      SameLive x (.withDefault id default emptyIsUnset place)
        (.withDefault id replacement emptyIsUnset place)
  /-- An alternative is not evaluated if there is no value, or an empty one if that counts. -/
  | deadAlternative {id : Identifier} {emptyIsUnset : Json} {value : Option String}
      (h : id.resolve x.values = .ok value)
      (hunset : value = none ∨ emptyIsUnset.holds ∧ value = some "")
      (alternative replacement : Node) (place : Option Place) :
      SameLive x (.withAlternative id alternative emptyIsUnset place)
        (.withAlternative id replacement emptyIsUnset place)
  /-- Inside a default. -/
  | default (id : Identifier) (emptyIsUnset : Json) (place : Option Place)
      {payload replacement : Node} (h : SameLive x payload replacement) :
      SameLive x (.withDefault id payload emptyIsUnset place)
        (.withDefault id replacement emptyIsUnset place)
  /-- Inside an alternative. -/
  | alternative (id : Identifier) (emptyIsUnset : Json) (place : Option Place)
      {payload replacement : Node} (h : SameLive x payload replacement) :
      SameLive x (.withAlternative id payload emptyIsUnset place)
        (.withAlternative id replacement emptyIsUnset place)

section

variable {x : Expander} {id : Identifier}

/-- A lookup comes to the value, or fails since the identifier cannot be shown. -/
theorem Run.outcome_lookUpUnless_or {emptyIsUnset : Json} {value : Option String}
    (h : id.resolve x.values = .ok value) :
    (∃ e, (lookUpUnless x emptyIsUnset id).outcome = .error e) ∨
    (lookUpUnless x emptyIsUnset id).outcome =
      .ok (if emptyIsUnset.holds ∧ value = some "" then none else value) := by
  rw [lookUpUnless, lookUp, h, Expander.ofExcept_ok_bind]
  cases hrecord : (record x id (.resolved · value)).outcome with
  | error e => exact .inl ⟨e, by rw [bind_of_error hrecord, bind_of_error rfl]⟩
  | ok u => exact .inr (by rw [bind_of_ok hrecord, bind_of_ok rfl]; rfl)

theorem Node.evaluate_eq_of_sameLive {n m : Node} (h : Node.SameLive x n m) :
    m.evaluate x = n.evaluate x := by
  induction h with
  | same n => rfl
  -- Behind the lookup the branch is not taken, or there is an error already.
  | deadDefault h hempty default replacement place =>
    rw [evaluate, evaluate]
    rcases Run.outcome_lookUpUnless_or h with ⟨e, he⟩ | hvalue
    · rw [bind_of_error he, bind_of_error he]
    · rw [if_neg fun hboth => hempty hboth.1 (Option.some.inj hboth.2)] at hvalue
      rw [bind_of_ok hvalue, bind_of_ok hvalue]
  | @deadAlternative id emptyIsUnset value h hunset alternative replacement place =>
    rw [evaluate, evaluate]
    have hnone : (if emptyIsUnset.holds ∧ value = some "" then none else value) = none := by
      rcases hunset with rfl | hempty
      · exact ite_self none
      · exact if_pos hempty
    rcases Run.outcome_lookUpUnless_or h with ⟨e, he⟩ | hvalue
    · rw [bind_of_error he, bind_of_error he]
    · rw [hnone] at hvalue
      rw [bind_of_ok hvalue, bind_of_ok hvalue]
  | default id emptyIsUnset place h ih => rw [evaluate, evaluate, ih]
  | alternative id emptyIsUnset place h ih => rw [evaluate, evaluate, ih]

theorem Node.evaluateAll_eq_of_sameLive {ns ms : List Node}
    (h : List.Forall₂ (Node.SameLive x) ns ms) : evaluateAll x ms = evaluateAll x ns := by
  induction h with
  | nil => rfl
  | cons hn hns ih => rw [evaluateAll, evaluateAll, Node.evaluate_eq_of_sameLive hn, ih]

end

end Stored

/-! ## Whole templates -/

namespace Expander

open Traced
open Stored.Node (lookupsAll)

theorem evaluateStored_eq_of_agrees {x y : Expander} (h : x.Alike y) {nodes : List Stored.Node}
    (hagrees : ∀ id ∈ lookupsAll x nodes, id.Agrees x y) :
    y.evaluateStored (.sequence nodes) = x.evaluateStored (.sequence nodes) ∧
      lookupsAll y nodes = lookupsAll x nodes := by
  obtain ⟨heq, hlookups⟩ := Stored.Node.follows_evaluateAll h nodes hagrees
  refine ⟨?_, hlookups⟩
  rw [evaluateStored, evaluateStored, heq, h.verbosity]

theorem lookups_evaluateStored {x : Expander} (hv : 2 ≤ x.verbosity) (nodes : List Stored.Node) :
    (x.evaluateStored (.sequence nodes)).lookups =
      (lookupsAll x nodes).filterMap (·.found? x.values) := by
  have hrecords := (Stored.Node.records_evaluateAll hv nodes).bind_of_nil
    (f := fun values => Stored.Run.ofExcept (Stored.concatenate values)) fun _ _ => rfl
  rw [← hrecords, evaluateStored, record_of_le (Nat.le_trans (by decide : 1 ≤ 2) hv), value_bind]
  rfl

theorem evaluateStored_eq_of_sameLive {x : Expander} {nodes replaced : List Stored.Node}
    (h : List.Forall₂ (Stored.Node.SameLive x) nodes replaced) :
    x.evaluateStored (.sequence replaced) = x.evaluateStored (.sequence nodes) := by
  rw [evaluateStored, evaluateStored, Stored.Node.evaluateAll_eq_of_sameLive h, h.length_eq]

/-- An evaluation depends only on what it looks up. Where variables with as many positional values,
just as strict, have the values that a template has looked up, or have none alike, the outcome is the
same, and so is the trace at each verbosity, with the lookups in it. Payloads that are not evaluated
can be replaced by any others. The same goes for stored templates; their lookups are those which the
trace shows, and those which fail or cannot be shown. -/
theorem evaluation_depends_on_lookups (x : Expander) :
    (∀ (y : Expander) (t : Template), y.values.strict = x.values.strict →
      y.values.arity = x.values.arity →
      (∀ id value, (id, value) ∈ ((x.set (.verbosity 2)).evaluate t).lookups →
        y.values.resolve id = value) →
      ∀ level, (y.set (.verbosity level)).evaluate t = (x.set (.verbosity level)).evaluate t) ∧
    (∀ t u : Template, List.Forall₂ x.SameLive t.nodes u.nodes → x.evaluate u = x.evaluate t) ∧
    (∀ (y : Expander) (nodes : List Stored.Node), y.values.strict = x.values.strict →
      y.values.arity = x.values.arity → y.verbosity = x.verbosity →
      (∀ id ∈ lookupsAll x nodes, ∀ value, id.resolve x.values = .ok value →
        id.resolve y.values = .ok value) →
      y.evaluateStored (.sequence nodes) = x.evaluateStored (.sequence nodes) ∧
        lookupsAll y nodes = lookupsAll x nodes) ∧
    (∀ nodes : List Stored.Node, 2 ≤ x.verbosity →
      (x.evaluateStored (.sequence nodes)).lookups =
        (lookupsAll x nodes).filterMap (·.found? x.values)) ∧
    ∀ nodes replaced : List Stored.Node, List.Forall₂ (Stored.Node.SameLive x) nodes replaced →
      x.evaluateStored (.sequence replaced) = x.evaluateStored (.sequence nodes) := by
  refine ⟨?_, ?_, ?_, ?_, ?_⟩
  · intro y t hstrict harity hfound level
    exact evaluate_eq_of_finds hstrict harity (fun found hmem => hfound found.1 found.2 hmem) level
  · intro t u h
    exact evaluate_eq_of_sameLive h
  · intro y nodes hstrict harity hverbosity hagrees
    exact evaluateStored_eq_of_agrees ⟨hstrict, harity, hverbosity⟩ hagrees
  · intro nodes hv
    exact lookups_evaluateStored hv nodes
  · intro nodes replaced h
    exact evaluateStored_eq_of_sameLive h

/-- An indirect parameter, and one with a default that is not needed: the variable in the default may
have any value, and an error may take its place. In the stored template an index counts back to the
first of two positional values, so the other one does not count. -/
theorem evaluation_depends_on_lookups_indirect :
    let named := [("a", "b"), ("b", "c")]
    let x : Expander :=
      { values := { named := .ofList named, positional := ["p", "q"] }, verbosity := 2 }
    let y : Expander :=
      { values := { named := .ofList (("d", "e") :: named), positional := ["p", "r"] }, verbosity := 2 }
    let template (payload : Node) : Template :=
      ⟨[.indirect (.named "a") .start, .withDefault (.named "b") payload true .start]⟩
    let stored (payload : Stored.Node) : List Stored.Node :=
      [.length (.index (.int (-1))) none,
       .withAlternative (.named (.string "f")) payload (.bool true) none]
    (∀ level, (y.set (.verbosity level)).evaluate (template (.length (.named "d") .start)) =
      (x.set (.verbosity level)).evaluate (template (.length (.named "d") .start))) ∧
    x.evaluate (template (.withError (.named "d") none true .start)) =
      x.evaluate (template (.length (.named "d") .start)) ∧
    y.evaluateStored (.sequence (stored (.text .null))) =
      x.evaluateStored (.sequence (stored (.text .null))) ∧
    (x.evaluateStored (.sequence (stored (.text .null)))).lookups =
      [(.plain "-1", some "p"), (.plain "f", none)] ∧
    x.evaluateStored (.sequence (stored (.sequence []))) =
      x.evaluateStored (.sequence (stored (.text .null))) := by
  intro named x y template stored
  obtain ⟨htemplate, hlive, hstored, hshown, hlivestored⟩ := x.evaluation_depends_on_lookups
  -- Each part is used once: the other variables agree on what is looked up, and the payload that is
  -- replaced is not needed.
  refine ⟨htemplate y _ rfl rfl ?_, hlive _ _ ?_, (hstored y _ rfl rfl rfl ?_).1, ?_, hlivestored _ _ ?_⟩
  · have hlookups : ((x.set (.verbosity 2)).evaluate (template (.length (.named "d") .start))).lookups =
        [(.named "a", some "b"), (.named "b", some "c"), (.named "b", some "c")] := rfl
    intro id value hmem
    rw [hlookups] at hmem
    simp only [List.mem_cons, List.not_mem_nil, or_false, Prod.mk.injEq] at hmem
    rcases hmem with ⟨rfl, rfl⟩ | ⟨rfl, rfl⟩ | ⟨rfl, rfl⟩ <;> rfl
  · exact .cons (.same _) (.cons (.deadDefault rfl _ _ _) .nil)
  · have hlookups : Stored.Node.lookupsAll x (stored (.text .null)) =
        [.index (.int (-1)), .named (.string "f")] := rfl
    intro id hmem
    rw [hlookups] at hmem
    simp only [List.mem_cons, List.not_mem_nil, or_false] at hmem
    rcases hmem with rfl | rfl <;> exact fun value hvalue => hvalue
  · exact hshown _ (Nat.le_refl 2)
  · exact .cons (.same _) (.cons (.deadAlternative rfl (.inl rfl) _ _ _) .nil)

end Expander

end ParamExpansion
