import ParamExpansion.Proofs.Evaluation
import ParamExpansion.Proofs.Traces
import ParamExpansion.Stored.Evaluation

/-!
# Stored templates evaluate as templates do

The evaluation of a stored template agrees with that of the template it has been made of. The trace
has the same lines, and the outcome is the same text, or the same error at the same place. None of
the faults occur that only the values of a stored template can have.
-/

namespace ParamExpansion

/-! ## Traces -/

/-- The event with what its identifier shows. -/
def Event.shown {ι : Type} [ToString ι] : Event ι → Event WideText
  | .started nodes => .started nodes
  | .resolved id value => .resolved (toString id) value
  | .took branch id => .took branch (toString id)

@[simp] theorem Event.line_shown {ι : Type} [ToString ι] (event : Event ι) :
    event.shown.line = event.line := by cases event <;> rfl

@[simp] theorem Event.level_shown {ι : Type} [ToString ι] (event : Event ι) :
    event.shown.level = event.level := by cases event <;> rfl

/-- The error as one of a stored template. -/
def EvalError.toStored (e : EvalError) : Stored.EvalError :=
  .lacking (.string e.message) (some e.position.toStored)

namespace Traced

variable {ι ε α β γ : Type}

@[simp] theorem traced_pure_bind (a : α) (f : α → Traced ι ε β) : (pure a >>= f) = f a :=
  bind_of_ok rfl f

theorem traced_bind_assoc (x : Traced ι ε α) (f : α → Traced ι ε β) (g : β → Traced ι ε γ) :
    (x >>= f >>= g) = x >>= fun a => f a >>= g := by
  cases hx : x.outcome with
  | error e => rw [bind_of_error hx, bind_of_error hx, bind_of_error rfl]
  | ok a =>
    rw [bind_of_ok hx, bind_of_ok hx]
    cases hf : (f a).outcome with
    | error e => rw [bind_of_error rfl, bind_of_error hf]
    | ok b => rw [bind_of_ok rfl, bind_of_ok hf, List.append_assoc]

@[simp] theorem traced_bind_pure (x : Traced ι ε α) : (x >>= pure) = x := by
  obtain ⟨events, outcome⟩ := x
  cases outcome with
  | error e => rfl
  | ok a => exact (bind_of_ok rfl _).trans (by simp; rfl)

/-- The evaluation as one of a stored template, with the value `f a` in place of `a`. -/
def toStored (f : α → β) (x : Traced Identifier EvalError α) : Traced WideText Stored.EvalError β :=
  ⟨x.events.map Event.shown, (x.outcome.map f).mapError EvalError.toStored⟩

variable {x : Traced Identifier EvalError α}

@[simp] theorem toStored_pure (f : α → β) (a : α) :
    (pure a : Traced Identifier EvalError α).toStored f = pure (f a) := rfl

theorem toStored_record (verbosity : Nat) (event : Event Identifier) :
    (record verbosity event : Traced Identifier EvalError Unit).toStored id =
      record verbosity event.shown := by
  unfold record toStored
  rw [Event.level_shown]
  split <;> rfl

/-- What goes on from agreeing values agrees. -/
theorem toStored_bind (g : α → γ) {k : α → Traced Identifier EvalError β} {f : β → δ}
    {k' : γ → Traced WideText Stored.EvalError δ} (h : ∀ a, (k a).toStored f = k' (g a)) :
    (x >>= k).toStored f = x.toStored g >>= k' := by
  -- An error ends both runs at the same step.
  cases hx : x.outcome with
  | error e =>
    have hstored : (x.toStored g).outcome = .error e.toStored := by simp [toStored, hx, Except.map]
    rw [bind_of_error hx, bind_of_error hstored]
    rfl
  | ok a =>
    have hstored : (x.toStored g).outcome = .ok (g a) := by simp [toStored, hx, Except.map]
    rw [bind_of_ok hx, bind_of_ok hstored, ← h a]
    simp [toStored]

theorem toStored_eq_bind (f : α → β) (x : Traced Identifier EvalError α) :
    x.toStored f = x.toStored (fun a => a) >>= fun a => pure (f a) := by
  have hbind := toStored_bind (x := x) (f := f) (fun a => a) (k := pure) fun a => rfl
  rwa [traced_bind_pure] at hbind

end Traced

open Stored (Run)

/-! ## Single steps -/

/-- An index that is not negative names the same value. -/
theorem Stored.valueAt_natCast (v : Variables) (n : Nat) :
    valueAt v n = .ok (v.resolve (.index n)) := by
  cases n with
  | zero => rfl
  | succ n =>
    have hresolve : v.resolve (.index (n + 1)) = v.positional[n]? := rfl
    unfold valueAt
    rw [if_neg (by omega), hresolve]
    -- The first value has the number one.
    by_cases hle : n + 1 ≤ v.arity
    · have hplace : ((n + 1 : Nat) : Int) - 1 = (n : Int) := by omega
      rw [if_pos (by exact_mod_cast hle), if_neg (by omega), hplace, if_neg (by omega)]
      rfl
    · rw [if_neg (by exact_mod_cast hle),
        List.getElem?_eq_none (Nat.le_of_lt_succ (Nat.lt_of_not_le hle))]

theorem Identifier.resolve_toStored (v : Variables) (id : Identifier) :
    id.toStored.resolve v = .ok (v.resolve id) := by
  cases id with
  | named name => rfl
  | index n => exact Stored.valueAt_natCast v n

theorem Identifier.shown_toStored (id : Identifier) :
    Run.shown id.toStored = pure (.plain (toString id)) := by
  cases id <;> rfl

theorem CaseChange.apply_empty (k : CaseChange) (all : Bool) : k.apply all "" = "" := by
  cases k <;> cases all <;> rfl

theorem Modifier.apply_toStored (m : Modifier) (value : String) :
    m.toStored.apply value = .ok (m.apply value) := by
  unfold Stored.Modifier.apply
  split
  · next h =>
    obtain rfl : value = "" := by simpa using h
    exact congrArg Except.ok (m.change.apply_empty m.all).symm
  · simp [toStored, apply, Json.holds]

namespace Expander

variable (x : Expander)

@[simp] theorem ofExcept_ok_bind {α β : Type} (a : α) (k : α → Run β) :
    (Run.ofExcept (.ok a) >>= k) = k a := Traced.bind_of_ok rfl k

theorem record_toStored (id : Identifier) (event : WideText → Event WideText)
    (hlevel : ∀ s, (event s).level = (event "").level) :
    Run.record x id.toStored event = Traced.record x.verbosity (event (toString id)) := by
  unfold Run.record
  split
  · rw [id.shown_toStored, Traced.traced_pure_bind]
  · next h => rw [Traced.record, hlevel, if_neg h]; rfl

theorem lookUp_toStored (id : Identifier) :
    Run.lookUp x id.toStored = (x.lookUp id).toStored fun value => value := by
  rw [Run.lookUp, id.resolve_toStored, ofExcept_ok_bind, x.record_toStored id _ fun _ => rfl, lookUp,
    Traced.toStored_bind (fun u => u) fun _ => rfl, Traced.toStored_record]
  rfl

theorem take_toStored (branch : Branch) (id : Identifier) :
    Run.record x id.toStored (.took branch ·) = (x.take branch id).toStored fun u => u := by
  rw [x.record_toStored id _ fun _ => rfl, take, Traced.toStored_record]
  rfl

/-- What follows a branch agrees if the payload does. -/
theorem take_bind_toStored {α β : Type} {f : α → β} (branch : Branch) (id : Identifier)
    {payload : Traced Identifier EvalError α} {stored : Run β} (h : payload.toStored f = stored) :
    (x.take branch id >>= fun _ => payload).toStored f =
      Run.record x id.toStored (.took branch ·) >>= fun _ => stored := by
  rw [take_toStored]
  exact Traced.toStored_bind _ fun _ => h

theorem lookUpUnless_toStored (emptyIsUnset : Bool) (id : Identifier) :
    Run.lookUpUnless x (.bool emptyIsUnset) id.toStored =
      (x.lookUpUnless emptyIsUnset id).toStored fun value => value := by
  rw [Run.lookUpUnless, lookUp_toStored, lookUpUnless]
  refine (Traced.toStored_bind _ fun value => ?_).symm
  rfl

theorem unset_toStored {α β : Type} (f : α → β) (id : Identifier) (orEmpty : Bool) (p : Position) :
    (throw ⟨.unset id orEmpty, p⟩ : Traced Identifier EvalError α).toStored f =
      Run.unset id.toStored orEmpty (some p.toStored) := by
  rw [Run.unset, id.shown_toStored, Traced.traced_pure_bind]
  cases orEmpty <;> rfl

theorem substitute_toStored (id : Identifier) (p : Position) (text : String) :
    Run.substitute x id.toStored (some p.toStored) text =
      (x.substitute id p text).toStored fun value => value := by
  unfold Run.substitute substitute
  split
  · exact (unset_toStored _ id false p).symm
  · rfl

theorem require_toStored (id : Identifier) (p : Position) :
    Run.require x id.toStored (some p.toStored) =
      (x.require id p).toStored fun value => value := by
  rw [Run.require, lookUp_toStored, require]
  refine (Traced.toStored_bind _ fun value => ?_).symm
  cases value with
  | none => exact (x.substitute_toStored id p "").symm
  | some value => rfl

/-! ## Whole templates -/

/-- The value of a stored node is the text of the node. -/
theorem evaluate_toStored (n : Node) :
    n.toStored.evaluate x = (x.evaluateNode n).toStored (Json.string <| .plain ·) := by
  induction n with
  | text value | arity p => rfl
  | simple id modifier p =>
    rw [Node.toStored, Stored.Node.evaluate, require_toStored, evaluateNode]
    refine (Traced.toStored_bind _ fun value => ?_).symm
    cases modifier with
    | none => rfl
    | some m => simp [Modifier.apply_toStored]
  | length id p =>
    rw [Node.toStored, Stored.Node.evaluate, lookUp_toStored, evaluateNode]
    refine (Traced.toStored_bind _ fun value => ?_).symm
    cases value with
    | none =>
      show _ = Run.substitute x id.toStored (some p.toStored) "0" >>= _
      rw [substitute_toStored]
      exact Traced.toStored_eq_bind _ _
    | some value => rfl
  | indirect id p =>
    rw [Node.toStored, Stored.Node.evaluate, require_toStored, evaluateNode]
    refine (Traced.toStored_bind _ fun name => ?_).symm
    show _ = Run.require x (Identifier.named name).toStored (some p.toStored) >>= _
    rw [require_toStored]
    exact Traced.toStored_eq_bind _ _
  -- The default is only evaluated when there is no value, and the alternative only when there is.
  | withDefault id default emptyIsUnset p ih =>
    rw [Node.toStored, Stored.Node.evaluate, lookUpUnless_toStored, evaluateNode]
    refine (Traced.toStored_bind _ fun value => ?_).symm
    cases value with
    | none => exact x.take_bind_toStored .default id ih.symm
    | some value => rfl
  | withAlternative id alternative emptyIsUnset p ih =>
    rw [Node.toStored, Stored.Node.evaluate, lookUpUnless_toStored, evaluateNode]
    refine (Traced.toStored_bind _ fun value => ?_).symm
    cases value with
    | none => rfl
    | some value => exact x.take_bind_toStored .alternative id ih.symm
  | withError id message emptyIsUnset p =>
    cases message with
    | none =>
      simp only [Node.toStored, Option.elim, Stored.Node.evaluate, lookUpUnless_toStored]
      refine (Traced.toStored_bind _ fun value => ?_).symm
      cases value with
      | none => exact x.take_bind_toStored .error id (unset_toStored _ id emptyIsUnset p)
      | some value => rfl
    | some message =>
      simp only [Node.toStored, Option.elim, Stored.Node.evaluate, lookUpUnless_toStored]
      refine (Traced.toStored_bind _ fun value => ?_).symm
      cases value with
      | none => exact x.take_bind_toStored .error id rfl
      | some value => rfl

/-- The values of the stored nodes, put together, are the text of the nodes. -/
theorem evaluateAll_toStored (ns : List Node) :
    (do Run.ofExcept (Stored.concatenate
        (← Stored.Node.evaluateAll x (ns.map Node.toStored)))) =
      (x.evaluateNodes ns).toStored WideText.plain := by
  induction ns with
  | nil => rfl
  | cons n ns ih =>
    rw [List.map_cons, Stored.Node.evaluateAll, evaluate_toStored, evaluateNodes,
      Traced.traced_bind_assoc]
    refine (Traced.toStored_bind _ fun text => ?_).symm
    -- The text of a node is put in front of the text of the other nodes.
    have hmore : (do return text ++ (← x.evaluateNodes ns)).toStored WideText.plain =
        ((x.evaluateNodes ns).toStored WideText.plain >>= fun more => pure (.plain text ++ more)) :=
      Traced.toStored_bind _ fun more => rfl
    rw [hmore, ← ih, Traced.traced_bind_assoc, Traced.traced_bind_assoc]
    congr 1
    funext values
    show Run.ofExcept _ >>= _ = Run.ofExcept _
    simp only [Stored.concatenate]
    cases Stored.concatenate values <;> rfl

/-- A stored template stands for the text of the template. -/
theorem evaluateStored_toStored (t : Template) :
    x.evaluateStored t.toStored = (x.evaluate t).toStored WideText.plain := by
  rw [Template.toStored, evaluateStored, evaluateAll_toStored, evaluate, List.length_map]
  rw [Traced.toStored_bind (fun u => u) fun _ => rfl, Traced.toStored_record]
  rfl

end Expander

end ParamExpansion
