import ParamExpansion.Proofs.StoredDocuments
import ParamExpansion.Proofs.TraceLevels

/-!
# Stored templates with suited values

A stored template may hold any values. If they are of the kinds that a template holds, then the
evaluation ends with a text or lacks a value, and nothing else happens, whatever the variables are.
The kinds are a property of the values alone. They are asked for where an evaluation may use a value,
so the message of a parameter and the flags may be any.
-/

namespace ParamExpansion.Stored

/-! ## Values of the right kinds -/

/-- Whether an identifier names a variable by a text or a positional value by a number. The text may
be one that no variable has as its name. -/
def Identifier.Suited : Identifier → Prop
  | .named name => ∃ text, name = .string text
  | .index i => ∃ n : Nat, i = .int n

/-- Whether there is a change of case of this name. -/
def Modifier.Suited (m : Modifier) : Prop := ∃ change : CaseChange, m.change = .string change.name

/-- Whether lines can be counted on from a value and reported. -/
def CountsOn (lines : Nat) : Json → Prop
  | .int n => Json.Short (n + lines).natAbs
  | .bool _ | .float _ => True
  | _ => False

/-- The place of an error, the beginning of a line if there is none. -/
def Place.orStart (place : Option Place) : Place := place.getD Position.start.toStored

/-- Whether an error at a place can be reported when so many lines come before. -/
def Place.Suited (lines : Nat) (place : Option Place) : Prop := CountsOn lines (orStart place).line

namespace Node

/-- Whether the values in a node are of the kinds that a node of a template holds, when so many lines
come before. -/
def Suited (lines : Nat) : Node → Prop
  | .sequence _ => False
  | .text value => ∃ text : String, value = .string text
  | .simple id modifier place =>
    id.Suited ∧ (∀ m ∈ modifier, m.Suited) ∧ Place.Suited lines place
  | .length id place | .indirect id place | .withError id _ _ place =>
    id.Suited ∧ Place.Suited lines place
  | .arity _ => True
  | .withDefault id payload _ _ | .withAlternative id payload _ _ =>
    id.Suited ∧ payload.Suited lines

/-- Whether a whole stored template holds values of the right kinds. -/
def AllSuited (lines : Nat) : Node → Prop
  | .sequence nodes => ∀ n ∈ nodes, n.Suited lines
  | _ => False

end Node

theorem Identifier.Suited.isShown {id : Identifier} (h : id.Suited) : id.IsShown := by
  cases id with
  | named name =>
    obtain ⟨text, rfl⟩ := h
    exact rfl
  | index i =>
    obtain ⟨n, rfl⟩ := h
    exact rfl

theorem Identifier.Suited.exists_resolve {id : Identifier} (h : id.Suited) (v : Variables) :
    ∃ value, id.resolve v = .ok value := by
  cases id with
  | named name =>
    obtain ⟨text, rfl⟩ := h
    cases text <;> exact ⟨_, rfl⟩
  | index i =>
    obtain ⟨n, rfl⟩ := h
    exact ⟨_, valueAt_natCast v n⟩

theorem Modifier.Suited.exists_apply {m : Modifier} (h : m.Suited) (value : String) :
    ∃ changed, m.apply value = .ok changed := by
  obtain ⟨change, hchange⟩ := h
  unfold apply
  split
  · exact ⟨value, rfl⟩
  · rw [hchange]
    simp

/-! ## Where evaluations end -/

namespace Run

variable {α β : Type} {lines : Nat} {P : α → Prop} {R : β → Prop}

/-- Whether an evaluation ends with a value of some kind, or lacks a value at a place that can be
reported. -/
def Lands (lines : Nat) (P : α → Prop) (m : Run α) : Prop :=
  match m.outcome with
  | .ok a => P a
  | .error e => ∃ message place, e = .lacking message place ∧ Place.Suited lines place

namespace Lands

theorem of_ok {m : Run α} {a : α} (h : m.outcome = .ok a) (ha : P a) : Lands lines P m := by
  rw [Lands, h]
  exact ha

theorem lacking {place : Option Place} (h : Place.Suited lines place) (message : Json) :
    Lands lines P (throw (.lacking message place) : Run α) := ⟨message, place, rfl, h⟩

/-- Steps land if the first one does and the others do from where it lands. -/
theorem bind {m : Run α} {f : α → Run β} (hm : Lands lines P m)
    (hf : ∀ a, P a → Lands lines R (f a)) : Lands lines R (m >>= f) := by
  unfold Lands at hm ⊢
  rw [Traced.outcome_bind]
  cases hout : m.outcome with
  | error e =>
    rw [hout] at hm
    exact hm
  | ok a =>
    rw [hout] at hm
    exact hf a hm

end Lands

variable (x : Expander) {id : Identifier} {place : Option Place}

/-- Whether a value is a text that can be written. -/
def IsText (value : Json) : Prop := ∃ text : String, value = .string text

theorem lands_text (text : String) : Lands lines IsText (pure (.string text) : Run Json) :=
  .of_ok rfl ⟨text, rfl⟩

theorem lands_record (hid : id.IsShown) {event : WideText → Event WideText}
    (hlevel : ∀ s, (event s).level = (event "").level) :
    Lands lines (fun _ => True) (record x id event) := by
  obtain ⟨text, htext⟩ := Option.isSome_iff_exists.1 hid
  rw [record_of_shown x htext hlevel]
  exact .of_ok rfl trivial

theorem lands_lookUp (hid : id.Suited) : Lands lines (fun _ => True) (lookUp x id) := by
  obtain ⟨value, hvalue⟩ := hid.exists_resolve x.values
  have hresolve : Lands lines (fun _ => True) (ofExcept (id.resolve x.values)) :=
    .of_ok hvalue trivial
  refine hresolve.bind fun value _ => ?_
  exact (lands_record x hid.isShown fun _ => rfl).bind fun _ _ => .of_ok rfl trivial

theorem lands_lookUpUnless (hid : id.Suited) (emptyIsUnset : Json) :
    Lands lines (fun _ => True) (lookUpUnless x emptyIsUnset id) :=
  (lands_lookUp x hid).bind fun _ _ => .of_ok rfl trivial

theorem lands_unset (hid : id.IsShown) (orEmpty : Bool) (hplace : Place.Suited lines place) :
    Lands lines P (unset id orEmpty place) := by
  obtain ⟨text, htext⟩ := Option.isSome_iff_exists.1 hid
  unfold unset shown
  rw [htext]
  exact .lacking hplace _

theorem lands_substitute (hid : id.IsShown) (hplace : Place.Suited lines place) (text : String) :
    Lands lines (fun _ => True) (substitute x id place text) := by
  unfold substitute
  split
  · exact lands_unset hid false hplace
  · exact .of_ok rfl trivial

theorem lands_require (hid : id.Suited) (hplace : Place.Suited lines place) :
    Lands lines (fun _ => True) (require x id place) := by
  refine (lands_lookUp x hid).bind fun value _ => ?_
  cases value with
  | none => exact lands_substitute x hid.isShown hplace ""
  | some value => exact .of_ok rfl trivial

end Run

/-! ## Nodes -/

open Run

/-- What is evaluated from suited values is a text. -/
theorem Node.lands_evaluate (x : Expander) {lines : Nat} :
    ∀ n : Node, n.Suited lines → Lands lines IsText (n.evaluate x)
  | .sequence _, h => h.elim
  | .text _, h => .of_ok rfl h
  | .arity _, _ => lands_text _
  | .simple id modifier place, ⟨hid, hmodifier, hplace⟩ => by
    refine (lands_require x hid hplace).bind fun value _ => ?_
    cases modifier with
    | none => exact lands_text value
    | some m =>
      -- There is a change of this name, and it can be made to every text.
      obtain ⟨changed, hchanged⟩ := (hmodifier m rfl).exists_apply value
      have happly : Lands lines (fun _ => True) (Run.ofExcept (m.apply value)) :=
        .of_ok hchanged trivial
      exact happly.bind fun changed _ => lands_text changed
  | .length id place, ⟨hid, hplace⟩ => by
    refine (lands_lookUp x hid).bind fun value _ => ?_
    cases value with
    | none =>
      exact (lands_substitute x hid.isShown hplace "0").bind fun text _ => lands_text text
    | some value => exact lands_text _
  | .indirect id place, ⟨hid, hplace⟩ => by
    refine (lands_require x hid hplace).bind fun name _ => ?_
    -- The name that has been found is a text.
    have hname : (Identifier.named (.string name)).Suited := ⟨name, rfl⟩
    exact (lands_require x hname hplace).bind fun text _ => lands_text text
  | .withDefault id payload emptyIsUnset _, ⟨hid, hpayload⟩ => by
    refine (lands_lookUpUnless x hid emptyIsUnset).bind fun value _ => ?_
    cases value with
    | none =>
      exact (lands_record x hid.isShown fun _ => rfl).bind fun _ _ =>
        lands_evaluate x payload hpayload
    | some value => exact lands_text value
  | .withAlternative id payload emptyIsUnset _, ⟨hid, hpayload⟩ => by
    refine (lands_lookUpUnless x hid emptyIsUnset).bind fun value _ => ?_
    cases value with
    | none => exact lands_text ""
    | some value =>
      exact (lands_record x hid.isShown fun _ => rfl).bind fun _ _ =>
        lands_evaluate x payload hpayload
  | .withError id message emptyIsUnset place, ⟨hid, hplace⟩ => by
    refine (lands_lookUpUnless x hid emptyIsUnset).bind fun value _ => ?_
    cases value with
    | none =>
      refine (lands_record x hid.isShown fun _ => rfl).bind fun _ _ => ?_
      -- A message is reported as it is, so it may be any value.
      cases message with
      | null => exact lands_unset hid.isShown _ hplace
      | _ => exact .lacking hplace _
    | some value => exact lands_text value

theorem Node.lands_evaluateAll (x : Expander) {lines : Nat} {ns : List Node}
    (h : ∀ n ∈ ns, n.Suited lines) :
    Lands lines (fun values => ∀ value ∈ values, IsText value) (Node.evaluateAll x ns) := by
  induction ns with
  | nil => exact .of_ok rfl (List.forall_mem_nil _)
  | cons n ns ih =>
    obtain ⟨hn, hns⟩ := List.forall_mem_cons.1 h
    refine (n.lands_evaluate x hn).bind fun value hvalue => ?_
    refine (ih hns).bind fun values hvalues => ?_
    exact .of_ok rfl (List.forall_mem_cons.2 ⟨hvalue, hvalues⟩)

/-- Texts can be put together. -/
theorem exists_concatenate {values : List Json} (h : ∀ value ∈ values, IsText value) :
    ∃ text : String, concatenate values = .ok text := by
  induction values with
  | nil => exact ⟨"", rfl⟩
  | cons value values ih =>
    obtain ⟨⟨text, rfl⟩, hvalues⟩ := List.forall_mem_cons.1 h
    obtain ⟨more, hmore⟩ := ih hvalues
    exact ⟨text ++ more, by rw [concatenate, hmore]; rfl⟩

/-- A stored template with suited values is evaluated to a text that can be written, or lacks a
value. -/
theorem lands_evaluateStored (x : Expander) {lines : Nat} {n : Node} (h : n.AllSuited lines) :
    Lands lines (·.isPlain = true) (x.evaluateStored n) := by
  cases n with
  | sequence nodes =>
    have hstart : Lands lines (fun _ => True)
      (Traced.record x.verbosity (.started nodes.length) : Run Unit) := .of_ok rfl trivial
    -- If no node lacks a value then each has come to a text.
    refine hstart.bind fun _ _ => (Node.lands_evaluateAll x h).bind fun values hvalues => ?_
    obtain ⟨text, htext⟩ := exists_concatenate hvalues
    exact .of_ok htext (WideText.isPlain_plain text)
  | _ => exact h.elim

end ParamExpansion.Stored
