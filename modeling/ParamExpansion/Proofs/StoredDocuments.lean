import ParamExpansion.Proofs.Evaluation
import ParamExpansion.Proofs.JsonDocuments
import ParamExpansion.Proofs.RoundTrip
import ParamExpansion.Proofs.Tiling
import ParamExpansion.Stored
import ParamExpansion.Stored.Decode

/-!
# Stored templates are read back

The document of a stored template is read back as the same stored template, with every part and every
position in it, provided that no default and no alternative is a sequence. Those of a template never
are.
-/

namespace ParamExpansion.Stored

/-! ## Parts -/

theorem Place.ofJson_toJson (place : Option Place) :
    Place.ofJson (place.elim .null (·.toJson)) = .ok place := by
  cases place <;> rfl

theorem Modifier.ofJson_toJson (m : Option Modifier) :
    Modifier.ofJson (m.elim .null (·.toJson)) = .ok m := by
  cases m <;> rfl

theorem Identifier.ofJson_toJson (id : Identifier) : Identifier.ofJson id.toJson = .ok id := by
  cases id <;> rfl

namespace Node

theorem shapeOf_object (shape : Shape) (parts : List (WideText × Json)) :
    shapeOf (("type", .string shape.name) :: parts) = .ok shape := by
  cases shape <;> rfl

/-- Whether a node is a single one. -/
def IsSingle : Node → Prop
  | .sequence _ => False
  | _ => True

theorem IsSingle.single_eq {n : Node} (h : n.IsSingle) : single n = .ok n := by
  cases n <;> first | rfl | cases h

mutual

/-- Whether all defaults and alternatives are single nodes. -/
def Readable : Node → Prop
  | .sequence nodes => AllReadable nodes
  | .withDefault _ default _ _ => default.IsSingle ∧ default.Readable
  | .withAlternative _ alternative _ _ => alternative.IsSingle ∧ alternative.Readable
  | _ => True

/-- Whether all defaults and alternatives in some nodes are single nodes. -/
def AllReadable : List Node → Prop
  | [] => True
  | node :: nodes => node.Readable ∧ AllReadable nodes

end

variable {members : List (WideText × Json)} {id : Identifier}

/-- The place of a node is read from the part of this name. -/
theorem placeOf (place : Option Place) (h : optional members "position" = (placePart place).2) :
    Place.ofJson (optional members "position") = .ok place := by
  rw [h]
  exact Place.ofJson_toJson place

/-- The identifier of a node is read from the part of this name. -/
theorem identifierOf_eq (h : required members "identifier" = .ok id.toJson) :
    identifierOf members = .ok id := by
  rw [identifierOf, h]
  exact id.ofJson_toJson

mutual

/-- The document of a node is read back as the node. -/
theorem ofJson_toJson : ∀ n : Node, n.Readable → ofJson n.toJson = .ok n
  -- Each case computes the members of the object. The induction is for the payloads and the nodes.
  | .sequence nodes, h => by
    have hnodes := ofJsons_toJsons nodes h
    rw [toJson, object, ofJson, shapeOf_object, placeOf none rfl]
    simp only [ok_bind]
    split
    · next hnone => cases hnone
    · next items hitems =>
      cases hitems
      rw [hnodes]
      rfl
    · next found hne hfound =>
      cases hfound
      exact absurd rfl (hne _)
  | .text value, _ => by
    rw [toJson, object, ofJson, shapeOf_object]
    rfl
  | .simple id modifier place, _ => by
    rw [toJson, object, ofJson, shapeOf_object, placeOf place rfl]
    simp only [ok_bind]
    rw [identifierOf_eq rfl]
    show (Modifier.ofJson (modifier.elim .null (·.toJson)) >>= _) = _
    rw [Modifier.ofJson_toJson]
    rfl
  | .length id place, _ => by
    rw [toJson, object, ofJson, shapeOf_object, placeOf place rfl]
    simp only [ok_bind]
    rw [identifierOf_eq rfl]
    rfl
  | .arity place, _ => by
    rw [toJson, object, ofJson, shapeOf_object, placeOf place rfl]
    rfl
  | .indirect id place, _ => by
    rw [toJson, object, ofJson, shapeOf_object, placeOf place rfl]
    simp only [ok_bind]
    rw [identifierOf_eq rfl]
    rfl
  | .withDefault id default emptyIsUnset place, h => by
    have hdefault := ofJson_toJson default h.2
    rw [toJson, object, ofJson, shapeOf_object, placeOf place rfl]
    simp only [ok_bind]
    rw [identifierOf_eq rfl]
    simp only [ok_bind]
    split
    · next hnone => cases hnone
    · next value hvalue =>
      cases hvalue
      rw [hdefault]
      simp only [ok_bind]
      rw [h.1.single_eq]
      rfl
  | .withAlternative id alternative emptyIsUnset place, h => by
    have halternative := ofJson_toJson alternative h.2
    rw [toJson, object, ofJson, shapeOf_object, placeOf place rfl]
    simp only [ok_bind]
    rw [identifierOf_eq rfl]
    simp only [ok_bind]
    split
    · next hnone => cases hnone
    · next value hvalue =>
      cases hvalue
      rw [halternative]
      simp only [ok_bind]
      rw [h.1.single_eq]
      rfl
  | .withError id message emptyIsUnset place, _ => by
    rw [toJson, object, ofJson, shapeOf_object, placeOf place rfl]
    simp only [ok_bind]
    rw [identifierOf_eq rfl]
    rfl

/-- The documents of some nodes are read back as the nodes. -/
theorem ofJsons_toJsons : ∀ ns : List Node, AllReadable ns → ofJsons (toJsons ns) = .ok ns
  | [], _ => by
    rw [toJsons, ofJsons]
    rfl
  | n :: ns, h => by
    rw [toJsons, ofJsons, ofJson_toJson n h.1, ofJsons_toJsons ns h.2]
    rfl

end

end Node

end ParamExpansion.Stored

namespace ParamExpansion

open Json (Plain)

/-! ## Documents of templates -/

namespace Node

/-- A node is stored as a single one, and so are its defaults and alternatives. -/
theorem readable_toStored (n : Node) : n.toStored.IsSingle ∧ n.toStored.Readable := by
  induction n with
  | withDefault id default emptyIsUnset p ih | withAlternative id default emptyIsUnset p ih =>
    exact ⟨trivial, ih⟩
  | _ => exact ⟨trivial, trivial⟩

theorem allReadable_map_toStored (ns : List Node) :
    Stored.Node.AllReadable (ns.map Node.toStored) := by
  induction ns with
  | nil => trivial
  | cons n ns ih => exact ⟨n.readable_toStored.2, ih⟩

end Node

/-- The document of a template is read back as the stored template. -/
theorem Template.ofJson_toStored (t : Template) :
    Stored.Node.ofJson t.toStored.toJson = .ok t.toStored :=
  Stored.Node.ofJson_toJson _ (Node.allReadable_map_toStored t.nodes)

/-! ## Numbers that can be read -/

/-- Whether the digits of a number can be read. -/
def Json.Short (n : Nat) : Prop := (Nat.toDigits 10 n).length ≤ ReadM.maxDigits

/-- A smaller number has no more digits. -/
theorem Json.Short.of_le {m n : Nat} (h : Short n) (hmn : m ≤ n) : Short m := by
  have hlt := (Nat.length_toDigits_le_iff (by decide) (by decide)).1 h
  exact (Nat.length_toDigits_le_iff (by decide) (by decide)).2 (Nat.lt_of_le_of_lt hmn hlt)

theorem Json.plain_natCast {n : Nat} (h : Short n) : Plain (.int n) := .int _ h

/-- Whether the digits of a position can be read. -/
structure Position.Short (p : Position) : Prop where
  index : Json.Short p.index
  line : Json.Short p.line
  col : Json.Short p.col

theorem Position.Short.plain {p : Position} (h : p.Short) : Plain p.toStored.toJson := by
  refine .object _ (by simp) ?_
  simpa [Position.toStored] using
    ⟨Json.plain_natCast h.index, Json.plain_natCast h.line, Json.plain_natCast h.col⟩

/-- A position in a text is short enough unless the text is too long. -/
theorem Position.LiesIn.short {p : Position} {text : String} (h : p.LiesIn text)
    (hlt : p.index < text.length) (htext : Json.Short text.length) : p.Short := by
  obtain ⟨hline, hcol⟩ := h.le_length hlt
  exact ⟨htext.of_le (Nat.le_of_lt hlt), htext.of_le hline, htext.of_le hcol⟩

/-- The largest index has few digits. -/
theorem Index.short_of_le_max {n : Nat} (h : n ≤ Index.max) : Json.Short n := by
  have hlt : n < 10 ^ 20 := Nat.lt_of_le_of_lt h (by decide)
  have hdigits := (Nat.length_toDigits_le_iff (by decide) (by decide)).2 hlt
  exact Nat.le_trans hdigits (by decide)

theorem Identifier.WellFormed.plain {id : Identifier} (h : id.WellFormed) :
    Plain id.toStored.toJson := by
  cases id with
  | named name =>
    exact .object _ (by simp) (by simp)
  | index n =>
    refine .object _ (by simp) ?_
    simpa using Json.plain_natCast (Index.short_of_le_max h)

theorem Modifier.plain (m : Modifier) : Plain m.toStored.toJson := by
  refine .object _ (by simp) ?_
  simpa [Modifier.toStored] using Plain.bool m.all

/-- A node is short enough if its parts are, whose names differ. -/
theorem Stored.Node.plain_object {shape : Shape} {parts : List (WideText × Json)}
    (hkeys : (.plain "type" :: parts.map Prod.fst).Nodup ∧
      ∀ key ∈ (.plain "type" :: parts.map Prod.fst : List WideText), Json.KeepsApart key)
    (h : ∀ m ∈ parts, Plain m.2) : Plain (object shape parts) :=
  .object _ hkeys (List.forall_mem_cons.2 ⟨Json.plain_string _, h⟩)

theorem Node.plain_text (value : String) : Plain (Node.text value).toStored.toJson := by
  exact Stored.Node.plain_object (by simp) (by simp)

/-- The document of a well-formed node is read back when its positions are. -/
theorem Node.WellFormed.plain {n : Node} (h : n.WellFormed) (hp : ∀ p ∈ n.positions, p.Short) :
    Plain n.toStored.toJson := by
  -- An object is plain if all its parts are, and those without a value are null.
  induction n with
  | text value => exact plain_text value
  | simple id modifier p =>
    refine Stored.Node.plain_object (by simp [Stored.Node.placePart]) ?_
    have hmodifier : Plain ((modifier.map (·.toStored)).elim .null (·.toJson)) := by
      cases modifier with
      | none => exact .null
      | some m => exact m.plain
    simp only [Stored.Node.placePart, List.forall_mem_cons, List.not_mem_nil, false_implies,
      implies_true, and_true]
    exact ⟨Identifier.WellFormed.plain h, hmodifier, (hp p List.mem_cons_self).plain⟩
  | length id p | indirect id p =>
    refine Stored.Node.plain_object (by simp [Stored.Node.placePart]) ?_
    simpa [Stored.Node.placePart] using
      ⟨Identifier.WellFormed.plain h, (hp p List.mem_cons_self).plain⟩
  | arity p =>
    refine Stored.Node.plain_object (by simp [Stored.Node.placePart]) ?_
    simpa [Stored.Node.placePart] using (hp p List.mem_cons_self).plain
  | withDefault id payload emptyIsUnset p ih | withAlternative id payload emptyIsUnset p ih =>
    have hpayload := ih h.2 fun q hq => hp q (List.mem_cons_of_mem _ hq)
    refine Stored.Node.plain_object (by simp [Stored.Node.placePart]) ?_
    simpa [Stored.Node.placePart] using
      ⟨h.1.plain, hpayload, Plain.bool emptyIsUnset, (hp p List.mem_cons_self).plain⟩
  | withError id message emptyIsUnset p =>
    refine Stored.Node.plain_object (by simp [Stored.Node.placePart]) ?_
    have hmessage : Plain (message.elim .null (.string ·)) := by
      cases message with
      | none => exact .null
      | some message => exact Json.plain_string message
    simpa [Stored.Node.placePart] using
      ⟨h.1.plain, hmessage, Plain.bool emptyIsUnset, (hp p List.mem_cons_self).plain⟩

theorem Node.wellFormed_or_text {ns : List Node} (h : AllWellFormed ns) :
    ∀ n ∈ ns, n.WellFormed ∨ ∃ value, n = .text value := by
  induction ns with
  | nil => simp
  | cons n ns ih =>
    cases n with
    | text value => exact List.forall_mem_cons.2 ⟨.inr ⟨value, rfl⟩, ih h.2.2⟩
    | _ => exact List.forall_mem_cons.2 ⟨.inl h.1, ih h.2⟩

theorem Stored.Node.toJsons_eq_map (ns : List Stored.Node) : toJsons ns = ns.map toJson := by
  induction ns with
  | nil => rfl
  | cons n ns ih => rw [toJsons, ih, List.map_cons]

namespace Template

/-- The document of the template of a text is read back unless the text is too long. -/
theorem plain_toStored {text : String} {t : Template} (h : ofString text = .ok t)
    (htext : Json.Short text.length) : Plain t.toStored.toJson := by
  -- A text is plain, and any other node is well formed and lies in the text.
  have hnode : ∀ n ∈ t.nodes, Plain n.toStored.toJson := by
    intro n hn
    have hshort : ∀ p ∈ n.positions, p.Short := fun p hp => by
      obtain ⟨hlies, hlt⟩ := liesIn_of_mem_positions h (List.mem_flatMap.2 ⟨n, hn, hp⟩)
      exact hlies.short hlt htext
    rcases Node.wellFormed_or_text (wellFormed_of_ofString h).1 n hn with hw | ⟨value, rfl⟩
    · exact hw.plain hshort
    · exact Node.plain_text value
  have hnodes : Plain (.array (Stored.Node.toJsons (t.nodes.map (·.toStored)))) := by
    rw [Stored.Node.toJsons_eq_map]
    refine .array _ fun item hitem => ?_
    obtain ⟨n, hn, rfl⟩ := by simpa using hitem
    exact hnode n hn
  refine Stored.Node.plain_object (by simp) ?_
  simpa using hnodes

end Template

end ParamExpansion
