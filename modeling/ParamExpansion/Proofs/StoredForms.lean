import ParamExpansion.Proofs.StoredDocuments

/-!
# The full form of a stored template

A document may leave out the parts of a node that have a default, and may hold members that are no
parts of it. In its full form every node has all its parts, in a fixed order, and nothing else. What
is read from a document is written in the full form of the document, and it is read back unchanged.
So documents of the same full form are read alike.
-/

namespace ParamExpansion

namespace Stored

/-! ## Full forms -/

/-- The members of an object with these names, in this order. Each name comes with what stands for
the member if it is left out. -/
def pick (members : List (WideText × Json)) (parts : List (String × Json)) : Json :=
  .object (parts.map fun part => (part.1, (Json.member? members part.1).getD part.2))

/-- The full form of a position. -/
def Place.inFull : Json → Json
  | .object members => pick members [("index", .null), ("line", .null), ("col", .null)]
  | value => value

/-- The full form of a change of case. -/
def Modifier.inFull : Json → Json
  | .object members => pick members [("kind", .null), ("all", .bool false)]
  | value => value

/-- The full form of an identifier. -/
def Identifier.inFull : Json → Json
  | .object members =>
    match optional members "type" with
    | .string (.plain "Named") => pick members [("type", .null), ("name", .null)]
    | _ => pick members [("type", .null), ("index", .null)]
  | value => value

/-- What a part of a node is. -/
inductive Part where
  /-- Any value, and what stands for it if it is left out. -/
  | value (default : Json)
  | identifier | modifier | place
  /-- A default or an alternative. -/
  | payload
  /-- The nodes of a sequence. -/
  | nodes

namespace Node

/-- The parts of a node of some shape, in the order in which they are written. -/
def Shape.parts : Shape → List (String × Part)
  | .sequence => [("nodes", .nodes)]
  | .text => [("value", .value .null)]
  | .simple => [("identifier", .identifier), ("modifier", .modifier), ("position", .place)]
  | .length | .indirect => [("identifier", .identifier), ("position", .place)]
  | .arity => [("position", .place)]
  | .withDefault =>
    [("identifier", .identifier), ("default", .payload),
     ("treat_empty_as_unset", .value (.bool false)), ("position", .place)]
  | .withAlternative =>
    [("identifier", .identifier), ("alt", .payload),
     ("treat_empty_as_unset", .value (.bool false)), ("position", .place)]
  | .withError =>
    [("identifier", .identifier), ("error", .value .null),
     ("treat_empty_as_unset", .value (.bool false)), ("position", .place)]

mutual

/-- The full form of a node. -/
def inFull : Json → Json
  | .object members =>
    match shapeOf members with
    | .ok shape =>
      object shape (shape.parts.map fun part => (part.1, partInFull members part.1 part.2))
    | .error _ => .object members
  | value => value
termination_by value => (sizeOf value, 0)
decreasing_by
  simp only [Json.object.sizeOf_spec]
  exact Prod.Lex.left _ _ (by omega)

/-- The full form of a part of a node, whether it is left out or not. -/
def partInFull (members : List (WideText × Json)) (key : String) : Part → Json
  | .value default => (Json.member? members key).getD default
  | .identifier => Identifier.inFull (optional members key)
  | .modifier => Modifier.inFull (optional members key)
  | .place => Place.inFull (optional members key)
  | .payload =>
    match _h : Json.member? members key with
    | some value => inFull value
    | none => .null
  | .nodes =>
    match _h : Json.member? members key with
    | some (.array items) => .array (allInFull items)
    | _ => .array []
termination_by (sizeOf members, 1)
decreasing_by
  · exact Prod.Lex.left _ _ (sizeOf_lt_of_member? _h)
  · have := sizeOf_lt_of_member? _h
    rw [Json.array.sizeOf_spec] at this
    exact Prod.Lex.left _ _ (by omega)

/-- The full forms of some nodes. -/
def allInFull : List Json → List Json
  | [] => []
  | item :: items => inFull item :: allInFull items
termination_by items => (sizeOf items, 0)

end

end Node

/-! ## Parts -/

theorem required_eq_ok_iff {members : List (WideText × Json)} {key : String} {value : Json} :
    required members key = .ok value ↔ Json.member? members key = some value := by
  unfold required
  cases Json.member? members key <;> simp

/-- A position is written in full. -/
theorem Place.inFull_of_ofJson {value : Json} {place : Option Place}
    (h : Place.ofJson value = .ok place) : Place.inFull value = place.elim .null (·.toJson) := by
  obtain ⟨members?, hparts, h⟩ := exists_of_bind_eq_ok h
  cases value with
  | null => cases hparts; cases h; rfl
  | object members =>
    cases hparts
    obtain ⟨index, hindex, h⟩ := exists_of_bind_eq_ok h
    obtain ⟨line, hline, h⟩ := exists_of_bind_eq_ok h
    obtain ⟨col, hcol, h⟩ := exists_of_bind_eq_ok h
    cases h
    rw [required_eq_ok_iff] at hindex hline hcol
    simp [inFull, pick, hindex, hline, hcol, toJson]
  | _ => cases hparts

/-- A change of case is written in full. -/
theorem Modifier.inFull_of_ofJson {value : Json} {m : Option Modifier}
    (h : Modifier.ofJson value = .ok m) : Modifier.inFull value = m.elim .null (·.toJson) := by
  obtain ⟨members?, hparts, h⟩ := exists_of_bind_eq_ok h
  cases value with
  | null => cases hparts; cases h; rfl
  | object members =>
    cases hparts
    obtain ⟨kind, hkind, h⟩ := exists_of_bind_eq_ok h
    cases h
    rw [required_eq_ok_iff] at hkind
    simp [inFull, pick, hkind, flag, toJson]
  | _ => cases hparts

/-- An identifier is written in full. -/
theorem Identifier.inFull_of_ofJson {value : Json} {id : Identifier}
    (h : Identifier.ofJson value = .ok id) : Identifier.inFull value = id.toJson := by
  cases value with
  | object members =>
    -- The kind that the document names is the one that is written.
    have htype : (Json.member? members "type").getD .null = optional members "type" := rfl
    rw [Identifier.ofJson] at h
    split at h
    · next hnamed =>
      obtain ⟨name, hname, h⟩ := exists_of_bind_eq_ok h
      cases h
      rw [required_eq_ok_iff] at hname
      simp [inFull, pick, htype, hnamed, hname, toJson]
    · next hindexed =>
      obtain ⟨index, hindex, h⟩ := exists_of_bind_eq_ok h
      cases h
      rw [required_eq_ok_iff] at hindex
      simp [inFull, pick, htype, hindexed, hindex, toJson]
    · cases h
  | _ => cases h

theorem single_eq_ok_iff {n m : Node} : single n = .ok m ↔ n.IsSingle ∧ m = n := by
  cases n <;> simp [single, Node.IsSingle, eq_comm]

theorem eq_of_sequenceOf {found : Json} {n : Node} (h : sequenceOf found = .ok n) :
    n = .sequence [] := by
  unfold sequenceOf at h
  split at h <;> cases h <;> rfl

namespace Node

variable {members : List (WideText × Json)} {key : String}

theorem partInFull_identifier {id : Identifier} (h : identifierOf members = .ok id) :
    partInFull members "identifier" .identifier = id.toJson := by
  obtain ⟨value, hvalue, h⟩ := exists_of_bind_eq_ok h
  rw [required_eq_ok_iff] at hvalue
  rw [partInFull, optional, hvalue]
  exact Identifier.inFull_of_ofJson h

theorem partInFull_modifier {m : Option Modifier}
    (h : Modifier.ofJson (optional members "modifier") = .ok m) :
    partInFull members "modifier" .modifier = m.elim .null (·.toJson) := by
  rw [partInFull]
  exact Modifier.inFull_of_ofJson h

theorem partInFull_place {place : Option Place}
    (h : Place.ofJson (optional members "position") = .ok place) :
    partInFull members "position" .place = place.elim .null (·.toJson) := by
  rw [partInFull]
  exact Place.inFull_of_ofJson h

theorem partInFull_payload {value : Json} (h : Json.member? members key = some value) :
    partInFull members key .payload = inFull value := by
  rw [partInFull]
  split
  · next found hfound =>
    obtain rfl : found = value := Option.some.inj (hfound.symm.trans h)
    rfl
  · next hnone => cases hnone.symm.trans h

theorem partInFull_nodes {items : List Json} (h : Json.member? members key = some (.array items)) :
    partInFull members key .nodes = .array (allInFull items) := by
  rw [partInFull]
  split
  · next found hfound =>
    obtain rfl : found = items := by simpa [h] using hfound.symm
    rfl
  · next hnone => exact absurd h (hnone items)

/-- Nodes that are left out, or that are no array, are none. -/
theorem partInFull_noNodes (h : ∀ items, Json.member? members key ≠ some (.array items)) :
    partInFull members key .nodes = .array [] := by
  rw [partInFull]
  split
  · next items hitems => exact absurd hitems (h items)
  · rfl

theorem inFull_object {shape : Shape} (h : shapeOf members = .ok shape) :
    inFull (.object members) =
      object shape (shape.parts.map fun part => (part.1, partInFull members part.1 part.2)) := by
  rw [inFull, h]

/-- Without an array of nodes there are none. -/
theorem toJson_of_noNodes (hshape : shapeOf members = .ok .sequence)
    (hnone : ∀ items, Json.member? members "nodes" ≠ some (.array items)) :
    (Node.sequence []).toJson = inFull (.object members) := by
  rw [inFull_object hshape]
  simp only [toJson, toJsons, Shape.parts, List.map_cons, List.map_nil, partInFull_noNodes hnone]

theorem toJson_of_nodes (hshape : shapeOf members = .ok .sequence) {items : List Json}
    (hitems : Json.member? members "nodes" = some (.array items)) {ns : List Node}
    (hns : toJsons ns = allInFull items) :
    (Node.sequence ns).toJson = inFull (.object members) := by
  rw [inFull_object hshape]
  simp only [toJson, Shape.parts, List.map_cons, List.map_nil, partInFull_nodes hitems, hns]

/-! ## Nodes -/

mutual

/-- What is read from a document is written in full, and its payloads are single nodes. -/
theorem toJson_of_ofJson : ∀ (document : Json) (n : Node), ofJson document = .ok n →
    n.toJson = inFull document ∧ n.Readable
  | .object members, n, h => by
    rw [ofJson] at h
    obtain ⟨place, hplace, h⟩ := exists_of_bind_eq_ok h
    obtain ⟨shape, hshape, h⟩ := exists_of_bind_eq_ok h
    have hplace := partInFull_place hplace
    cases shape with
    | sequence =>
      dsimp only at h
      -- The nodes may be left out, be an array, or be another value that stands for none.
      split at h
      · next hnone =>
        cases h
        exact ⟨toJson_of_noNodes hshape (by simp [hnone]), trivial⟩
      · next items hitems =>
        obtain ⟨ns, hns, h⟩ := exists_of_bind_eq_ok h
        cases h
        have hsize : sizeOf items < sizeOf members := by
          have := sizeOf_lt_of_member? hitems
          rw [Json.array.sizeOf_spec] at this
          omega
        obtain ⟨hjsons, hreadable⟩ := toJsons_of_ofJsons items ns hns
        exact ⟨toJson_of_nodes hshape hitems hjsons, hreadable⟩
      · next found hne hfound =>
        obtain rfl := eq_of_sequenceOf h
        refine ⟨toJson_of_noNodes hshape fun items hitems => ?_, trivial⟩
        exact hne items (Option.some.inj (hfound.symm.trans hitems))
    | text =>
      rw [inFull_object hshape]
      obtain ⟨value, hvalue, h⟩ := exists_of_bind_eq_ok h
      cases h
      rw [required_eq_ok_iff] at hvalue
      simp only [toJson, Shape.parts, List.map_cons, List.map_nil, partInFull, hvalue,
        Option.getD_some]
      exact ⟨trivial, trivial⟩
    | simple =>
      rw [inFull_object hshape]
      obtain ⟨id, hid, h⟩ := exists_of_bind_eq_ok h
      obtain ⟨m, hm, h⟩ := exists_of_bind_eq_ok h
      cases h
      simp only [toJson, Shape.parts, List.map_cons, List.map_nil, partInFull_identifier hid,
        partInFull_modifier hm, hplace]
      exact ⟨rfl, trivial⟩
    | length | indirect =>
      rw [inFull_object hshape]
      obtain ⟨id, hid, h⟩ := exists_of_bind_eq_ok h
      cases h
      simp only [toJson, Shape.parts, List.map_cons, List.map_nil, partInFull_identifier hid,
        hplace]
      exact ⟨rfl, trivial⟩
    | arity =>
      rw [inFull_object hshape]
      cases h
      simp only [toJson, Shape.parts, List.map_cons, List.map_nil, hplace]
      exact ⟨rfl, trivial⟩
    | withDefault | withAlternative =>
      rw [inFull_object hshape]
      obtain ⟨id, hid, h⟩ := exists_of_bind_eq_ok h
      split at h
      · cases h
      · next value hvalue =>
        obtain ⟨read, hread, h⟩ := exists_of_bind_eq_ok h
        obtain ⟨payload, hsingle, h⟩ := exists_of_bind_eq_ok h
        cases h
        -- A payload is not a sequence, so that it is read back as it is.
        obtain ⟨hs, rfl⟩ := single_eq_ok_iff.1 hsingle
        have hsize := sizeOf_lt_of_member? hvalue
        obtain ⟨hjson, hreadable⟩ := toJson_of_ofJson value payload hread
        simp only [toJson, Shape.parts, List.map_cons, List.map_nil, partInFull_identifier hid,
          partInFull_payload hvalue, hjson, hplace, partInFull]
        exact ⟨rfl, hs, hreadable⟩
    | withError =>
      rw [inFull_object hshape]
      obtain ⟨id, hid, h⟩ := exists_of_bind_eq_ok h
      cases h
      simp only [toJson, Shape.parts, List.map_cons, List.map_nil, partInFull_identifier hid,
        hplace, partInFull]
      exact ⟨rfl, trivial⟩
  | .null, _, h | .bool _, _, h | .int _, _, h | .float _, _, h | .string _, _, h
  | .array _, _, h => by
    rw [ofJson] at h
    · cases h
    · simp
termination_by document => sizeOf document

/-- The nodes that are read from some documents are written in full. -/
theorem toJsons_of_ofJsons : ∀ (documents : List Json) (ns : List Node),
    ofJsons documents = .ok ns → toJsons ns = allInFull documents ∧ AllReadable ns
  | [], ns, h => by
    rw [ofJsons] at h
    cases h
    rw [allInFull]
    exact ⟨rfl, trivial⟩
  | document :: documents, ns, h => by
    rw [ofJsons] at h
    obtain ⟨n, hn, h⟩ := exists_of_bind_eq_ok h
    obtain ⟨more, hmore, h⟩ := exists_of_bind_eq_ok h
    cases h
    obtain ⟨hjson, hreadable⟩ := toJson_of_ofJson document n hn
    obtain ⟨hjsons, hreadables⟩ := toJsons_of_ofJsons documents more hmore
    rw [allInFull, toJsons, hjson, hjsons]
    exact ⟨rfl, hreadable, hreadables⟩
termination_by documents => sizeOf documents

end

/-- What is read from a document is read back from what is written for it. -/
theorem ofJson_toJson_of_ofJson {document : Json} {n : Node} (h : ofJson document = .ok n) :
    ofJson n.toJson = .ok n := ofJson_toJson n (toJson_of_ofJson document n h).2

end Node

end Stored

/-! ## Templates -/

theorem Position.toStored_injective : Function.Injective Position.toStored := by
  rintro ⟨index, line, col⟩ ⟨index', line', col'⟩ h
  simpa [Position.toStored, Int.ofNat_inj] using h

theorem Identifier.toStored_injective : Function.Injective Identifier.toStored := by
  intro id id' h
  cases id with
  | named name =>
    cases id' with
    | named name' => simpa [Identifier.toStored] using h
    | index n' => simp [Identifier.toStored] at h
  | index n =>
    cases id' with
    | named name' => simp [Identifier.toStored] at h
    | index n' =>
      have hn : (n : Int) = n' := by simpa [Identifier.toStored] using h
      exact congrArg Identifier.index (Int.ofNat_inj.1 hn)

theorem CaseChange.name_injective : Function.Injective CaseChange.name := by
  intro k k' h
  simpa using congrArg ofName? h

theorem Modifier.toStored_injective : Function.Injective Modifier.toStored := by
  rintro ⟨change, all⟩ ⟨change', all'⟩ h
  simpa [Modifier.toStored, CaseChange.name_injective.eq_iff] using h

/-- A message and no message are stored differently. -/
theorem Stored.message_injective :
    Function.Injective fun message : Option String => message.elim Json.null (.string ·) := by
  intro message message' h
  cases message <;> cases message' <;> simp_all

/-- Different nodes are stored differently. -/
theorem Node.toStored_injective : Function.Injective Node.toStored := by
  have hid (a b : Identifier) : a.toStored = b.toStored ↔ a = b :=
    Identifier.toStored_injective.eq_iff
  have hposition (a b : Position) : a.toStored = b.toStored ↔ a = b :=
    Position.toStored_injective.eq_iff
  intro n
  -- The induction is for the payloads. Nodes of different kinds have different stored forms.
  induction n with
  | withDefault id default emptyIsUnset p ih | withAlternative id default emptyIsUnset p ih =>
    intro m h
    cases m <;> simp [toStored, hid, hposition] at h
    obtain ⟨rfl, h, rfl, rfl⟩ := h
    rw [ih h]
  | withError id message emptyIsUnset p =>
    intro m h
    cases m <;> simp [toStored, hid, hposition] at h
    obtain ⟨rfl, h, rfl, rfl⟩ := h
    rw [Stored.message_injective h]
  | simple id modifier p =>
    intro m h
    cases m <;> simp [toStored, hid, hposition] at h
    obtain ⟨rfl, h, rfl⟩ := h
    rw [Option.map_injective Modifier.toStored_injective h]
  | text value | length id p | arity p | indirect id p =>
    intro m h
    cases m <;> simp_all [toStored]

/-- Different templates are stored differently. -/
theorem Template.toStored_injective : Function.Injective Template.toStored := by
  rintro ⟨ns⟩ ⟨ms⟩ h
  have hnodes := List.map_injective_iff.2 Node.toStored_injective (Stored.Node.sequence.inj h)
  exact congrArg Template.mk hnodes

/-! ## Round trips -/

namespace Stored.Node

/-- Whatever a document is read as is written in the full form of the document and read back
unchanged, with every part and every position in it. So parts that are left out and superfluous
members do not matter, and what has been read and written once stays as it is. The template of a text
is written and read back likewise, and no other template is. -/
theorem reading_undoes_writing :
    (∀ (document : Json) (n : Node), ofJson document = .ok n →
      n.toJson = inFull document ∧ ofJson n.toJson = .ok n ∧
      ∀ other m, ofJson other = .ok m → inFull other = inFull document → m = n) ∧
    (∀ document written, (ofJson document).map toJson = .ok written →
      (ofJson written).map toJson = .ok written) ∧
    ∀ text t, Template.ofString text = .ok t → ofJson t.toStored.toJson = .ok t.toStored ∧
      ∀ u : Template, ofJson t.toStored.toJson = .ok u.toStored → u = t := by
  refine ⟨?_, ?_, ?_⟩
  · intro document n h
    have hfull := (toJson_of_ofJson document n h).1
    refine ⟨hfull, ofJson_toJson_of_ofJson h, ?_⟩
    intro other m hother hsame
    -- Both are written as the same document, and this is read back as either of them.
    have hwritten : m.toJson = n.toJson := by
      rw [(toJson_of_ofJson other m hother).1, hsame, hfull]
    have hread := ofJson_toJson_of_ofJson hother
    rw [hwritten, ofJson_toJson_of_ofJson h] at hread
    exact (Except.ok.inj hread).symm
  · intro document written h
    cases hread : ofJson document with
    | error e => rw [hread] at h; cases h
    | ok n =>
      rw [hread] at h
      cases h
      rw [ofJson_toJson_of_ofJson hread]
      rfl
  · intro text t ht
    refine ⟨t.ofJson_toStored, ?_⟩
    intro u hu
    rw [t.ofJson_toStored] at hu
    exact Template.toStored_injective (Except.ok.inj hu).symm

/-- A sequence in a sequence, a default without a position, and members without a meaning. -/
theorem reading_undoes_writing_nested :
    let name : Json := .object [("name", .string "x"), ("type", .string "Named"), ("note", .null)]
    let payload : Json :=
      .object [("type", .string "Simple"), ("identifier", name),
        ("modifier", .object [("kind", .string "upper")])]
    let default : Json :=
      .object [("type", .string "WithDefault"), ("default", payload), ("identifier", name)]
    let document : Json :=
      .object [("note", .int 1), ("type", .string "Ast"),
        ("nodes", .array [.object [("type", .string "Ast")], default])]
    let id : Identifier := .named (.string "x")
    let m : Node := .simple id (some ⟨.string "upper", .bool false⟩) none
    let n : Node := .sequence [.sequence [], .withDefault id m (.bool false) none]
    ofJson document = .ok n ∧ ofJson n.toJson = .ok n ∧ n.toJson = inFull document := by
  intro name payload default document id m n
  -- The document is read from its inner parts outwards.
  have hempty : ofJson (.object [("type", .string "Ast")]) = .ok (.sequence []) := by
    rw [ofJson]
    rfl
  have hpayload : ofJson payload = .ok m := by
    rw [ofJson]
    rfl
  have hdefault : ofJson default = .ok (.withDefault id m (.bool false) none) := by
    rw [ofJson]
    show (do return withDefault id (← single (← ofJson payload)) (.bool false) none) = _
    rw [hpayload]
    rfl
  have hread : ofJson document = .ok n := by
    rw [ofJson]
    show (do return sequence (← ofJsons [_, _])) = _
    rw [ofJsons, ofJsons, ofJsons, hempty, hdefault]
    rfl
  obtain ⟨hfull, hback, -⟩ := reading_undoes_writing.1 document n hread
  exact ⟨hread, hback, hfull⟩

end Stored.Node

end ParamExpansion
