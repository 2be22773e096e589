import ParamExpansion.Stored

/-!
# Data documents as stored templates

Reading a stored template back checks its shape only: every node is an object that names its shape,
the parts that cannot be left out are there, and a default or an alternative is a single node. The
first fault ends the reading; a position is read before all other parts.
-/

namespace ParamExpansion.Stored

/-- Why a document is no stored template. -/
inductive DecodeError where
  /-- A node is no object. -/
  | notObject (found : Json)
  /-- A node names no known shape. -/
  | unknownShape (name : Json)
  /-- An identifier names no known kind. -/
  | unknownIdentifier (name : Json)
  /-- A sequence stands where a single node is required. -/
  | notSingle
  /-- A part is missing. -/
  | missing (key : String)
  /-- A value that should have parts has none. -/
  | noParts (found : Json)
  /-- A value that should hold nodes holds nothing. -/
  | noNodes (found : Json)
  /-- An identifier is no object. -/
  | identifierNotObject (found : Json)
deriving Repr

/-- The text of the error. -/
def DecodeError.message : DecodeError → String
  | notObject found => s!"Expected an AST object, got {found.kind}"
  | unknownShape name => s!"Unknown node type: {name.label}"
  | unknownIdentifier name => s!"Unknown identifier type: {name.label}"
  | notSingle => "Expected a node"
  | missing key => Text.quote key
  | noParts (.string _) => "string indices must be integers, not 'str'"
  | noParts (.array _) => "list indices must be integers or slices, not str"
  | noParts found => s!"'{found.kind}' object is not subscriptable"
  | noNodes found => s!"'{found.kind}' object is not iterable"
  | identifierNotObject found => s!"'{found.kind}' object has no attribute 'get'"

/-! ## Parts -/

/-- A part that cannot be left out. -/
def required (members : List (WideText × Json)) (key : String) : Except DecodeError Json :=
  match Json.member? members key with
  | some value => .ok value
  | none => .error (.missing key)

/-- A part that is null if it is left out. -/
def optional (members : List (WideText × Json)) (key : String) : Json :=
  (Json.member? members key).getD .null

/-- A part that is false if it is left out. -/
def flag (members : List (WideText × Json)) (key : String) : Json :=
  (Json.member? members key).getD (.bool false)

/-- The parts of a value that may be null. -/
def partsOf : Json → Except DecodeError (Option (List (WideText × Json)))
  | .null => .ok none
  | .object members => .ok (some members)
  | found => .error (.noParts found)

/-- Reads a position. -/
def Place.ofJson (value : Json) : Except DecodeError (Option Place) := do
  match ← partsOf value with
  | none => return none
  | some members =>
    return some ⟨← required members "index", ← required members "line", ← required members "col"⟩

/-- Reads a change of case. -/
def Modifier.ofJson (value : Json) : Except DecodeError (Option Modifier) := do
  match ← partsOf value with
  | none => return none
  | some members => return some ⟨← required members "kind", flag members "all"⟩

/-- Reads an identifier. -/
def Identifier.ofJson : Json → Except DecodeError Identifier
  | .object members =>
    match optional members "type" with
    | .string (.plain "Named") => return .named (← required members "name")
    | .string (.plain "Indexed") => return .index (← required members "index")
    | name => .error (.unknownIdentifier name)
  | found => .error (.identifierNotObject found)

/-- Reads the identifier of a parameter. -/
def identifierOf (members : List (WideText × Json)) : Except DecodeError Identifier := do
  Identifier.ofJson (← required members "identifier")

/-! ## Nodes -/

/-- The shape that a node names. -/
def shapeOf (members : List (WideText × Json)) : Except DecodeError Node.Shape :=
  match optional members "type" with
  | .string (.plain name) =>
    match Node.Shape.ofName? name with
    | some shape => .ok shape
    | none => .error (.unknownShape (.string name))
  | name => .error (.unknownShape name)

/-- A single node. -/
def single : Node → Except DecodeError Node
  | .sequence _ => .error .notSingle
  | node => .ok node

/-- A sequence whose nodes are not in an array. A text or an object stands for no nodes if it is
empty, and otherwise for nodes that are texts. -/
def sequenceOf : Json → Except DecodeError Node
  | .string (.plain "") | .object [] => .ok (.sequence [])
  | .string value => .error (.notObject (.string value))
  | .object (member :: _) => .error (.notObject (.string member.1))
  | found => .error (.noNodes found)

theorem sizeOf_lt_of_member? {members : List (WideText × Json)} {key : String} {value : Json}
    (h : Json.member? members key = some value) : sizeOf value < sizeOf members := by
  unfold Json.member? at h
  induction members with
  | nil => cases h
  | cons m members ih =>
    obtain ⟨k, v⟩ := m
    rw [List.lookup_cons] at h
    split at h
    · cases h
      simp only [List.cons.sizeOf_spec, Prod.mk.sizeOf_spec]
      omega
    · have := ih h
      simp only [List.cons.sizeOf_spec]
      omega

namespace Node

mutual

/-- Reads a node. -/
def ofJson : Json → Except DecodeError Node
  | .object members => do
    let place ← Place.ofJson (optional members "position")
    match ← shapeOf members with
    | .sequence =>
      match _h : Json.member? members "nodes" with
      | none => return .sequence []
      | some (.array items) => return .sequence (← ofJsons items)
      | some found => sequenceOf found
    | .text => return .text (← required members "value")
    | .simple =>
      return .simple (← identifierOf members) (← Modifier.ofJson (optional members "modifier"))
        place
    | .length => return .length (← identifierOf members) place
    | .arity => return .arity place
    | .indirect => return .indirect (← identifierOf members) place
    | .withDefault =>
      let id ← identifierOf members
      match _h : Json.member? members "default" with
      | none => .error (.missing "default")
      | some value =>
        return .withDefault id (← single (← ofJson value)) (flag members "treat_empty_as_unset")
          place
    | .withAlternative =>
      let id ← identifierOf members
      match _h : Json.member? members "alt" with
      | none => .error (.missing "alt")
      | some value =>
        return .withAlternative id (← single (← ofJson value))
          (flag members "treat_empty_as_unset") place
    | .withError =>
      return .withError (← identifierOf members) (optional members "error")
        (flag members "treat_empty_as_unset") place
  | found => .error (.notObject found)
termination_by value => sizeOf value
decreasing_by
  · have := sizeOf_lt_of_member? _h
    simp only [Json.array.sizeOf_spec, Json.object.sizeOf_spec] at *
    omega
  all_goals
    have := sizeOf_lt_of_member? _h
    simp only [Json.object.sizeOf_spec]
    omega

/-- Reads some nodes. -/
def ofJsons : List Json → Except DecodeError (List Node)
  | [] => return []
  | item :: items => return (← ofJson item) :: (← ofJsons items)
termination_by items => sizeOf items

end

end Node

end ParamExpansion.Stored
