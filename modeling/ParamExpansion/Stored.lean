import ParamExpansion.Json
import ParamExpansion.Template

/-!
# Stored templates

A template can be kept as a data document. What is read back has the shape of a template, while the
values in it are whatever the document holds: a name need not be a text, nor an index a number. A
sequence of nodes is a node here, too, and may stand among the nodes of another one.

The conversion of a template to this form keeps everything.
-/

namespace ParamExpansion.Stored

/-- What a parameter looks up. -/
inductive Identifier where
  | named (name : Json)
  | index (index : Json)
deriving Repr

/-- A change of case. -/
structure Modifier where
  /-- The name of the change. -/
  change : Json
  /-- Whether the change is one of all characters. -/
  all : Json
deriving Repr

/-- A position. -/
structure Place where
  index : Json
  line : Json
  col : Json
deriving Repr

/-- A piece of a template, or a sequence of pieces. -/
inductive Node where
  | sequence (nodes : List Node)
  | text (value : Json)
  | simple (id : Identifier) (modifier : Option Modifier) (place : Option Place)
  | length (id : Identifier) (place : Option Place)
  | arity (place : Option Place)
  | indirect (id : Identifier) (place : Option Place)
  | withDefault (id : Identifier) (default : Node) (emptyIsUnset : Json) (place : Option Place)
  | withAlternative (id : Identifier) (alternative : Node) (emptyIsUnset : Json)
      (place : Option Place)
  | withError (id : Identifier) (message : Json) (emptyIsUnset : Json) (place : Option Place)
deriving Repr

namespace Node

/-- The shape of a node. -/
inductive Shape where
  | sequence | text | simple | length | arity | indirect | withDefault | withAlternative | withError
deriving DecidableEq, Repr

namespace Shape

/-- All shapes. -/
def all : List Shape :=
  [.sequence, .text, .simple, .length, .arity, .indirect, .withDefault, .withAlternative,
   .withError]

/-- How a document calls the shape. -/
def name : Shape → String
  | sequence => "Ast"
  | text => "Text"
  | simple => "Simple"
  | length => "Length"
  | arity => "Arity"
  | indirect => "Ref"
  | withDefault => "WithDefault"
  | withAlternative => "WithAlt"
  | withError => "WithError"

/-- The shape with this name. -/
def ofName? (s : String) : Option Shape := all.find? (·.name = s)

@[simp] theorem ofName?_name (k : Shape) : ofName? k.name = some k := by cases k <;> decide

end Shape

end Node

/-! ## Stored templates as data documents

Every node becomes an object that names its shape, and its parts in a fixed order. What a node lacks
is written as null.
-/

/-- The document of an identifier. -/
def Identifier.toJson : Identifier → Json
  | .named name => .object [("type", .string "Named"), ("name", name)]
  | .index n => .object [("type", .string "Indexed"), ("index", n)]

/-- The document of a change of case. -/
def Modifier.toJson (m : Modifier) : Json := .object [("kind", m.change), ("all", m.all)]

/-- The document of a position. -/
def Place.toJson (p : Place) : Json :=
  .object [("index", p.index), ("line", p.line), ("col", p.col)]

namespace Node

/-- The object of a node of some shape. -/
def object (shape : Shape) (parts : List (WideText × Json)) : Json :=
  .object (("type", .string shape.name) :: parts)

/-- The last part of every parameter. -/
def placePart (place : Option Place) : WideText × Json := ("position", place.elim .null (·.toJson))

mutual

/-- The document of a node. -/
def toJson : Node → Json
  | sequence nodes => object .sequence [("nodes", .array (toJsons nodes))]
  | text value => object .text [("value", value)]
  | simple id modifier place =>
    object .simple
      [("identifier", id.toJson), ("modifier", modifier.elim .null (·.toJson)), placePart place]
  | length id place => object .length [("identifier", id.toJson), placePart place]
  | arity place => object .arity [placePart place]
  | indirect id place => object .indirect [("identifier", id.toJson), placePart place]
  | withDefault id default emptyIsUnset place =>
    object .withDefault
      [("identifier", id.toJson), ("default", default.toJson),
       ("treat_empty_as_unset", emptyIsUnset), placePart place]
  | withAlternative id alternative emptyIsUnset place =>
    object .withAlternative
      [("identifier", id.toJson), ("alt", alternative.toJson),
       ("treat_empty_as_unset", emptyIsUnset), placePart place]
  | withError id message emptyIsUnset place =>
    object .withError
      [("identifier", id.toJson), ("error", message), ("treat_empty_as_unset", emptyIsUnset),
       placePart place]

/-- The documents of some nodes. -/
def toJsons : List Node → List Json
  | [] => []
  | node :: nodes => node.toJson :: toJsons nodes

end

end Node

end ParamExpansion.Stored

namespace ParamExpansion

/-! ## Templates as stored templates -/

/-- A position as it is stored. -/
def Position.toStored (p : Position) : Stored.Place := ⟨.int p.index, .int p.line, .int p.col⟩

/-- An identifier as it is stored. -/
def Identifier.toStored : Identifier → Stored.Identifier
  | .named name => .named (.string name)
  | .index n => .index (.int n)

/-- A change of case as it is stored. -/
def Modifier.toStored (m : Modifier) : Stored.Modifier := ⟨.string m.change.name, .bool m.all⟩

/-- A node as it is stored. -/
def Node.toStored : Node → Stored.Node
  | .text value => .text (.string value)
  | .simple id modifier position =>
    .simple id.toStored (modifier.map (·.toStored)) (some position.toStored)
  | .length id position => .length id.toStored (some position.toStored)
  | .arity position => .arity (some position.toStored)
  | .indirect id position => .indirect id.toStored (some position.toStored)
  | .withDefault id default emptyIsUnset position =>
    .withDefault id.toStored default.toStored (.bool emptyIsUnset) (some position.toStored)
  | .withAlternative id alternative emptyIsUnset position =>
    .withAlternative id.toStored alternative.toStored (.bool emptyIsUnset) (some position.toStored)
  | .withError id message emptyIsUnset position =>
    .withError id.toStored (message.elim .null (.string ·)) (.bool emptyIsUnset)
      (some position.toStored)

/-- A template as it is stored. -/
def Template.toStored (t : Template) : Stored.Node := .sequence (t.nodes.map (·.toStored))

end ParamExpansion
