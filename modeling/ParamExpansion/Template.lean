import ParamExpansion.CaseChange
import ParamExpansion.Position

/-!
# Templates

A template is a list of nodes: text that stands for itself, and parameters that stand for values. A
parameter that has a default or an alternative holds another node for it, so parameters nest. Every
parameter knows the position of its dollar sign.
-/

namespace ParamExpansion

/-- What a parameter looks up. -/
inductive Identifier where
  /-- A variable. -/
  | named (name : String)
  /-- A positional value, counted from one; zero names all of them together. -/
  | index (index : Nat)
deriving DecidableEq, Repr

instance : ToString Identifier where
  toString
    | .named name => name
    | .index index => toString index

/-- A change of case, of all characters or of the first one only. -/
structure Modifier where
  change : CaseChange
  all : Bool := false
deriving DecidableEq, Repr

/-- A piece of a template. -/
inductive Node where
  /-- Text that stands for itself. -/
  | text (value : String)
  /-- A value, perhaps in another case: `$x`, `${x}`, `${x^}`. -/
  | simple (id : Identifier) (modifier : Option Modifier) (position : Position)
  /-- The length of a value: `${#x}`. -/
  | length (id : Identifier) (position : Position)
  /-- The number of positional values: `${#}`. -/
  | arity (position : Position)
  /-- The value of the variable that a value names: `${!x}`. -/
  | indirect (id : Identifier) (position : Position)
  /-- A value, or else a default: `${x-d}`, and `${x:-d}` where an empty value counts as none. -/
  | withDefault (id : Identifier) (default : Node) (emptyIsUnset : Bool) (position : Position)
  /-- An alternative, provided there is a value: `${x+a}`, `${x:+a}`. -/
  | withAlternative (id : Identifier) (alternative : Node) (emptyIsUnset : Bool)
      (position : Position)
  /-- A value that has to be there: `${x?m}`, `${x:?m}`. -/
  | withError (id : Identifier) (message : Option String) (emptyIsUnset : Bool)
      (position : Position)
deriving DecidableEq, Repr

/-- A list of nodes, expanded from left to right. -/
structure Template where
  nodes : List Node
deriving DecidableEq, Repr

end ParamExpansion
