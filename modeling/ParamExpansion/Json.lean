import ParamExpansion.Binary64
import ParamExpansion.Text.Wide

/-!
# Values of a data document

The values that a JSON text can hold. Whole numbers are kept exactly, the members of an object keep
their order, and texts and keys may hold lone surrogates.
-/

namespace ParamExpansion

/-- A value of a data document. -/
inductive Json where
  | null
  | bool (value : Bool)
  | int (value : Int)
  | float (value : Binary64)
  | string (value : WideText)
  | array (items : List Json)
  | object (members : List (WideText × Json))
deriving Repr

namespace Json

/-- How a message calls the kind of a value. -/
def kind : Json → String
  | null => "NoneType"
  | bool _ => "bool"
  | int _ => "int"
  | float _ => "float"
  | string _ => "str"
  | array _ => "list"
  | object _ => "dict"

/-- Whether the value counts as true: all do but null, false, zero and what is empty. -/
def holds : Json → Bool
  | null => false
  | bool value => value
  | int value => value != 0
  | float value => !value.isZero
  | string value => !value.isEmpty
  | array items => !items.isEmpty
  | object members => !members.isEmpty

mutual

/-- How a message shows a value inside another one. -/
def quoted : Json → String
  | null => "None"
  | bool true => "True"
  | bool false => "False"
  | int value => toString value
  | float value => value.text "inf" "nan"
  | string value => value.quoted
  | array items => "[" ++ ", ".intercalate (quotedItems items) ++ "]"
  | object members => "\x7b" ++ ", ".intercalate (quotedMembers members) ++ "\x7d"

/-- How a message shows the items of an array. -/
def quotedItems : List Json → List String
  | [] => []
  | item :: items => item.quoted :: quotedItems items

/-- How a message shows the members of an object. -/
def quotedMembers : List (WideText × Json) → List String
  | [] => []
  | (key, value) :: members => (key.quoted ++ ": " ++ value.quoted) :: quotedMembers members

end

/-- The value as a text. A text is itself. -/
def asText : Json → WideText
  | string value => value
  | value => value.quoted

/-- How a message shows a value. -/
def label (value : Json) : String := toString value.asText

/-- The member with this key. -/
def member? (members : List (WideText × Json)) (key : String) : Option Json :=
  members.lookup (.plain key)

/-- The members with one more. A key that is there already keeps its place and gets the new
value. -/
def insert (members : List (WideText × Json)) (key : WideText) (value : Json) :
    List (WideText × Json) :=
  if members.any (·.1 == key) then members.map fun m => if m.1 = key then (key, value) else m
  else members ++ [(key, value)]

end Json

end ParamExpansion
