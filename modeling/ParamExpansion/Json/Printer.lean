import ParamExpansion.Json

/-!
# Writing data documents

A document is written on one line, or with one item or member on each line and two blanks of
indentation a level. Texts are written as they are, except for quotation marks, backslashes and
control characters. A lone surrogate is written as an escape, since it has no other form.
-/

namespace ParamExpansion.Json

/-- How a character is written in a text. -/
def escapeChar (c : Char) : List Char :=
  match c with
  | '"' => ['\\', '"']
  | '\\' => ['\\', '\\']
  | '\n' => ['\\', 'n']
  | '\r' => ['\\', 'r']
  | '\t' => ['\\', 't']
  | '\x08' => ['\\', 'b']
  | '\x0c' => ['\\', 'f']
  | c => if c < ' ' then '\\' :: 'u' :: Text.hex 4 c.toNat else [c]

/-- How a code point is written in a text. -/
def escapePoint : CodePoint → List Char
  | .char c => escapeChar c
  | .surrogate offset => CodePoint.shown (.surrogate offset)

/-- A text between quotation marks. -/
def writeString (value : WideText) : String :=
  String.ofList ('"' :: value.points.flatMap escapePoint ++ ['"'])

/-- What stands between two items, and around all of them. -/
structure Layout where
  /-- What starts a new line at a level of nesting. -/
  newLine : Nat → String
  /-- What separates two items before the new line. -/
  comma : String

/-- Each item on a line of its own. -/
def Layout.indented : Layout := ⟨fun level => "\n".pushn ' ' (2 * level), ","⟩

/-- Brackets around items. Nothing stands between the brackets of no items. -/
def Layout.enclose (layout : Layout) (level : Nat) (opening closing : String)
    (items : List String) : String :=
  if items.isEmpty then opening ++ closing
  else
    opening ++ layout.newLine (level + 1) ++
      (layout.comma ++ layout.newLine (level + 1)).intercalate items ++
      layout.newLine level ++ closing

mutual

/-- The text of a value at a level of nesting. -/
def write (layout : Layout) (level : Nat) : Json → String
  | null => "null"
  | bool true => "true"
  | bool false => "false"
  | int value => toString value
  | float value => value.text "Infinity" "NaN"
  | string value => writeString value
  | array items => layout.enclose level "[" "]" (writeItems layout (level + 1) items)
  | object members => layout.enclose level "\x7b" "\x7d" (writeMembers layout (level + 1) members)

/-- The texts of some items. -/
def writeItems (layout : Layout) (level : Nat) : List Json → List String
  | [] => []
  | item :: items => write layout level item :: writeItems layout level items

/-- The texts of some members. -/
def writeMembers (layout : Layout) (level : Nat) : List (WideText × Json) → List String
  | [] => []
  | (key, value) :: members =>
    (writeString key ++ ": " ++ write layout level value) :: writeMembers layout level members

end

/-- The text of a document on indented lines. -/
def toLines (value : Json) : String := write .indented 0 value

end ParamExpansion.Json
