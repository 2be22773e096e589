import ParamExpansion.Json
import ParamExpansion.Position

/-!
# Reading data documents

A JSON text is one value with white space around it. Beyond the standard, `NaN`, `Infinity` and
`-Infinity` are numbers. A whole number of more than `maxDigits` digits cannot be read.

Reading a value takes fuel for every value and every list on the way into it. Each level of nesting
takes a character of the text, so that twice the length of the text is always enough.
-/

namespace ParamExpansion.Json

/-! ## Why a text is no data document

The first fault ends the reading, and its place is part of the error.
-/

/-- What is wrong with a text. -/
inductive Fault where
  /-- A value is missing. -/
  | value
  /-- The key of a member is missing. -/
  | key
  /-- The colon behind a key is missing. -/
  | colon
  /-- The comma between two items is missing. -/
  | comma
  /-- More text follows the value. -/
  | extraData
  /-- The text begins with a byte order mark. -/
  | byteOrderMark
  /-- A string does not end. -/
  | openString
  /-- A control character stands in a string. -/
  | controlCharacter
  /-- No escape is written like this. -/
  | badEscape
  /-- A code point is not written with four hexadecimal digits. -/
  | badCodePoint
deriving DecidableEq, Repr

/-- The text of a fault, without its place. -/
def Fault.message : Fault → String
  | value => "Expecting value"
  | key => "Expecting property name enclosed in double quotes"
  | colon => "Expecting ':' delimiter"
  | comma => "Expecting ',' delimiter"
  | extraData => "Extra data"
  | byteOrderMark => "Unexpected UTF-8 BOM (decode using utf-8-sig)"
  | openString => "Unterminated string starting at"
  | controlCharacter => "Invalid control character at"
  | badEscape => "Invalid \\escape"
  | badCodePoint => "Invalid \\uXXXX escape"

/-- Why a text cannot be read. -/
inductive ReadError where
  /-- The text is malformed at a position. -/
  | malformed (fault : Fault) (position : Position)
  /-- A whole number has too many digits. -/
  | longNumber
deriving DecidableEq, Repr

/-- The text of a fault and its place. -/
def Fault.describe (fault : Fault) (p : Position) : String :=
  s!"{fault.message}: line {p.line} column {p.col} (char {p.index})"

/-! ## Written numbers

A number has a sign, whole digits without a leading zero, and perhaps a fraction and an exponent. A
point or an exponent that no digit follows does not belong to the number.
-/

/-- The parts of a written number. -/
structure Numeral where
  negative : Bool
  whole : List Char
  /-- The digits behind the point, none if there is no point. -/
  fraction : List Char
  /-- The sign and the digits of the exponent, none if there is no exponent. -/
  exponent : List Char
deriving DecidableEq, Repr

namespace Numeral

/-- The whole digits that stand here. -/
def wholeOf : List Char → List Char
  | '0' :: _ => ['0']
  | cs => cs.takeWhile Char.isDigit

/-- The fraction that stands here. -/
def fractionOf : List Char → List Char
  | '.' :: cs => cs.takeWhile Char.isDigit
  | _ => []

/-- The exponent that stands here. -/
def exponentOf : List Char → List Char
  | c :: cs =>
    let sign := cs.take (if cs.head? = some '+' ∨ cs.head? = some '-' then 1 else 0)
    let digits := (cs.drop sign.length).takeWhile Char.isDigit
    if (c = 'e' ∨ c = 'E') ∧ digits ≠ [] then sign ++ digits else []
  | [] => []

/-- The number of characters of a part, with the sign that introduces it. -/
def partLength (part : List Char) : Nat := if part.isEmpty then 0 else part.length + 1

/-- The number that starts here. -/
def read? (cs : List Char) : Option Numeral :=
  let negative : Bool := cs.head? = some '-'
  let unsigned := if negative then cs.drop 1 else cs
  let whole := wholeOf unsigned
  let behind := unsigned.drop whole.length
  let fraction := fractionOf behind
  let exponent := exponentOf (behind.drop (partLength fraction))
  if whole.isEmpty then none else some { negative, whole, fraction, exponent }

/-- The number of characters. -/
def length (n : Numeral) : Nat :=
  n.negative.toNat + n.whole.length + partLength n.fraction + partLength n.exponent

/-- The number that digits denote in base ten. -/
def natOf (digits : List Char) : Nat :=
  digits.foldl (fun n c => 10 * n + (c.toNat - '0'.toNat)) 0

/-- The number that digits denote, which a sign may precede. -/
def intOf : List Char → Int
  | '-' :: digits => -natOf digits
  | '+' :: digits => natOf digits
  | digits => natOf digits

/-- Whether the number has neither a fraction nor an exponent. -/
def isWhole (n : Numeral) : Bool := n.fraction.isEmpty && n.exponent.isEmpty

/-- The value of the number. -/
def value (n : Numeral) : Json :=
  if n.isWhole then .int (if n.negative then -natOf n.whole else natOf n.whole)
  else
    .float (.ofScientific n.negative (natOf (n.whole ++ n.fraction))
      (intOf n.exponent - n.fraction.length))

end Numeral

/-! ## Runs of the reader -/

/-- A run of the reader, which moves a cursor and ends with a value or an error. -/
abbrev ReadM := StateT Cursor (Except ReadError)

namespace ReadM

/-- The largest number of digits of a whole number. -/
def maxDigits : Nat := 4300

/-- Ends the run with a fault at the place reached. -/
def fail {α : Type} (fault : Fault) : ReadM α := fun c => .error (.malformed fault c.position)

/-- White space between the parts of a document. -/
def isSpace (c : Char) : Bool := c = ' ' || c = '\t' || c = '\n' || c = '\r'

/-- Moves over white space. -/
def space : ReadM Unit := modify fun c => (c.takeWhile isSpace).2

/-- Moves over the character `x`, if it stands here. -/
def accept (x : Char) : ReadM Bool := fun c =>
  .ok (if c.peek? = some x then (true, c.skip 1) else (false, c))

/-! ## Strings -/

/-- The value of a hexadecimal digit. -/
def hexDigit? (c : Char) : Option Nat :=
  if '0' ≤ c ∧ c ≤ '9' then some (c.toNat - '0'.toNat)
  else if 'a' ≤ c ∧ c ≤ 'f' then some (c.toNat - 'a'.toNat + 10)
  else if 'A' ≤ c ∧ c ≤ 'F' then some (c.toNat - 'A'.toNat + 10)
  else none

/-- The number that hexadecimal digits denote. -/
def hexValue? (digits : List Char) : Option Nat :=
  digits.foldlM (fun n c => (hexDigit? c).map (16 * n + ·)) 0

/-- The character that a short escape stands for. -/
def shortEscape? : Char → Option Char
  | '"' => some '"'
  | '\\' => some '\\'
  | '/' => some '/'
  | 'b' => some '\x08'
  | 'f' => some '\x0c'
  | 'n' => some '\n'
  | 'r' => some '\r'
  | 't' => some '\t'
  | _ => none

/-- The code units up to the closing mark of a string that opens at `opening`, and the place behind
that mark. A string never ends right behind a code point. -/
def codeUnits (opening : Position) :
    Position → List Char → Except ReadError (List Nat × Cursor)
  | _, [] | _, ['\\'] => .error (.malformed .openString opening)
  | p, '"' :: cs => .ok ([], ⟨cs, p.step '"'⟩)
  | p, '\\' :: 'u' :: a :: b :: c :: d :: cs =>
    -- The closing mark at least has to follow the digits.
    match hexValue? [a, b, c, d], cs.isEmpty with
    | some n, false =>
      (codeUnits opening (p.steps ['\\', 'u', a, b, c, d]) cs).map fun r => (n :: r.1, r.2)
    | _, _ => .error (.malformed .badCodePoint (p.step '\\'))
  | p, '\\' :: c :: cs =>
    match shortEscape? c with
    | some x => (codeUnits opening (p.steps ['\\', c]) cs).map fun r => (x.toNat :: r.1, r.2)
    | none =>
      .error (if c = 'u' then .malformed .badCodePoint (p.step '\\') else .malformed .badEscape p)
  | p, c :: cs =>
    if c < ' ' then .error (.malformed .controlCharacter p)
    else (codeUnits opening (p.step c) cs).map fun r => (c.toNat :: r.1, r.2)

/-- The code points that code units denote. Two surrogates that are partners make up one character. -/
def joinSurrogates : List Nat → List CodePoint
  | high :: low :: units =>
    if 0xD800 ≤ high ∧ high < 0xDC00 ∧ 0xDC00 ≤ low ∧ low < 0xE000 then
      .char (Char.ofNat (0x10000 + (high - 0xD800) * 0x400 + (low - 0xDC00))) ::
        joinSurrogates units
    else .ofNat high :: joinSurrogates (low :: units)
  | [unit] => [.ofNat unit]
  | [] => []

/-- The string that opens here. -/
def string : ReadM WideText := fun c =>
  (codeUnits c.position (c.skip 1).position (c.skip 1).rest).map fun r =>
    (.ofPoints (joinSurrogates r.1), r.2)

/-! ## Values -/

/-- The values that are written as a word. -/
def words : List (String × Json) :=
  [("null", .null), ("true", .bool true), ("false", .bool false), ("NaN", .float .nan),
   ("Infinity", .float (.ofMagnitude false Binary64.infinity)),
   ("-Infinity", .float (.ofMagnitude true Binary64.infinity))]

/-- A word or a number. -/
def scalar : ReadM Json := fun c =>
  match words.find? (·.1.toList.isPrefixOf c.rest) with
  | some (word, value) => .ok (value, c.skip word.length)
  | none =>
    match Numeral.read? c.rest with
    | some n =>
      if n.isWhole ∧ maxDigits < n.whole.length then .error .longNumber
      else .ok (n.value, c.skip n.length)
    | none => .error (.malformed .value c.position)

mutual

/-- The value that starts here. -/
def value : (fuel : Nat) → ReadM Json
  | 0 => fail .value
  | fuel + 1 => do
    if (← get).peek? = some '"' then return .string (← string)
    else if ← accept '[' then
      space
      if ← accept ']' then return .array [] else return .array (← items fuel)
    else if ← accept '\x7b' then
      space
      if ← accept '\x7d' then return .object []
      else return .object ((← members fuel).foldl (fun ms m => insert ms m.1 m.2) [])
    else scalar

/-- The items from here to the closing bracket. -/
def items : (fuel : Nat) → ReadM (List Json)
  | 0 => fail .value
  | fuel + 1 => do
    let item ← value fuel
    space
    if ← accept ']' then return [item]
    else if ← accept ',' then
      space
      return item :: (← items fuel)
    else fail .comma

/-- The members from here to the closing brace. -/
def members : (fuel : Nat) → ReadM (List (WideText × Json))
  | 0 => fail .value
  | fuel + 1 => do
    if (← get).peek? ≠ some '"' then fail .key
    let key ← string
    space
    if !(← accept ':') then fail .colon
    space
    let content ← value fuel
    space
    if ← accept '\x7d' then return [(key, content)]
    else if ← accept ',' then
      space
      return (key, content) :: (← members fuel)
    else fail .comma

end

/-- One value and white space around it. -/
def document : ReadM Json := do
  space
  let content ← value (2 * (← get).rest.length + 1)
  space
  if (← get).rest ≠ [] then fail .extraData
  return content

end ReadM

/-- The value that a text holds. -/
def ofString (text : String) : Except ReadError Json :=
  if text.toList.head? = some '\ufeff' then .error (.malformed .byteOrderMark .start)
  else (ReadM.document.run (.ofString text)).map (·.1)

end ParamExpansion.Json
