import ParamExpansion.Text.Classes

/-!
# Quoted text in messages

A text is quoted so that it takes one line of printable characters. Single quotes are used, or
double quotes around a text that holds single quotes and no double ones. What is not printable is
written as the number of its code point, in two, four or eight hexadecimal digits.
-/

namespace ParamExpansion.Text

/-- The number in base sixteen, with `width` digits. -/
def hex (width n : Nat) : List Char :=
  let digits := Nat.toDigits 16 n
  List.replicate (width - digits.length) '0' ++ digits

namespace Quoted

/-- The quotation mark for a text. -/
def mark (cs : List Char) : Char := if '\'' ∈ cs ∧ '"' ∉ cs then '"' else '\''

/-- How a character is written between two quotation marks. -/
def encodeChar (quote c : Char) : List Char :=
  if c = quote ∨ c = '\\' then ['\\', c]
  else if c = '\n' then ['\\', 'n']
  else if c = '\r' then ['\\', 'r']
  else if c = '\t' then ['\\', 't']
  else if isPrintable c then [c]
  else if c.toNat < 0x100 then '\\' :: 'x' :: hex 2 c.toNat
  else if c.toNat < 0x10000 then '\\' :: 'u' :: hex 4 c.toNat
  else '\\' :: 'U' :: hex 8 c.toNat

/-- The text between quotation marks. -/
def encode (cs : List Char) : List Char :=
  mark cs :: cs.flatMap (encodeChar (mark cs)) ++ [mark cs]

end Quoted

/-- The text between quotation marks. -/
def quote (s : String) : String := String.ofList (Quoted.encode s.toList)

end ParamExpansion.Text
