import ParamExpansion.CaseChange
import ParamExpansion.Position

/-!
# Tokens

A template is read as a list of tokens: runs of text, and inside parameters also names, indexes and
operators. A token knows where it starts and where it stops.
-/

namespace ParamExpansion

/-- An operator of one character, other than the changes of case. -/
inductive Mark where
  | openBrace | closeBrace | dollar | colon | dash | plus | question | pound | bang
deriving DecidableEq, Repr

namespace Mark

/-- All operators. -/
def all : List Mark :=
  [.openBrace, .closeBrace, .dollar, .colon, .dash, .plus, .question, .pound, .bang]

/-- The character of the operator. -/
def char : Mark → Char
  | .openBrace => '{'
  | .closeBrace => '}'
  | .dollar => '$'
  | .colon => ':'
  | .dash => '-'
  | .plus => '+'
  | .question => '?'
  | .pound => '#'
  | .bang => '!'

/-- The operator that a character stands for. -/
def ofChar? (c : Char) : Option Mark := all.find? (·.char = c)

@[simp] theorem ofChar?_char (m : Mark) : ofChar? m.char = some m := by cases m <;> decide

theorem char_of_ofChar? {c : Char} {m : Mark} (h : ofChar? c = some m) : m.char = c := by
  simpa using List.find?_some h

end Mark

namespace Token

/-- What a token is, without what it holds. -/
inductive Class where
  | text | name | index
  | mark (m : Mark)
  | caseMark (k : CaseChange)
deriving DecidableEq, Repr

/-- How a message calls the tokens of a class. -/
def Class.label : Class → String
  | .text => "TEXT"
  | .name => "IDENT"
  | .index => "INDEX"
  | .mark m => m.char.toString
  | .caseMark k => k.char.toString

/-- What a token is and holds. -/
inductive Kind where
  /-- A run of text, in which no dollar sign is doubled any more. -/
  | text (value : String)
  /-- The name of a variable. -/
  | name (value : String)
  /-- The number of a positional value. -/
  | index (value : Nat)
  | mark (m : Mark)
  | caseMark (k : CaseChange)
deriving DecidableEq, Repr

namespace Kind

/-- The class of a token. -/
def tokenClass : Kind → Class
  | .text _ => .text
  | .name _ => .name
  | .index _ => .index
  | .mark m => .mark m
  | .caseMark k => .caseMark k

/-- How a message shows a token. -/
def describe : Kind → String
  | .text value | .name value => s!"\"{value}\""
  | .index value => toString value
  | .mark m => s!"'{m.char}'"
  | .caseMark k => s!"'{k.char}'"

/-- The number of open braces behind the token, when `n` are open before it. A brace that closes
nothing leaves none open. -/
def nesting : Kind → Nat → Nat
  | .mark .openBrace, n => n + 1
  | .mark .closeBrace, n => n - 1
  | _, n => n

/-- Whether a name or an index may follow directly. -/
def introducesIdentifier : Kind → Bool
  | .mark .dollar | .mark .openBrace | .mark .pound | .mark .bang => true
  | _ => false

/-- Whether a change of case may follow directly. -/
def admitsCaseMark : Kind → Bool
  | .name _ | .index _ | .caseMark _ => true
  | _ => false

end Kind

/-- How a message shows a token, or the end of the text. -/
def describe : Option Kind → String
  | some kind => kind.describe
  | none => "EOF"

end Token

/-- A token and the part of the text that it covers. -/
structure Token where
  kind : Token.Kind
  /-- Where its first character lies. -/
  start : Position
  /-- The position behind its last character. -/
  stop : Position
deriving DecidableEq, Repr

end ParamExpansion
