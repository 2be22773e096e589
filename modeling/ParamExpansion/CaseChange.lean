/-!
# Changes of case

The three changes of case that a parameter can ask for, with the operator character of each.
-/

namespace ParamExpansion

/-- A change of case. -/
inductive CaseChange where
  /-- To upper case, `^`. -/
  | upper
  /-- To lower case, `,`. -/
  | lower
  /-- Upper case to lower case, and all else to upper case, `~`. -/
  | reverse
deriving DecidableEq, Repr

namespace CaseChange

/-- All changes of case. -/
def all : List CaseChange := [.upper, .lower, .reverse]

/-- The operator character. -/
def char : CaseChange → Char
  | .upper => '^'
  | .lower => ','
  | .reverse => '~'

/-- The change that a character asks for. -/
def ofChar? (c : Char) : Option CaseChange := all.find? (·.char = c)

/-- The name of the change in a written template. -/
def name : CaseChange → String
  | .upper => "upper"
  | .lower => "lower"
  | .reverse => "reverse"

/-- The change with this name. -/
def ofName? (s : String) : Option CaseChange := all.find? (·.name = s)

@[simp] theorem ofChar?_char (k : CaseChange) : ofChar? k.char = some k := by cases k <;> decide

theorem char_of_ofChar? {c : Char} {k : CaseChange} (h : ofChar? c = some k) : k.char = c := by
  simpa using List.find?_some h

@[simp] theorem ofName?_name (k : CaseChange) : ofName? k.name = some k := by cases k <;> decide

end CaseChange

end ParamExpansion
