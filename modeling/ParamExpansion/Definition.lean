import ParamExpansion.FileSystem
import ParamExpansion.Text.Classes
import ParamExpansion.Text.Streams

/-!
# Definitions of variables

A definition is a name, an equals sign and a value, on one line. Its parts are read one after the
other, each of them as far as it reaches. What a value holds may also be a name or an equals sign,
so only the part that comes next is looked for.
-/

namespace ParamExpansion.Definition

/-- What is wrong with a definition. -/
inductive Fault where
  /-- There is no name before the equals sign. -/
  | missingName
  /-- There is no equals sign, or more than one line. -/
  | missingSign
deriving DecidableEq, Repr

/-- The text of a fault. -/
def Fault.message : Fault → String
  | missingName => "variable name missing"
  | missingSign => "'=' character missing in key value pair"

/-- A faulty definition and its place. -/
structure SyntaxError where
  fault : Fault
  /-- The line of the definition, as its reader counts lines. -/
  line : Int
  /-- The column, counted from one. -/
  col : Nat
deriving DecidableEq, Repr

/-- Whether the character ends the line of a definition. -/
def endsLine (c : Char) : Bool := c = '\n' || c = '\r'

/-! ## Parts -/

/-- A part of a definition. -/
inductive Part where
  | name
  | sign
  | value
deriving DecidableEq, Repr

namespace Part

/-- The longest such part at the beginning of a text. No part is empty, so nothing stands for
none. -/
def longest (part : Part) (cs : List Char) : List Char :=
  match part with
  | name => cs.takeWhile fun c => c ≠ '=' && !endsLine c
  | sign => (cs.take 1).takeWhile (· = '=')
  | value => cs.takeWhile fun c => !endsLine c

/-- Whether a definition may end in front of the part. -/
def isOptional : Part → Bool
  | value => true
  | name | sign => false

end Part

/-- The parts of a definition in their order. -/
def grammar : List Part := [.name, .sign, .value]

/-- Reads the parts of a text whose first character has the column `here`, when the part before it
began in the column `last`. An error is a column: that of the character at which the next part does
not begin or, if the text ends too early, that of the last part. -/
def scan (here last : Nat) : List Part → List Char → Except Nat (List (Part × List Char))
  | [], [] => .ok []
  | [], _ :: _ => .error here
  | part :: parts, [] => if (part :: parts).all Part.isOptional then .ok [] else .error last
  | part :: parts, c :: cs =>
    let text := part.longest (c :: cs)
    if text = [] then .error here
    else
      (scan (here + text.length) here parts ((c :: cs).drop text.length)).map ((part, text) :: ·)

/-! ## Reading -/

/-- The text of a part, which is empty if the part has been left out. -/
def textOf (part : Part) (found : List (Part × List Char)) : String :=
  String.ofList ((found.lookup part).getD [])

/-- Reads the definition on a line: a name and the value that it gets. -/
def read (line : Int) (cs : List Char) : Except SyntaxError (String × String) :=
  match scan 1 1 grammar cs with
  | .ok found => .ok (textOf .name found, textOf .value found)
  | .error col =>
    .error ⟨if cs.head? = some '=' then .missingName else .missingSign, line, col⟩

/-! ## Files of definitions

A file holds one definition a line. Blank lines count as lines and hold nothing, and the last
definition of a name is the one that counts.
-/

/-- Reads the definitions on some lines, the first of which has the number `line`. -/
def readLines (line : Int) : List (List Char) → Except SyntaxError (List (String × String))
  | [] => .ok []
  | cs :: lines =>
    if cs.all Text.isBlank then readLines (line + 1) lines
    else do
      let definition ← read line cs
      return definition :: (← readLines (line + 1) lines)

/-- Reads all the definitions of a file. -/
def readFile (cs : List Char) : Except SyntaxError (List (String × String)) :=
  readLines 1 (Text.entryLines cs)

/-- The text of an error in the file `path`. -/
def SyntaxError.messageIn (e : SyntaxError) (path : String) : String :=
  s!"{path}:{e.line}: {e.fault.message}"

/-! ## Loading definitions

Definitions are loaded from a file by its path, which every error names.
-/

/-- Why definitions cannot be loaded. -/
inductive LoadError where
  /-- The file cannot be opened. -/
  | unreadable (error : FileError)
  /-- The file holds no text. -/
  | undecodable (fault : Text.Utf8.Fault)
  /-- A definition is faulty. -/
  | malformed (error : SyntaxError)
deriving DecidableEq, Repr

/-- The text of an error in the file `path`. -/
def LoadError.message (path : String) : LoadError → String
  | unreadable error => s!"{path}: {error.message path}"
  | undecodable fault => s!"{path}: {fault.message}"
  | malformed error => error.messageIn path

/-- Loads the definitions of a file. -/
def load (fs : FileSystem) (path : String) : Except LoadError (List (String × String)) := do
  let content ← (fs.read path).mapError .unreadable
  let text ← (Text.Utf8.decode content).mapError .undecodable
  (readFile text).mapError .malformed

end ParamExpansion.Definition
