import ParamExpansion.Definition
import ParamExpansion.Text.Classes
import ParamExpansion.Text.Quoted

/-!
# Words of a command line

Every word is an option, perhaps with something attached to it, or an operand. A long option may be
abbreviated, and its argument follows an equals sign. Behind a short option the argument or further
short options follow, and one equals sign may stand before them. Negative numbers and words with a
blank in them are operands unless they start like an option, and so is everything behind the first
`--`.
-/

namespace ParamExpansion.CommandLine

/-! ## Options

The options, how they are spelled, and how many arguments they take.
-/

/-- An option. -/
inductive Flag where
  | help | noUnset | var | varFile | envVars | input | output | debug | debugFile | emitAst | ast
  | version
deriving DecidableEq, Repr

/-- How many arguments follow an option. -/
inductive Arity where
  | none | one
  /-- At most one. -/
  | optional
deriving DecidableEq, Repr

namespace Flag

/-- All options. -/
def all : List Flag :=
  [.help, .noUnset, .var, .varFile, .envVars, .input, .output, .debug, .debugFile, .emitAst, .ast,
   .version]

/-- The short spelling. -/
def short? : Flag → Option String
  | help => "-h"
  | noUnset => "-u"
  | var => "-v"
  | varFile => "-f"
  | envVars => "-e"
  | input => "-i"
  | output => "-o"
  | debug => "-d"
  | debugFile | emitAst | ast | version => none

/-- The long spelling. -/
def long : Flag → String
  | help => "--help"
  | noUnset => "--no-unset"
  | var => "--var"
  | varFile => "--var-file"
  | envVars => "--env-vars"
  | input => "--input"
  | output => "--output"
  | debug => "--debug"
  | debugFile => "--debug-file"
  | emitAst => "--emit-ast"
  | ast => "--ast"
  | version => "--version"

/-- How many arguments follow. -/
def arity : Flag → Arity
  | help | noUnset | debug | emitAst | version => .none
  | var | varFile | input | output | debugFile | ast => .one
  | envVars => .optional

/-- All spellings, the short one first. -/
def spellings (flag : Flag) : List String := flag.short?.toList ++ [flag.long]

/-- How a message calls the option. -/
def label (flag : Flag) : String := "/".intercalate flag.spellings

/-- The option with this spelling. -/
def ofSpelling? (s : String) : Option Flag := all.find? (s ∈ ·.spellings)

/-- The options whose long spellings begin so. -/
def abbreviatedBy (s : String) : List Flag :=
  all.filter fun flag => s.toList.isPrefixOf flag.long.toList

end Flag

/-! ## Why a command line is rejected -/

/-- What is wrong with a command line. -/
inductive UsageError where
  /-- The word abbreviates several options. -/
  | ambiguous (word : String) (candidates : List Flag)
  /-- The argument of an option is missing. -/
  | missingArgument (flag : Flag)
  /-- The option takes no argument, but one is attached to it. -/
  | ignoredArgument (flag : Flag) (argument : String)
  /-- The argument is no truth value. -/
  | badBoolean (flag : Flag) (argument : String)
  /-- The argument is no definition. -/
  | badDefinition (flag : Flag) (fault : Definition.Fault)
  /-- The option cannot be used together with another one. -/
  | conflict (flag other : Flag)
  /-- Some words have no meaning. -/
  | unrecognized (words : List String)
deriving DecidableEq, Repr

/-- The text of the error. -/
def UsageError.message : UsageError → String
  | ambiguous word candidates =>
    s!"ambiguous option: {word} could match " ++ ", ".intercalate (candidates.map (·.long))
  | missingArgument flag => s!"argument {flag.label}: expected one argument"
  | ignoredArgument flag argument =>
    s!"argument {flag.label}: ignored explicit argument {Text.quote argument}"
  | badBoolean flag argument =>
    s!"argument {flag.label}: invalid boolean value: {Text.quote argument}"
  | badDefinition flag fault => s!"argument {flag.label}: {fault.message}"
  | conflict flag other => s!"argument {flag.label}: not allowed with argument {other.label}"
  | unrecognized words => "unrecognized arguments: " ++ " ".intercalate words

/-! ## Words -/

/-- An option as a word spells it. -/
structure OptionWord where
  /-- The option, unless there is none of this spelling. -/
  flag? : Option Flag
  /-- The whole word. -/
  word : String
  /-- Whether the spelling is the short one. -/
  short : Bool := false
  /-- What is attached to it, without the equals sign before it. -/
  attachment? : Option String := none
deriving DecidableEq, Repr

/-- What a word is. -/
inductive Word where
  | option (option : OptionWord)
  /-- The first `--`. -/
  | separator
  | operand (text : String)
deriving DecidableEq, Repr

namespace Word

/-- A text before the first equals sign, and what follows the sign. -/
def splitSign (cs : List Char) : List Char × Option (List Char) :=
  (cs.takeWhile (· ≠ '='), (cs.dropWhile (· ≠ '=')).tail?)

/-- Whether the digits are those of a number, perhaps with a point in it. -/
def isNumber (cs : List Char) : Bool :=
  let isDigit (c : Char) : Bool := (Text.decimalDigit? c).isSome
  let whole := cs.takeWhile isDigit
  match cs.drop whole.length with
  | [] => !whole.isEmpty
  | '.' :: fraction => !fraction.isEmpty && fraction.all isDigit
  | _ => false

/-- Whether a word is a negative number. A line feed may end it. -/
def isNegativeNumber (cs : List Char) : Bool :=
  match cs with
  | '-' :: digits =>
    isNumber (if digits.getLast? = some '\n' then digits.dropLast else digits)
  | _ => false

/-- The option that starts with two dashes and is not spelled out. -/
def abbreviation? (word : String) : Except UsageError (Option OptionWord) :=
  let (name, attachment?) := splitSign word.toList
  match Flag.abbreviatedBy (String.ofList name) with
  | [] => .ok none
  | [flag] =>
    .ok (some { flag? := some flag, word, attachment? := attachment?.map String.ofList })
  | flags => .error (.ambiguous word flags)

/-- The short option that a word starts with. -/
def cluster? (word : String) : Option OptionWord :=
  (Flag.ofSpelling? (String.ofList (word.toList.take 2))).map fun flag =>
    { flag? := some flag, word, short := true,
      attachment? := some (String.ofList (word.toList.drop 2)) }

/-- The option that a word spells out, before an equals sign if there is one. -/
def spelledOut? (word : String) : Option OptionWord :=
  match Flag.ofSpelling? word with
  | some flag => some { flag? := some flag, word, short := flag.short? = some word }
  | none =>
    match splitSign word.toList with
    | (name, some attachment) =>
      (Flag.ofSpelling? (String.ofList name)).map fun flag =>
        { flag? := some flag, word, short := flag.short? = some (String.ofList name),
          attachment? := some (String.ofList attachment) }
    | (_, none) => none

/-- What a word before the first `--` is. -/
def read (word : String) : Except UsageError Word := do
  let cs := word.toList
  if cs.head? ≠ some '-' ∨ cs.length = 1 then return .operand word
  match spelledOut? word with
  | some spelled => return .option spelled
  | none =>
    match ← if cs[1]? = some '-' then abbreviation? word else pure (cluster? word) with
    | some begun => return .option begun
    | none =>
      if isNegativeNumber cs ∨ ' ' ∈ cs then return .operand word
      else return .option { flag? := none, word }

/-- What the words of a command line are. -/
def readAll : List String → Except UsageError (List Word)
  | [] => return []
  | word :: words =>
    if word = "--" then return .separator :: words.map .operand
    else do return (← read word) :: (← readAll words)

end Word

end ParamExpansion.CommandLine
