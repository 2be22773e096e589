import ParamExpansion.CommandLine.Word
import ParamExpansion.Text.Case

/-!
# Reading a command line

Options and their arguments are taken from left to right. The operands are the first words in a row
that belong to no option; any later ones have no meaning. Words without a meaning are an error, once
everything else is in order.

An attached `--` stands for no argument: it satisfies the option and gives it nothing.
-/

namespace ParamExpansion.CommandLine

/-- What a command line asks for. -/
structure Options where
  /-- Whether a value that is missing is an error where no default is given. -/
  strict : Bool := false
  /-- The definitions, with a gap for each option that is given none. -/
  definitions : List (Option (String × String)) := []
  /-- The files of definitions, with a gap for each option that is given none. -/
  variableFiles : List (Option String) := []
  /-- Whether the environment is used, if the command line says so. -/
  useEnvironment : Option Bool := none
  input : Option String := none
  output : Option String := none
  /-- The highest level of the events to record. -/
  verbosity : Nat := 0
  debugFile : Option String := none
  /-- Whether the templates are stored and not expanded. -/
  emit : Bool := false
  /-- Where stored templates are read from. -/
  stored : Option String := none
  operands : List String := []
deriving DecidableEq, Repr

/-- Why a command line is not carried out. -/
inductive Stop where
  | usage (error : UsageError)
  /-- The command line asks for help. -/
  | help
  /-- The command line asks for the version. -/
  | version
deriving DecidableEq, Repr

/-! ## Single options -/

/-- The truth value that a word denotes. Case does not matter. -/
def boolean? (word : String) : Option Bool :=
  let lowered := String.ofList (Text.lower word.toList)
  if lowered ∈ ["true", "1", "yes"] then some true
  else if lowered ∈ ["false", "0", "no"] then some false
  else none

namespace Options

/-- Carries out an option that has no argument. -/
def enable (o : Options) : Flag → Except Stop Options
  | .help => .error .help
  | .version => .error .version
  | .noUnset => .ok { o with strict := true }
  | .debug => .ok { o with verbosity := o.verbosity + 1 }
  | .envVars => .ok { o with useEnvironment := some true }
  | .emitAst =>
    if o.stored.isSome then .error (.usage (.conflict .emitAst .ast))
    else .ok { o with emit := true }
  | _ => .ok o

/-- Carries out an option that has an argument, unless `--` stands for it. -/
def assign (o : Options) (flag : Flag) (argument? : Option String) : Except Stop Options :=
  match flag, argument? with
  | .var, none => .ok { o with definitions := o.definitions ++ [none] }
  | .var, some argument =>
    match Definition.read 1 argument.toList with
    | .ok definition => .ok { o with definitions := o.definitions ++ [some definition] }
    | .error e => .error (.usage (.badDefinition flag e.fault))
  | .varFile, _ => .ok { o with variableFiles := o.variableFiles ++ [argument?] }
  | .envVars, none => o.enable flag
  | .envVars, some argument =>
    match boolean? argument with
    | some b => .ok { o with useEnvironment := some b }
    | none => .error (.usage (.badBoolean flag argument))
  | .input, _ => .ok { o with input := argument? }
  | .output, _ => .ok { o with output := argument? }
  | .debugFile, _ => .ok { o with debugFile := argument? }
  | .ast, _ =>
    if o.emit then .error (.usage (.conflict .ast .emitAst))
    else
      -- No file is named by an empty text, but the option has been given.
      .ok { o with stored := some (argument?.getD "") }
  | _, _ => .ok o

end Options

/-! ## Options of one word -/

/-- The options of one word. -/
structure Cluster where
  /-- The options that have no argument. -/
  plain : List Flag := []
  /-- The option behind them, and its argument unless `--` stands for that. -/
  last : Option (Flag × Option String) := none
  /-- The word, if it has no meaning. -/
  leftover : Option String := none
  /-- Whether the argument is the next word. -/
  takesNext : Bool := false
deriving DecidableEq, Repr

namespace Cluster

/-- One option more, in front. -/
def cons (flag : Flag) (c : Cluster) : Cluster := { c with plain := flag :: c.plain }

/-- An option to which nothing is attached, before the operand `next?`, if that is the next word. -/
def bare (flag : Flag) (next? : Option String) : Except UsageError Cluster :=
  match flag.arity, next? with
  | .none, _ | .optional, none => .ok { plain := [flag] }
  | .one, none => .error (.missingArgument flag)
  | _, some argument => .ok { last := some (flag, some argument), takesNext := true }

/-- An option to which its argument is attached. -/
def withArgument (flag : Flag) (argument : String) : Except UsageError Cluster :=
  if flag.arity = .none then .error (.ignoredArgument flag argument)
  else .ok { last := some (flag, if argument = "--" then none else some argument) }

/-- A short option to which a text is attached. If the option has no argument, the text spells more
short options. -/
def ofShort (flag : Flag) (next? : Option String) : List Char → Except UsageError Cluster
  | [] => withArgument flag ""
  | c :: rest =>
    match flag.arity, Flag.ofSpelling? (String.ofList ['-', c]), rest with
    | .none, some further, [] => (bare further next?).map (cons flag)
    | .none, some further, rest => (ofShort further next? rest).map (cons flag)
    | _, _, rest => withArgument flag (String.ofList (c :: rest))

/-- The options of a word, before the operand `next?`, if that is the next word. -/
def ofWord (w : OptionWord) (next? : Option String) : Except UsageError Cluster :=
  match w.flag?, w.attachment? with
  | none, _ => .ok { leftover := some w.word }
  | some flag, none => bare flag next?
  | some flag, some attachment =>
    if w.short then ofShort flag next? attachment.toList else withArgument flag attachment

end Cluster

/-! ## All words -/

/-- Which operands may come. -/
inductive OperandPhase where
  | before | within | after
deriving DecidableEq, Repr

/-- How far the reading of a command line has got. -/
structure Progress where
  options : Options := {}
  /-- Words without a meaning. -/
  extra : List String := []
  phase : OperandPhase := .before
deriving DecidableEq, Repr

namespace Progress

/-- Takes the options of a word. -/
def takeOptions (p : Progress) (c : Cluster) : Except Stop Progress := do
  let enabled ← c.plain.foldlM Options.enable p.options
  let options ←
    match c.last with
    | some (flag, argument?) => enabled.assign flag argument?
    | none => pure enabled
  return { options, extra := p.extra ++ c.leftover.toList,
           phase := if p.phase = .before then .before else .after }

/-- Takes a word that belongs to no option. The separator is no operand itself. -/
def takeOperand (p : Progress) (text : String) (isSeparator : Bool) : Progress :=
  if p.phase = .after then { p with extra := p.extra ++ [text] }
  else
    { p with
      options.operands := p.options.operands ++ if isSeparator then [] else [text]
      phase := .within }

/-- The operand at the beginning of some words. -/
def operand? : List Word → Option String
  | .operand text :: _ => some text
  | _ => none

/-- Takes the words of a command line. -/
def takeWords (p : Progress) : List Word → Except Stop Progress
  | [] => return p
  | .separator :: words => takeWords (p.takeOperand "--" true) words
  | .operand text :: words => takeWords (p.takeOperand text false) words
  | .option w :: words => do
    let c ← (Cluster.ofWord w (operand? words)).mapError .usage
    let p ← p.takeOptions c
    takeWords p (if c.takesNext then words.drop 1 else words)
termination_by words => words.length
decreasing_by
  · exact Nat.lt_succ_self _
  · exact Nat.lt_succ_self _
  · split
    · simp only [List.length_drop, List.length_cons]; omega
    · exact Nat.lt_succ_self _

end Progress

/-- What the words of a command line ask for. -/
def Options.ofWords (words : List String) : Except Stop Options := do
  let p ← Progress.takeWords {} (← (Word.readAll words).mapError .usage)
  if p.extra ≠ [] then throw (.usage (.unrecognized p.extra))
  return p.options

end ParamExpansion.CommandLine
