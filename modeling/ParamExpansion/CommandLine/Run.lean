import ParamExpansion.CommandLine.Options
import ParamExpansion.Definition
import ParamExpansion.Expander
import ParamExpansion.Json.Printer
import ParamExpansion.Json.Reader
import ParamExpansion.Stored
import ParamExpansion.Stored.Decode
import ParamExpansion.Stored.Evaluation
import ParamExpansion.Text.Streams

/-!
# Running the command

A run reads its variables and its input, and expands the input line by line, stores its templates,
or expands stored templates. The first failure ends the run and is reported; what has been written
before it stays. A report of a fault in the input gives the line and the column.

A run is a function of the world that it finds: the environment, the standard input and the files.
Words of the command line, names and values of the environment and paths are texts here, so none of
them stands for bytes that cannot be decoded. The standard streams carry UTF-8 and nothing else, as in
every locale but C, C.UTF-8 and POSIX.
-/

namespace ParamExpansion.CommandLine

/-! ## Lines of input

Input arrives as bytes and is expanded line by line. Bytes that are no text end the input. If more
bytes could have completed them, the lines before them count, and the place of the fault is counted
from the last complete character on; otherwise no line counts.

Decoding is strict wherever the input comes from, as it is for the standard input in every locale but
C, C.UTF-8 and POSIX. The input arrives in one piece. If it came in several, the lines of the pieces
before a fault would count as well, and the place of the fault would be counted within its piece.
-/

/-- The lines of an input, and the fault that ends it, if there is one. -/
structure Input where
  lines : List String
  fault : Option Text.Utf8.Fault := none
deriving DecidableEq, Repr

namespace Input

/-- The lines of a text that nothing can be added to. A carriage return at the end of the text could
still be followed by a line feed. -/
def completeLines (cs : List Char) : List (List Char) :=
  if cs.getLast? = some '\n' then Text.streamLines cs else (Text.streamLines cs).dropLast

/-- The lines of an input, with their own ends or with line feeds. -/
def ofBytes (unify : Bool) (bytes : List UInt8) : Input :=
  let lines (split : List Char → List (List Char)) (cs : List Char) : List String :=
    (split cs).map fun line =>
      String.ofList (if unify then Text.unifyNewlines line else line)
  match Text.Utf8.decode bytes with
  | .ok cs => { lines := lines Text.streamLines cs }
  | .error fault =>
    -- The bytes before such a fault are known to be text before the fault is.
    if fault.mayBeMended bytes then
      match Text.Utf8.decode (bytes.take fault.start) with
      | .ok cs => { lines := lines completeLines cs, fault := some { fault with start := 0 } }
      | .error _ => { lines := [], fault := some fault }
    else { lines := [], fault := some fault }

end Input

/-! ## Runs -/

/-- What a run finds. -/
structure World where
  environment : List (String × String) := []
  input : List UInt8 := []
  files : FileSystem := {}

/-- Why a run breaks down without a report. -/
inductive Breakdown where
  /-- A file cannot be opened. -/
  | file (error : FileError)
  /-- A file of definitions is asked for and not named. -/
  | unnamedFile
  /-- A definition is asked for and not given. -/
  | noDefinition
  /-- A file of stored templates holds no text. -/
  | undecodable (fault : Text.Utf8.Fault)
  /-- A number of a stored template has too many digits to be read or reported. -/
  | longNumber
  /-- An identifier of a stored template is no object. -/
  | identifierNotObject
  /-- A stored template holds values that cannot be evaluated or reported. -/
  | stored (error : Stored.EvalError)
  /-- A text with a lone surrogate in it cannot be written. -/
  | unencodable

/-- How a run ends. -/
inductive Status where
  | done
  /-- A failure has been reported. -/
  | failed
  /-- The command line has been rejected. -/
  | misused
  | broken (cause : Breakdown)

/-- The exit status of the process. -/
def Status.exitCode : Status → Nat
  | done => 0
  | failed | broken _ => 1
  | misused => 2

/-- What a run leaves behind. -/
structure Outcome where
  /-- The standard output. -/
  output : String := ""
  /-- The standard error output. -/
  messages : String := ""
  files : FileSystem
  status : Status := .done

/-- How the command calls itself. -/
def programName : String := "xpanda"

/-- The version of the command. -/
def programVersion : String := "0.1.0"

/-! ## Steps of a run -/

/-- What a run has done so far. -/
structure RunState where
  files : FileSystem
  /-- The text for the output. -/
  written : String := ""
  messages : String := ""

/-- A part of a run, which a status other than `done` ends. -/
abbrev RunM := EStateM Status RunState

namespace RunM

/-- Writes a line to the standard error output. -/
def say (message : String) : RunM Unit :=
  modify fun s => { s with messages := s.messages ++ message ++ "\n" }

/-- Ends the run with a report. -/
def fail {α : Type} (message : String) : RunM α := do
  say message
  throw .failed

/-- Ends the run without a report. -/
def breakDown {α : Type} (cause : Breakdown) : RunM α := throw (.broken cause)

/-- Writes a text to the output. -/
def write (text : String) : RunM Unit :=
  modify fun s => { s with written := s.written ++ text }

/-- What has been given, or else the run breaks down. -/
def require {α : Type} (cause : Breakdown) : Option α → RunM α
  | some a => return a
  | none => breakDown cause

/-- Changes the files, or breaks down. -/
def changeFiles (change : FileSystem → Except FileError FileSystem) : RunM Unit := do
  match change (← get).files with
  | .ok files => modify fun s => { s with files }
  | .error e => breakDown (.file e)

end RunM

open RunM

namespace Options

/-- An argument that is not empty. -/
def given? (argument : Option String) : Option String := argument.filter (· ≠ "")

/-- Whether the environment is used: as the command line says, or else if it gives no variables of
its own. -/
def usesEnvironment (o : Options) : Bool :=
  o.useEnvironment.getD (o.variableFiles.isEmpty && o.definitions.isEmpty && o.operands.isEmpty)

/-- Writes the lines of a trace to the file for them, or else to the standard error output. -/
def trace (o : Options) (lines : List String) : RunM Unit :=
  match given? o.debugFile with
  | some path => changeFiles (·.append path (String.join (lines.map (· ++ "\n"))))
  | none => lines.forM say

/-- Writes the trace of a stored template. A name with a lone surrogate in it is shown by the standard
error output, but it cannot be written to a file. -/
def traceStored (o : Options) (events : List (Event WideText)) : RunM Unit := do
  let isWritten (event : Event WideText) : Bool :=
    (given? o.debugFile).isNone || event.identifiers.all (·.isPlain)
  o.trace ((events.takeWhile isWritten).map (·.line))
  if !events.all isWritten then breakDown .unencodable

/-! ## Variables -/

/-- Loads the definitions of a file. -/
def loadFile (path : String) : RunM Setting := do
  let path := FileSystem.normalPath path
  match Definition.load (← get).files path with
  | .ok definitions => return .named definitions
  | .error (.unreadable .nullCharacter) => breakDown (.file .nullCharacter)
  | .error e => fail s!"Failed to read var file: {e.message path}"

/-- The settings of a run. Of several definitions of a name, one of the command line is stronger
than one of a file, and that is stronger than the environment. -/
def settings (o : Options) (environment : List (String × String)) : RunM (List Setting) := do
  let files ← o.variableFiles.mapM fun path? => do loadFile (← require .unnamedFile path?)
  let definitions ← o.definitions.mapM (require .noDefinition)
  return [.strict o.strict, .verbosity o.verbosity] ++
    (if o.usesEnvironment then [.named environment] else []) ++ files ++
    [.named definitions, .positional o.operands]

/-! ## Expanding lines -/

/-- Reports an error in the line with the number `line + 1` of the input. -/
def report {α : Type} (line : Nat) (position : Position) (message : String) : RunM α :=
  fail s!"{position.line + line}:{position.col} {message}"

/-- Expands lines, the first of which has the number `line + 1`. -/
def expandLines (o : Options) (x : Expander) : (line : Nat) → List String → RunM Unit
  | _, [] => return ()
  | line, text :: texts => do
    let run := x.expand text
    o.trace (run.events.map (·.line))
    match run.outcome with
    | .ok expansion => write expansion
    | .error e => report line e.position e.message
    expandLines o x (line + 1) texts

/-- The templates of lines, the first of which has the number `line + 1`. -/
def templates : (line : Nat) → List String → RunM (List Template)
  | _, [] => return []
  | line, text :: texts => do
    match Template.ofString text with
    | .ok t => return t :: (← templates (line + 1) texts)
    | .error e => report line e.position e.message

/-- Reports the fault that ends the input. -/
def checkInput (input : Input) : RunM Unit :=
  match input.fault with
  | some fault => fail s!"Failed to read input: {fault.message}"
  | none => return ()

/-- The input of a run. -/
def readInput (o : Options) (standardInput : List UInt8) : RunM Input := do
  match given? o.input with
  | none => return .ofBytes true standardInput
  | some path =>
    let path := FileSystem.normalPath path
    let files := (← get).files
    if files.isMissing path then fail s!"Error: file {path} not found"
    match files.read path with
    | .ok bytes => return .ofBytes false bytes
    | .error e => breakDown (.file e)

/-! ## Stored templates -/

/-- The number of a line that is `line` lines further on than the stored one. -/
def storedLine (line : Nat) : Json → RunM Json
  | .int n => do
    if Json.ReadM.maxDigits < (Nat.toDigits 10 (n + line).natAbs).length then breakDown .longNumber
    return .int (n + line)
  | .bool b => return .int (b.toInt + line)
  | .float x => return .float ⟨(Float.ofBits x.bits + Float.ofNat line).toBits⟩
  | _ => breakDown (.stored .unsuited)

/-- Reports an error in a stored template. -/
def reportStored {α : Type} (line : Nat) (place : Option Stored.Place) (message : Json) :
    RunM α := do
  let place := place.getD Position.start.toStored
  fail s!"{(← storedLine line place.line).label}:{place.col.label} {message.label}"

/-- Expands stored templates, the first of which has the number `line + 1` in the file `path`. -/
def expandStored (o : Options) (x : Expander) (path : String) :
    (line : Nat) → List Json → RunM Unit
  | _, [] => return ()
  | line, document :: documents => do
    match Stored.Node.ofJson document with
    | .error (.identifierNotObject _) => breakDown .identifierNotObject
    | .error e => fail s!"Error: invalid AST #{line + 1} in {path}: {e.message}"
    | .ok node =>
      let run := x.evaluateStored node
      o.traceStored run.events
      match run.outcome with
      | .ok (.plain expansion) => write expansion
      | .ok (.torn ..) => breakDown .unencodable
      | .error (.lacking message place) => reportStored line place message
      | .error e => breakDown (.stored e)
      expandStored o x path (line + 1) documents

/-- The documents of the stored templates in a file. -/
def readStored (path : String) : RunM (List Json) := do
  let files := (← get).files
  if files.isMissing path then fail s!"Error: file {path} not found"
  match files.read path with
  | .error e => breakDown (.file e)
  | .ok bytes =>
    match Text.Utf8.decode bytes with
    | .error fault => breakDown (.undecodable fault)
    | .ok cs =>
      match Json.ofString (String.ofList (Text.unifyNewlines cs)) with
      | .ok (.array documents) => return documents
      | .ok _ => fail s!"Error: {path} does not hold a list of ASTs"
      | .error (.malformed fault position) =>
        fail s!"Error: {path} is not valid JSON: {fault.describe position}"
      | .error .longNumber => breakDown .longNumber

/-! ## The whole run -/

/-- Writes what the command line asks for. -/
def produce (o : Options) (x : Expander) (standardInput : List UInt8) : RunM Unit := do
  match given? o.stored with
  | some path =>
    let path := FileSystem.normalPath path
    o.expandStored x path 0 (← readStored path)
  | none =>
    let input ← o.readInput standardInput
    if o.emit then
      let ts ← templates 0 input.lines
      checkInput input
      write ((Json.array (ts.map (·.toStored.toJson))).toLines ++ "\n")
    else
      o.expandLines x 0 input.lines
      checkInput input

/-- Opens the files that are written to, and does what the command line asks for. Stored templates
replace what the output file holds; an expansion is appended to it. -/
def carryOut (o : Options) (w : World) : RunM Unit := do
  -- A file may be both written to and read, so the order of the steps can be seen.
  match given? o.debugFile with
  | some path => changeFiles (·.clear path)
  | none => pure ()
  let x := Expander.ofSettings (← o.settings w.environment)
  match given? o.output with
  | some path => changeFiles fun fs => if o.emit then fs.clear path else fs.append path ""
  | none => pure ()
  o.produce x w.input

/-- What a run leaves behind, when its output goes where the command line says. -/
def finish (o : Options) (s : RunState) (status : Status) : Outcome :=
  match given? o.output with
  | some path =>
    let files :=
      if s.written.isEmpty then s.files
      else
        match s.files.append path s.written with
        | .ok files => files
        | .error _ => s.files
    { messages := s.messages, files, status }
  | none => { output := s.written, messages := s.messages, files := s.files, status }

end Options

/-- Runs the command. -/
def run (words : List String) (w : World) : Outcome :=
  match Options.ofWords words with
  | .ok o =>
    match o.carryOut w { files := w.files } with
    | .ok _ s => o.finish s .done
    | .error status s => o.finish s status
  | .error .version => { output := s!"{programName} {programVersion}\n", files := w.files }
  | .error .help =>
    { output := s!"usage: {programName} [options] [POSITIONAL ...]\n", files := w.files }
  | .error (.usage e) =>
    { messages := s!"{programName}: error: {e.message}\n", files := w.files, status := .misused }

end ParamExpansion.CommandLine
