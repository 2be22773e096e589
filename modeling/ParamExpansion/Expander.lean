import ParamExpansion.Bindings
import ParamExpansion.Template
import ParamExpansion.Template.Parser
import ParamExpansion.Text.Case
import ParamExpansion.Trace

/-!
# Expansion

An expander replaces the parameters of a template by values. Having no value differs from having an
empty one: `${x-d}` falls back on the default in the first case only, and `${x:-d}` in both. What
has no value and no default is empty, or an error if the variables are strict. Only the payload that
a conditional parameter needs is evaluated.
-/

namespace ParamExpansion

/-! ## Why a text has no expansion

A well formed template fails to evaluate when a value that it requires is missing. The error lies at
the dollar sign of the parameter that requires the value.
-/

/-- What an evaluation lacks. The parameters look up values of type `ι`. -/
inductive EvalError.Cause (ι : Type) where
  /-- The identifier has no value, or an empty one where that counts as none. -/
  | unset (id : ι) (orEmpty : Bool)
  /-- A parameter has a message of its own for the case that its value is missing. -/
  | message (text : String)
deriving DecidableEq, Repr

/-- An error of an evaluation and its place. -/
structure EvalError where
  cause : EvalError.Cause Identifier
  position : Position
deriving DecidableEq, Repr

/-- What the message says behind the name of an identifier without a value. -/
def EvalError.Cause.isUnset (orEmpty : Bool) : String :=
  if orEmpty then "' is unset or empty" else "' is unset"

/-- The text of the error. -/
def EvalError.Cause.describe {ι : Type} [ToString ι] : Cause ι → String
  | .unset id orEmpty => "'" ++ toString id ++ isUnset orEmpty
  | .message text => text

/-- The text of an error of an evaluation. -/
def EvalError.message (e : EvalError) : String := e.cause.describe

/-- Why a text has no expansion. -/
inductive ExpansionError where
  /-- The text is no template. -/
  | parse (error : ParseError)
  /-- The template lacks a value. -/
  | eval (error : EvalError)
deriving DecidableEq, Repr

namespace ExpansionError

/-- The text of the error. -/
def message : ExpansionError → String
  | parse error => error.message
  | eval error => error.message

/-- Where the error lies. -/
def position : ExpansionError → Position
  | parse error => error.position
  | eval error => error.position

end ExpansionError

/-! ## The variables of an expansion

Named variables, positional values, and whether a variable without a value is an error.
-/

/-- What parameters are looked up in. -/
structure Variables where
  named : Bindings := ∅
  /-- The positional values, the first one being number one. -/
  positional : List String := []
  /-- Whether a value that is missing is an error where no default is given. -/
  strict : Bool := false
deriving DecidableEq, Repr

namespace Variables

/-- The number of positional values. -/
def arity (v : Variables) : Nat := v.positional.length

/-- All positional values, with a blank between any two. -/
def allPositional (v : Variables) : String := " ".intercalate v.positional

/-- The value of an identifier, unless it is unset. -/
def resolve (v : Variables) : Identifier → Option String
  | .named name => v.named.get? name
  | .index 0 => some v.allPositional
  | .index (n + 1) => v.positional[n]?

end Variables

/-! ## Expanders -/

/-- The change of case of a value. -/
def Modifier.apply (m : Modifier) (value : String) : String := m.change.apply m.all value

/-- What an expansion depends on, apart from its text. -/
structure Expander where
  values : Variables := {}
  /-- The highest level of the events to record. -/
  verbosity : Nat := 0
deriving DecidableEq, Repr

namespace Expander

/-! ## Values -/

/-- Looks an identifier up. -/
def lookUp (x : Expander) (id : Identifier) : Traced Identifier EvalError (Option String) := do
  let value := x.values.resolve id
  Traced.record x.verbosity (.resolved id value)
  return value

/-- Looks an identifier up for a parameter to which an empty value may count as none. -/
def lookUpUnless (x : Expander) (emptyIsUnset : Bool) (id : Identifier) :
    Traced Identifier EvalError (Option String) := do
  let value ← x.lookUp id
  return if emptyIsUnset ∧ value = some "" then none else value

/-- What stands for an identifier without a value. -/
def substitute (x : Expander) (id : Identifier) (position : Position) (text : String) :
    Traced Identifier EvalError String :=
  if x.values.strict then throw ⟨.unset id false, position⟩ else return text

/-- The value of an identifier, empty if there is none. -/
def require (x : Expander) (id : Identifier) (position : Position) :
    Traced Identifier EvalError String := do
  match ← x.lookUp id with
  | some value => return value
  | none => x.substitute id position ""

/-- Takes a branch of a conditional parameter. -/
def take (x : Expander) (branch : Branch) (id : Identifier) : Traced Identifier EvalError Unit :=
  Traced.record x.verbosity (.took branch id)

/-! ## Templates -/

/-- The text that a node stands for. -/
def evaluateNode (x : Expander) : Node → Traced Identifier EvalError String
  | .text value => return value
  | .simple id modifier position => do
    let value ← x.require id position
    return modifier.elim value (·.apply value)
  | .length id position => do
    match ← x.lookUp id with
    | some value => return toString value.length
    | none => x.substitute id position "0"
  | .arity _ => return toString x.values.arity
  | .indirect id position => do
    let name ← x.require id position
    x.require (.named name) position
  | .withDefault id default emptyIsUnset _ => do
    match ← x.lookUpUnless emptyIsUnset id with
    | some value => return value
    | none =>
      x.take .default id
      x.evaluateNode default
  | .withAlternative id alternative emptyIsUnset _ => do
    match ← x.lookUpUnless emptyIsUnset id with
    | some _ =>
      x.take .alternative id
      x.evaluateNode alternative
    | none => return ""
  | .withError id message emptyIsUnset position => do
    match ← x.lookUpUnless emptyIsUnset id with
    | some value => return value
    | none =>
      x.take .error id
      throw ⟨message.elim (.unset id emptyIsUnset) .message, position⟩

/-- The texts that some nodes stand for, one after the other. -/
def evaluateNodes (x : Expander) : List Node → Traced Identifier EvalError String
  | [] => return ""
  | node :: nodes => do
    let text ← x.evaluateNode node
    return text ++ (← x.evaluateNodes nodes)

/-- The text that a template stands for. -/
def evaluate (x : Expander) (t : Template) : Traced Identifier EvalError String := do
  Traced.record x.verbosity (.started t.nodes.length)
  x.evaluateNodes t.nodes

/-- The expansion of a text. -/
def expand (x : Expander) (text : String) : Traced Identifier ExpansionError String :=
  match Template.ofString text with
  | .ok t => (x.evaluate t).mapError .eval
  | .error e => throw (.parse e)

end Expander

/-! ## Settings

An expander is set up step by step. Definitions of variables add up, and later ones replace earlier
ones; positional values add up; of the other settings the last one counts.
-/

/-- A step of setting an expander up. -/
inductive Setting where
  /-- Whether a value that is missing is an error where no default is given. -/
  | strict (strict : Bool)
  /-- Some variables, for instance those of the environment. -/
  | named (definitions : List (String × String))
  /-- Some positional values. -/
  | positional (values : List String)
  /-- The highest level of the events to record. -/
  | verbosity (level : Nat)
deriving DecidableEq, Repr

namespace Expander

/-- The expander with one setting more. -/
def set (x : Expander) : Setting → Expander
  | .strict strict => { x with values.strict := strict }
  | .named definitions =>
    { x with values.named := x.values.named.insertAll definitions }
  | .positional more => { x with values.positional := x.values.positional ++ more }
  | .verbosity level => { x with verbosity := level }

/-- The expander with some settings, made in their order. -/
def ofSettings (settings : List Setting) : Expander := settings.foldl set {}

end Expander

end ParamExpansion
