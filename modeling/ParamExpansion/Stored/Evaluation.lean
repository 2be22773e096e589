import ParamExpansion.Expander
import ParamExpansion.Stored

/-!
# Evaluating stored templates

A stored template evaluates as a template does, as far as the values in it are what a template
holds. Other values show where they are used: a name that is no text names no variable, a flag is
any value, what is no number is no index, and a text or a message may be any value, although only
texts can be put together. An index below zero counts back from the last positional value. A name with
a lone surrogate in it can be shown, but no variable has it.
-/

namespace ParamExpansion.Stored

/-- Why a stored template does not evaluate. -/
inductive EvalError where
  /-- A value is missing. -/
  | lacking (message : Json) (place : Option Place)
  /-- There is no change of case of this name. -/
  | unknownChange (name : Json)
  /-- An index counts back too far. -/
  | noSuchIndex
  /-- A value is of a kind that cannot be used in its place. -/
  | unsuited
  /-- The whole template is no sequence. -/
  | notSequence
deriving Repr

/-- How an identifier is shown. A name is shown only if it is a text. -/
def Identifier.shown? : Identifier → Option WideText
  | .named (.string name) => some name
  | .named _ => none
  | .index n => some n.asText

/-- The value with an index. -/
def valueAt (v : Variables) (index : Int) : Except EvalError (Option String) :=
  if index = 0 then .ok (some v.allPositional)
  else if index ≤ v.arity then
    let place := if index < 1 then index - 1 + v.arity else index - 1
    if place < 0 then .error .noSuchIndex else .ok v.positional[place.toNat]?
  else .ok none

/-- The value of an identifier, unless it is unset. -/
def Identifier.resolve (v : Variables) : Identifier → Except EvalError (Option String)
  | .named (.string (.plain name)) => .ok (v.named.get? name)
  | .named (.array _) | .named (.object _) => .error .unsuited
  | .named _ => .ok none
  | .index (.int n) => valueAt v n
  | .index (.bool b) => valueAt v b.toInt
  | .index (.float x) =>
    if x.isZero then .ok (some v.allPositional)
    else if x.atMost v.arity then .error .unsuited
    else .ok none
  | .index _ => .error .unsuited

/-- The change of case of a value. An empty value stays as it is, whatever the change. -/
def Modifier.apply (m : Modifier) (value : String) : Except EvalError String :=
  if value.isEmpty then .ok value
  else
    match m.change with
    | .string (.plain name) =>
      match CaseChange.ofName? name with
      | some change => .ok (change.apply m.all.holds value)
      | none => .error (.unknownChange (.string name))
    | name => .error (.unknownChange name)

/-- The texts of some values, one after the other. -/
def concatenate : List Json → Except EvalError WideText
  | [] => .ok (.plain "")
  | .string text :: values => (concatenate values).map (text ++ ·)
  | _ :: _ => .error .unsuited

/-- An evaluation of a stored template. -/
abbrev Run := Traced WideText EvalError

namespace Run

/-- A step that records nothing. -/
def ofExcept {α : Type} (outcome : Except EvalError α) : Run α := ⟨[], outcome⟩

/-- The text of an identifier. -/
def shown (id : Identifier) : Run WideText :=
  match id.shown? with
  | some text => return text
  | none => throw .unsuited

/-- Records an event, provided that the verbosity reaches its level. The identifier has to be shown
only then. -/
def record (x : Expander) (id : Identifier) (event : WideText → Event WideText) : Run Unit :=
  if (event "").level ≤ x.verbosity then do Traced.record x.verbosity (event (← shown id))
  else return ()

/-- Looks an identifier up. -/
def lookUp (x : Expander) (id : Identifier) : Run (Option String) := do
  let value ← ofExcept (id.resolve x.values)
  record x id (.resolved · value)
  return value

/-- Looks an identifier up for a parameter to which an empty value may count as none. -/
def lookUpUnless (x : Expander) (emptyIsUnset : Json) (id : Identifier) :
    Run (Option String) := do
  let value ← lookUp x id
  return if emptyIsUnset.holds ∧ value = some "" then none else value

/-- Ends the evaluation, since an identifier has no value. -/
def unset {α : Type} (id : Identifier) (orEmpty : Bool) (place : Option Place) : Run α := do
  throw (.lacking (.string (.plain "'" ++ (← shown id) ++ EvalError.Cause.isUnset orEmpty)) place)

/-- What stands for an identifier without a value. -/
def substitute (x : Expander) (id : Identifier) (place : Option Place) (text : String) :
    Run String :=
  if x.values.strict then unset id false place else return text

/-- The value of an identifier, empty if there is none. -/
def require (x : Expander) (id : Identifier) (place : Option Place) : Run String := do
  match ← lookUp x id with
  | some value => return value
  | none => substitute x id place ""

end Run

/-- The value that a node stands for. -/
def Node.evaluate (x : Expander) : Node → Run Json
  | .sequence _ => throw .unsuited
  | .text value => return value
  | .simple id modifier place => do
    let value ← Run.require x id place
    match modifier with
    | some m => return .string (← Run.ofExcept (m.apply value))
    | none => return .string value
  | .length id place => do
    match ← Run.lookUp x id with
    | some value => return .string (toString value.length)
    | none => return .string (← Run.substitute x id place "0")
  | .arity _ => return .string (toString x.values.arity)
  | .indirect id place => do
    let name ← Run.require x id place
    return .string (← Run.require x (.named (.string name)) place)
  | .withDefault id default emptyIsUnset _ => do
    match ← Run.lookUpUnless x emptyIsUnset id with
    | some value => return .string value
    | none =>
      Run.record x id (.took .default ·)
      default.evaluate x
  | .withAlternative id alternative emptyIsUnset _ => do
    match ← Run.lookUpUnless x emptyIsUnset id with
    | some _ =>
      Run.record x id (.took .alternative ·)
      alternative.evaluate x
    | none => return .string ""
  | .withError id message emptyIsUnset place => do
    match ← Run.lookUpUnless x emptyIsUnset id with
    | some value => return .string value
    | none =>
      Run.record x id (.took .error ·)
      match message with
      | .null => Run.unset id emptyIsUnset.holds place
      | message => throw (.lacking message place)

/-- The values that some nodes stand for. -/
def Node.evaluateAll (x : Expander) : List Node → Run (List Json)
  | [] => return []
  | node :: nodes => do
    let value ← node.evaluate x
    return value :: (← evaluateAll x nodes)

end ParamExpansion.Stored

namespace ParamExpansion

/-- The text that a stored template stands for. All its nodes are evaluated before their values are
put together. -/
def Expander.evaluateStored (x : Expander) : Stored.Node → Stored.Run WideText
  | .sequence nodes => do
    Traced.record x.verbosity (.started nodes.length)
    Stored.Run.ofExcept (Stored.concatenate (← Stored.Node.evaluateAll x nodes))
  | _ => throw .notSequence

end ParamExpansion
