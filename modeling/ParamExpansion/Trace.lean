import ParamExpansion.Text.Quoted

/-!
# Traces of an evaluation

What happens while a template is evaluated can be written to a trace. Each event has a level, and an
evaluation of some verbosity records the events up to that level.
-/

namespace ParamExpansion

/-- Which way a conditional parameter goes when it does not stand for its own value. -/
inductive Branch where
  | default | alternative | error
deriving DecidableEq, Repr

/-- How a trace calls the branch. -/
def Branch.name : Branch → String
  | .default => "default"
  | .alternative => "alternative"
  | .error => "error"

/-- Something that happens during an evaluation. The parameters look up values of type `ι`. -/
inductive Event (ι : Type) where
  /-- The evaluation of a template of so many nodes begins. -/
  | started (nodes : Nat)
  /-- An identifier has been looked up. -/
  | resolved (id : ι) (value : Option String)
  /-- A conditional parameter takes a branch. -/
  | took (branch : Branch) (id : ι)
deriving DecidableEq, Repr

namespace Event

variable {ι : Type}

/-- The least verbosity at which the event is recorded. -/
def level : Event ι → Nat
  | .started _ => 1
  | .resolved .. => 2
  | .took .. => 3

/-- The identifiers in the event. -/
def identifiers : Event ι → List ι
  | .started _ => []
  | .resolved id _ | .took _ id => [id]

/-- The line of the trace, without its end. -/
def line [ToString ι] : Event ι → String
  | .started nodes => s!"eval {nodes} node(s)"
  | .resolved id value =>
    let shown := value.elim "None" Text.quote
    s!"resolve {id} -> {shown}"
  | .took branch id => s!"{branch.name} for {id}"

end Event

/-- The outcome of an evaluation and the events on the way to it. -/
structure Traced (ι ε α : Type) where
  events : List (Event ι)
  outcome : Except ε α

namespace Traced

variable {ι ε α β : Type}

/-- Goes on from a value; after an error nothing happens any more. -/
def bind (x : Traced ι ε α) (f : α → Traced ι ε β) : Traced ι ε β :=
  match x.outcome with
  | .ok a => ⟨x.events ++ (f a).events, (f a).outcome⟩
  | .error e => ⟨x.events, .error e⟩

instance : Monad (Traced ι ε) where
  pure a := ⟨[], .ok a⟩
  bind := bind

instance : MonadExcept ε (Traced ι ε) where
  throw e := ⟨[], .error e⟩
  tryCatch x handle :=
    match x.outcome with
    | .ok _ => x
    | .error e => ⟨x.events ++ (handle e).events, (handle e).outcome⟩

/-- Records an event, provided that the verbosity reaches its level. -/
def record (verbosity : Nat) (event : Event ι) : Traced ι ε Unit :=
  ⟨if event.level ≤ verbosity then [event] else [], .ok ()⟩

/-- Changes the error. -/
def mapError {δ : Type} (f : ε → δ) (x : Traced ι ε α) : Traced ι δ α :=
  ⟨x.events, x.outcome.mapError f⟩

end Traced

end ParamExpansion
