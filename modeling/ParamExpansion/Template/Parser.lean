import ParamExpansion.Template
import ParamExpansion.Token
import ParamExpansion.Token.Lexer

/-!
# From tokens to templates

A parser holds its source of tokens, at most one token that it has looked at and not taken, and the
number of braces that it has opened. The grammar it reads:

    template   := node*
    node       := TEXT | '$' param
    param      := '{' braced '}' | identifier
    braced     := '#' identifier?
                | '!' identifier
                | identifier case-mark case-mark?        the same mark twice
                | identifier ':'? '-' node
                | identifier ':'? '+' node
                | identifier ':'? '?' TEXT?
                | identifier
    identifier := IDENT | INDEX

The first error ends a run. The parser can be used further then, from where the run has left it.
-/

namespace ParamExpansion

/-! ## Why a text is no template

The causes of syntax errors and their messages. An error lies where the last token that was taken
stops.
-/

/-- What is wrong with a text. -/
inductive ParseError.Cause where
  /-- A token of one class was required. -/
  | expected (wanted : Token.Class) (found : Option Token.Kind)
  /-- A name or an index was required. -/
  | expectedIdentifier (found : Option Token.Kind)
  /-- The text ends where a text or a parameter was required. -/
  | missingNode
  /-- The token starts neither a text nor a parameter. -/
  | unexpectedToken (found : Token.Kind)
  /-- Too many parameters are open at the same time. -/
  | nestingTooDeep
  /-- The text ends behind an opening brace. -/
  | missingParam
  /-- The text ends behind the sign for lengths. -/
  | missingLengthOperand
  /-- The text ends inside a parameter. -/
  | unterminatedParam
  /-- The token cannot follow at this place of a parameter. -/
  | misplacedToken (found : Token.Kind)
deriving DecidableEq, Repr

/-- A syntax error and its place. -/
structure ParseError where
  cause : ParseError.Cause
  position : Position
deriving DecidableEq, Repr

/-- The text of a syntax error. -/
def ParseError.message (e : ParseError) : String :=
  match e.cause with
  | .expected wanted found => s!"Expected '{wanted.label}', found {Token.describe found}"
  | .expectedIdentifier found => s!"Expected identifier, found {Token.describe found}"
  | .missingNode => "Unexpected EOF"
  | .unexpectedToken found => s!"Unexpected token {found.describe}"
  | .nestingTooDeep => "Nesting too deep"
  | .missingParam => "Expected param, found EOF"
  | .missingLengthOperand => "Expected identifier or close brace, found EOF"
  | .unterminatedParam => "Invalid param, unexpected EOF"
  | .misplacedToken found => s!"Invalid param, unexpected token {found.describe}"

/-! ## Parsers -/

/-- How far the parsing of a source of tokens has got. -/
structure Parser (σ : Type) where
  source : σ
  /-- The token that has been looked at and not taken. -/
  lookahead : Option Token := none
  /-- Where the token taken last stops. -/
  position : Option Position := none
  /-- The number of braced parameters that have been opened and not been completed. -/
  depth : Nat := 0

/-- A run of the parser, which ends with a value or an error and leaves a parser behind. -/
abbrev ParserM (σ : Type) := EStateM ParseError (Parser σ)

namespace Parser

variable {σ : Type} [TokenSource σ]

/-- The largest number of braced parameters open at the same time. -/
def maxNesting : Nat := 100

/-! ## Single tokens -/

/-- Ends the run with an error at the place reached. -/
def fail {α : Type} (cause : ParseError.Cause) : ParserM σ α := fun p =>
  .error ⟨cause, p.position.getD .start⟩ p

/-- The next token, which stays to be taken. -/
def peek : ParserM σ (Option Token) := fun p =>
  match p.lookahead with
  | some t => .ok (some t) p
  | none =>
    match TokenSource.next? p.source with
    | some (t, source) => .ok (some t) { p with source, lookahead := some t }
    | none => .ok none p

/-- Takes the next token. -/
def next : ParserM σ (Option Token) := do
  match ← peek with
  | some t =>
    modify fun p => { p with lookahead := none, position := some t.stop }
    return some t
  | none => return none

/-- Takes the next token, which has been looked at. -/
def skip : ParserM σ Unit := do
  let _ ← next

/-- Whether the next token is of the class. -/
def sees (wanted : Token.Class) : ParserM σ Bool :=
  return (← peek).any (·.kind.tokenClass = wanted)

/-- Takes the next token, which has to be of the class. A token of another class is taken too. -/
def expect (wanted : Token.Class) : ParserM σ Token := do
  match ← next with
  | some t => if t.kind.tokenClass = wanted then return t else fail (.expected wanted t.kind)
  | none => fail (.expected wanted none)

/-! ## Parameters -/

/-- A name or an index. -/
def identifier : ParserM σ Identifier := do
  match (← next).map Token.kind with
  | some (.name x) => return .named x
  | some (.index n) => return .index n
  | found => fail (.expectedIdentifier found)

/-- The parameter for a length or for the number of positional values, behind the sign. -/
def lengthOrArity (start : Position) : ParserM σ Node := do
  match (← peek).map Token.kind with
  | none => fail .missingLengthOperand
  | some (.mark .closeBrace) => return .arity start
  | some _ => return .length (← identifier) start

/-- A parameter with a change of case, from the first sign on. Twice the same sign changes all
characters. -/
def caseParam (id : Identifier) (k : CaseChange) (start : Position) : ParserM σ Node := do
  skip
  let all ← sees (.caseMark k)
  if all then skip
  return .simple id (some { change := k, all }) start

/-- The message of a parameter that requires a value, if there is one. -/
def errorMessage? : ParserM σ (Option String) := do
  match (← peek).map Token.kind with
  | some (.text message) =>
    skip
    return some message
  | _ => return none

/-- What follows the identifier of a braced parameter, and the colon if there is one. -/
def operation (payload : ParserM σ Node) (id : Identifier) (emptyIsUnset : Bool)
    (start : Position) : ParserM σ Node := do
  match (← peek).map Token.kind with
  | none => fail .unterminatedParam
  | some (.mark .dash) =>
    skip
    return .withDefault id (← payload) emptyIsUnset start
  | some (.mark .plus) =>
    skip
    return .withAlternative id (← payload) emptyIsUnset start
  | some (.mark .question) =>
    skip
    return .withError id (← errorMessage?) emptyIsUnset start
  | some found =>
    if found = .mark .closeBrace ∧ emptyIsUnset = false then return .simple id none start
    else fail (.misplacedToken found)

/-- What follows the identifier of a braced parameter without a change of case. -/
def conditional (payload : ParserM σ Node) (id : Identifier) (start : Position) :
    ParserM σ Node := do
  let emptyIsUnset ← sees (.mark .colon)
  if emptyIsUnset then skip
  operation payload id emptyIsUnset start

/-- What stands between the braces of a parameter. -/
def braced (payload : ParserM σ Node) (start : Position) : ParserM σ Node := do
  match (← peek).map Token.kind with
  | none => fail .missingParam
  | some (.mark .pound) =>
    skip
    lengthOrArity start
  | some (.mark .bang) =>
    skip
    return .indirect (← identifier) start
  | some _ =>
    let id ← identifier
    match (← peek).map Token.kind with
    | none => fail .unterminatedParam
    | some (.caseMark k) => caseParam id k start
    | some _ => conditional payload id start

/-- A parameter from behind its dollar sign on. Without a parser for payloads no brace may be opened
any more. -/
def param (payload : Option (ParserM σ Node)) (start : Position) : ParserM σ Node := do
  if ← sees (.mark .openBrace) then
    skip
    modify fun p => { p with depth := p.depth + 1 }
    match payload with
    | none => fail .nestingTooDeep
    | some payload =>
      let node ← braced payload start
      let _ ← expect (.mark .closeBrace)
      modify fun p => { p with depth := p.depth - 1 }
      return node
  else
    return .simple (← identifier) none start

/-! ## Nodes -/

/-- The node that starts with the next token, which is `t`. -/
def nodeFrom (payload : Option (ParserM σ Node)) (t : Token) : ParserM σ Node :=
  match t.kind with
  | .text value => do
    skip
    return .text value
  | .mark .dollar => do
    skip
    param payload t.start
  | found => fail (.unexpectedToken found)

/-- A node, whose payload, should it have one, is read by `payload`. -/
def nodeOver (payload : Option (ParserM σ Node)) : ParserM σ Node := do
  match ← peek with
  | none => fail .missingNode
  | some t => nodeFrom payload t

/-- A node in which at most `room` braced parameters are open at the same time. -/
def nodeWithin : (room : Nat) → ParserM σ Node
  | 0 => nodeOver none
  | room + 1 => nodeOver (some (nodeWithin room))

/-- A node. -/
def node : ParserM σ Node := fun p => nodeWithin (maxNesting - p.depth) p

/-! ## What the parser is composed of -/

/-- Runs a part of the parser inside a pair of braces. -/
def inBraces {α : Type} (m : ParserM σ α) : ParserM σ α := do
  modify fun p => { p with depth := p.depth + 1 }
  let a ← m
  modify fun p => { p with depth := p.depth - 1 }
  return a

section Parts

variable {τ : Type} [TokenSource τ]

/-- Whether two parts of the parser, each over a source of its own, are composed of the same basic
parts in the same way. All functions of the parser are, so what the ways of composing preserve holds
of each of them. -/
inductive Composed : {α : Type} → ParserM σ α → ParserM τ α → Prop where
  | pure {α : Type} (a : α) : Composed (Pure.pure a) (Pure.pure a)
  | fail {α : Type} (cause : ParseError.Cause) :
      Composed (Parser.fail cause : ParserM σ α) (Parser.fail cause)
  | peek : Composed Parser.peek Parser.peek
  | next : Composed Parser.next Parser.next
  | bind {α β : Type} {m : ParserM σ α} {m' : ParserM τ α} {f : α → ParserM σ β}
      {f' : α → ParserM τ β} (hm : Composed m m') (hf : ∀ a, Composed (f a) (f' a)) :
      Composed (m >>= f) (m' >>= f')
  | inBraces {α : Type} {m : ParserM σ α} {m' : ParserM τ α} (hm : Composed m m') :
      Composed (Parser.inBraces m) (Parser.inBraces m')
  /-- What is run may depend on the number of open braces. -/
  | atDepth {α : Type} {f : Nat → ParserM σ α} {f' : Nat → ParserM τ α}
      (hf : ∀ n, Composed (f n) (f' n)) : Composed (fun p => f p.depth p) fun p => f' p.depth p

namespace Composed

theorem skip : Composed (skip : ParserM σ Unit) (skip : ParserM τ Unit) :=
  .bind .next fun _ => .pure _

theorem sees (wanted : Token.Class) :
    Composed (sees wanted : ParserM σ Bool) (sees wanted : ParserM τ Bool) :=
  .bind .peek fun _ => .pure _

theorem expect (wanted : Token.Class) :
    Composed (expect wanted : ParserM σ Token) (expect wanted : ParserM τ Token) := by
  apply Composed.bind .next
  intro a
  cases a with
  | none => exact .fail _
  | some t =>
    dsimp only
    split
    · exact .pure t
    · exact .fail _

theorem identifier :
    Composed (identifier : ParserM σ Identifier) (identifier : ParserM τ Identifier) := by
  apply Composed.bind .next
  intro a
  split
  · exact .pure _
  · exact .pure _
  · exact .fail _

theorem lengthOrArity (start : Position) :
    Composed (lengthOrArity start : ParserM σ Node) (lengthOrArity start : ParserM τ Node) := by
  apply Composed.bind .peek
  intro a
  split
  · exact .fail _
  · exact .pure _
  · exact .bind .identifier fun _ => .pure _

theorem caseParam (id : Identifier) (k : CaseChange) (start : Position) :
    Composed (caseParam id k start : ParserM σ Node) (caseParam id k start : ParserM τ Node) := by
  apply Composed.bind .skip
  intro _
  apply Composed.bind (.sees _)
  intro all
  split
  · exact .bind .skip fun _ => .pure _
  · exact .pure _

theorem errorMessage? : Composed (errorMessage? : ParserM σ (Option String))
    (errorMessage? : ParserM τ (Option String)) := by
  apply Composed.bind .peek
  intro a
  split
  · exact .bind .skip fun _ => .pure _
  · exact .pure _

section Payload

variable {payload : ParserM σ Node} {payload' : ParserM τ Node} (hp : Composed payload payload')
include hp

theorem operation (id : Identifier) (emptyIsUnset : Bool) (start : Position) :
    Composed (operation payload id emptyIsUnset start)
      (operation payload' id emptyIsUnset start) := by
  apply Composed.bind .peek
  intro a
  split
  · exact .fail _
  · exact .bind .skip fun _ => .bind hp fun _ => .pure _
  · exact .bind .skip fun _ => .bind hp fun _ => .pure _
  · exact .bind .skip fun _ => .bind .errorMessage? fun _ => .pure _
  · split
    · exact .pure _
    · exact .fail _

theorem conditional (id : Identifier) (start : Position) :
    Composed (conditional payload id start) (conditional payload' id start) := by
  apply Composed.bind (.sees _)
  intro emptyIsUnset
  split
  · exact .bind .skip fun _ => hp.operation id _ start
  · exact hp.operation id _ start

theorem braced (start : Position) : Composed (braced payload start) (braced payload' start) := by
  apply Composed.bind .peek
  intro a
  split
  · exact .fail _
  · exact .bind .skip fun _ => .lengthOrArity start
  · exact .bind .skip fun _ => .bind .identifier fun _ => .pure _
  · apply Composed.bind .identifier
    intro id
    apply Composed.bind .peek
    intro b
    split
    · exact .fail _
    · exact .caseParam id _ start
    · exact hp.conditional id start

end Payload

section Nodes

variable {payload : Option (ParserM σ Node)} {payload' : Option (ParserM τ Node)}
  (hp : Option.Rel Composed payload payload')
include hp

theorem param (start : Position) : Composed (param payload start) (param payload' start) := by
  apply Composed.bind (.sees _)
  intro openBrace
  split
  · apply Composed.bind .skip
    intro _
    cases hp with
    -- Without a payload the brace is one too many, and nothing closes it.
    | none => exact .inBraces (.fail .nestingTooDeep)
    | @some payload payload' hp =>
      -- The closing brace is read before the depth is lowered.
      have hparam := Composed.inBraces (.bind (hp.braced start) fun node =>
        .bind (.expect (.mark .closeBrace)) fun _ => .pure node)
      simp only [Parser.inBraces, bind_assoc, pure_bind] at hparam
      exact hparam
  · exact .bind .identifier fun _ => .pure _

theorem nodeFrom (t : Token) : Composed (nodeFrom payload t) (nodeFrom payload' t) := by
  unfold Parser.nodeFrom
  split
  · exact .bind .skip fun _ => .pure _
  · exact .bind .skip fun _ => .param hp t.start
  · exact .fail _

theorem nodeOver : Composed (nodeOver payload) (nodeOver payload') := by
  apply Composed.bind .peek
  intro a
  cases a with
  | none => exact .fail _
  | some t => exact .nodeFrom hp t

end Nodes

theorem nodeWithin (room : Nat) :
    Composed (nodeWithin room : ParserM σ Node) (nodeWithin room : ParserM τ Node) := by
  induction room with
  | zero => exact .nodeOver .none
  | succ room ih => exact .nodeOver (.some ih)

theorem node : Composed (node : ParserM σ Node) (node : ParserM τ Node) :=
  .atDepth fun depth => .nodeWithin (maxNesting - depth)

end Composed

end Parts

/-! ## Every node takes a token -/

/-- A bound on the number of tokens left. -/
def size (p : Parser σ) : Nat := p.lookahead.toList.length + TokenSource.size p.source

/-- Where a run succeeds, it gives no token back. -/
def Consuming {α : Type} (m : ParserM σ α) : Prop :=
  ∀ (p p' : Parser σ) (a : α), m p = .ok a p' → p'.size ≤ p.size

theorem Consuming.pure {α : Type} (a : α) : Consuming (σ := σ) (Pure.pure a) := by
  intro p p' b h
  cases h
  exact Nat.le_refl _

theorem Consuming.bind {α β : Type} {m : ParserM σ α} {f : α → ParserM σ β} (hm : Consuming m)
    (hf : ∀ a, Consuming (f a)) : Consuming (m >>= f) := by
  intro p p' b h
  simp only [Bind.bind, EStateM.bind] at h
  split at h
  · next a q hq => exact Nat.le_trans (hf a q p' b h) (hm p q a hq)
  · cases h

theorem Consuming.peek : Consuming (peek : ParserM σ (Option Token)) := by
  intro p p' a h
  unfold Parser.peek at h
  split at h
  · cases h; exact Nat.le_refl _
  · next hl =>
    split at h
    · next t s hs =>
      cases h
      have := TokenSource.size_lt_of_next? hs
      simp only [size, hl, Option.toList]
      simp only [List.length_cons, List.length_nil]
      omega
    · cases h; exact Nat.le_refl _

theorem lookahead_of_peek {p p' : Parser σ} {t : Token} (h : peek p = .ok (some t) p') :
    p'.lookahead = some t := by
  unfold peek at h
  split at h
  · next hl => cases h; exact hl
  · split at h <;> cases h; rfl

theorem Consuming.next : Consuming (next : ParserM σ (Option Token)) := by
  refine Consuming.bind Consuming.peek fun a => ?_
  cases a with
  | none => exact Consuming.pure none
  | some t =>
    refine Consuming.bind (fun p p' u h => ?_) fun _ => Consuming.pure (some t)
    cases h
    simp only [size, Option.toList, List.length_nil]
    omega

theorem Consuming.inBraces {α : Type} {m : ParserM σ α} (hm : Consuming m) :
    Consuming (inBraces m) := by
  -- A brace is counted without a look at the tokens.
  have hcount (f : Nat → Nat) :
      Consuming (modify fun p => { p with depth := f p.depth } : ParserM σ PUnit) := by
    intro p p' u h
    cases h
    exact Nat.le_refl _
  exact Consuming.bind (hcount (· + 1)) fun _ => Consuming.bind hm fun a =>
    Consuming.bind (hcount (· - 1)) fun _ => Consuming.pure a

/-- Whatever is composed of the basic parts gives no token back. -/
theorem Composed.consuming {τ : Type} [TokenSource τ] {α : Type} {m : ParserM σ α}
    {m' : ParserM τ α} (hm : Composed m m') : Consuming m := by
  induction hm with
  | pure a => exact Consuming.pure a
  | fail cause => exact fun _ _ _ h => nomatch h
  | peek => exact Consuming.peek
  | next => exact Consuming.next
  | bind _ _ ihm ihf => exact ihm.bind ihf
  | inBraces _ ih => exact ih.inBraces
  | atDepth _ ih => exact fun p => ih p.depth p

theorem skip_of_lookahead {p : Parser σ} {t : Token} (h : p.lookahead = some t) :
    skip p = .ok () { p with lookahead := none, position := some t.stop } := by
  have hp : peek p = .ok (some t) p := by simp only [peek, h]
  simp only [skip, next, Bind.bind, EStateM.bind, hp]
  rfl

private theorem size_lt_of_skip_bind {α : Type} {f : Unit → ParserM σ α}
    (hf : ∀ u, Consuming (f u)) {p p' : Parser σ} {t : Token} {a : α} (hl : p.lookahead = some t)
    (h : (skip >>= f) p = .ok a p') : p'.size < p.size := by
  simp only [Bind.bind, EStateM.bind, skip_of_lookahead hl] at h
  have := hf () _ _ _ h
  simp only [size, hl, Option.toList, List.length_cons, List.length_nil] at this ⊢
  omega

private theorem size_lt_of_nodeFrom {payload : Option (ParserM σ Node)}
    (hp : Option.Rel Composed payload payload) {p p' : Parser σ} {t : Token} {n : Node}
    (hl : p.lookahead = some t) (h : nodeFrom payload t p = .ok n p') : p'.size < p.size := by
  obtain ⟨kind, start, stop⟩ := t
  cases kind with
  | text value => exact size_lt_of_skip_bind (fun _ => Consuming.pure (Node.text value)) hl h
  | mark m =>
    cases m with
    | dollar =>
      have hparam : Composed (param payload start) (param payload start) := .param hp start
      exact size_lt_of_skip_bind (fun _ => hparam.consuming) hl h
    | _ => cases h
  | _ => cases h

/-- Where a node is read, at least one token is taken. -/
theorem size_lt_of_nodeOver {payload : Option (ParserM σ Node)}
    (hp : Option.Rel Composed payload payload) {p p' : Parser σ} {n : Node}
    (h : nodeOver payload p = .ok n p') : p'.size < p.size := by
  simp only [nodeOver, Bind.bind, EStateM.bind] at h
  split at h
  · next a q hq =>
    have hle := Consuming.peek _ _ _ hq
    cases a with
    | none => cases h
    | some t => exact Nat.lt_of_lt_of_le (size_lt_of_nodeFrom hp (lookahead_of_peek hq) h) hle
  · cases h

theorem size_lt_of_nodeWithin {room : Nat} {p p' : Parser σ} {n : Node}
    (h : nodeWithin room p = .ok n p') : p'.size < p.size := by
  cases room with
  | zero => exact size_lt_of_nodeOver .none h
  | succ room => exact size_lt_of_nodeOver (.some (.nodeWithin room)) h

theorem size_lt_of_node {p p' : Parser σ} {n : Node} (h : node p = .ok n p') :
    p'.size < p.size := size_lt_of_nodeWithin h

/-! ## Templates -/

/-- All the nodes from here on. -/
def nodes (p : Parser σ) : EStateM.Result ParseError (Parser σ) (List Node) :=
  match _hp : peek p with
  | .ok none q => .ok [] q
  | .ok (some _) q =>
    match _hq : node q with
    | .ok n r =>
      match nodes r with
      | .ok ns r' => .ok (n :: ns) r'
      | .error e r' => .error e r'
    | .error e r => .error e r
  | .error e q => .error e q
termination_by p.size
decreasing_by exact Nat.lt_of_lt_of_le (size_lt_of_node _hq) (Consuming.peek _ _ _ _hp)

/-- A template, up to the last token. -/
def template : ParserM σ Template := do
  return ⟨← nodes⟩

end Parser

namespace Template

/-- The template that a supply of tokens forms. -/
def ofSource {σ : Type} [TokenSource σ] (source : σ) : Except ParseError Template :=
  match Parser.template { source } with
  | .ok t _ => .ok t
  | .error e _ => .error e

/-- The template that a text forms. -/
def ofString (text : String) : Except ParseError Template := ofSource (Lexer.ofString text)

end Template

end ParamExpansion
