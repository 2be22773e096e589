import ParamExpansion.Proofs.Grammar
import ParamExpansion.Proofs.Placement
import ParamExpansion.Proofs.SourceIndependence
import ParamExpansion.Proofs.TokenKinds

/-!
# The parser in front of a list of tokens

In front of a list of tokens the functions of the parser are equations. Each of them is opened here
once, for the tokens that decide what it does.
-/

namespace ParamExpansion

open Token (Kind)

namespace Parser

variable {α β : Type}

/-- A parser in front of `ts` that has not looked at a token. -/
def before (ts : List Token) (position : Option Position) (depth : Nat) : Parser (List Token) :=
  { source := ts, position, depth }

/-- The parser in front of `t :: ts` that has looked at `t`. -/
def looking (t : Token) (ts : List Token) (position : Option Position) (depth : Nat) :
    Parser (List Token) :=
  { source := ts, lookahead := some t, position, depth }

/-- Where the last of some tokens stops, if all of them are taken from `position` on. -/
def behind (position : Option Position) (ts : List Token) : Option Position :=
  ts.foldl (fun _ t => some t.stop) position

@[simp] theorem behind_nil (position : Option Position) : behind position [] = position := rfl

@[simp] theorem behind_cons (position : Option Position) (t : Token) (ts : List Token) :
    behind position (t :: ts) = behind (some t.stop) ts := rfl

@[simp] theorem behind_append (position : Option Position) (ts us : List Token) :
    behind position (ts ++ us) = behind (behind position ts) us := List.foldl_append

/-- Where the last of some tokens stops. -/
theorem behind_eq_getLast? (pos : Option Position) (ts : List Token) :
    behind pos ts = (ts.getLast?.map Token.stop).or pos := by
  induction ts generalizing pos with
  | nil => rfl
  | cons t ts ih =>
    rw [behind_cons, ih, List.getLast?_cons]
    cases ts.getLast? <;> rfl

/-! ## Sequences -/

theorem bind_ok {σ : Type} {m : ParserM σ α} {g : α → ParserM σ β} {p q : Parser σ} {a : α}
    (h : m p = .ok a q) : (m >>= g) p = g a q := by
  simp only [Bind.bind, EStateM.bind, h]

theorem bind_error {σ : Type} {m : ParserM σ α} {g : α → ParserM σ β} {p q : Parser σ}
    {e : ParseError} (h : m p = .error e q) : (m >>= g) p = .error e q := by
  simp only [Bind.bind, EStateM.bind, h]

/-! ## Single tokens -/

/-- The parser with the token it has looked at put back. -/
def settle (p : Parser (List Token)) : Parser (List Token) :=
  { p with source := p.lookahead.toList ++ p.source, lookahead := none }

@[simp] theorem settle_before (ts : List Token) (pos : Option Position) (n : Nat) :
    (before ts pos n).settle = before ts pos n := rfl

@[simp] theorem settle_looking (t : Token) (ts : List Token) (pos : Option Position) (n : Nat) :
    (looking t ts pos n).settle = before (t :: ts) pos n := rfl

theorem peek_settle (p : Parser (List Token)) : peek p.settle = peek p := by
  obtain ⟨source, lookahead, position, depth⟩ := p
  cases lookahead <;> rfl

theorem expect_settle (wanted : Token.Class) (p : Parser (List Token)) :
    expect wanted p.settle = expect wanted p := by
  simp only [expect, next, Bind.bind, EStateM.bind, peek_settle]

section Steps

variable {t u : Token} {ts : List Token} {pos : Option Position} {n : Nat}

theorem peek_before_nil : peek (before [] pos n) = .ok none (before [] pos n) := rfl

theorem peek_before : peek (before (t :: ts) pos n) = .ok (some t) (looking t ts pos n) := rfl

theorem expect_closeBrace (ht : t.kind = .mark .closeBrace) :
    expect (.mark .closeBrace) (before (t :: ts) pos n) = .ok t (before ts (some t.stop) n) := by
  obtain ⟨_, _, _⟩ := t
  cases ht
  rfl

theorem identifier_token {id : Identifier} (ht : t.kind = id.token) :
    identifier (before (t :: ts) pos n) = .ok id (before ts (some t.stop) n) := by
  obtain ⟨_, _, _⟩ := t
  cases id <;> cases ht <;> rfl

/-! ## Parameters -/

variable {payload : ParserM (List Token) Node} {start : Position}

theorem lengthOrArity_closeBrace (ht : t.kind = .mark .closeBrace) :
    lengthOrArity start (before (t :: ts) pos n) = .ok (.arity start) (looking t ts pos n) := by
  obtain ⟨_, _, _⟩ := t
  cases ht
  rfl

theorem lengthOrArity_of_ne_closeBrace (ht : t.kind ≠ .mark .closeBrace) :
    lengthOrArity start (before (t :: ts) pos n) =
      (identifier >>= fun id => pure (.length id start)) (before (t :: ts) pos n) := by
  obtain ⟨kind, _, _⟩ := t
  cases kind with
  | mark m => cases m <;> first | rfl | exact absurd rfl ht
  | _ => rfl

theorem caseParam_of_ne (id : Identifier) {k : CaseChange} (t : Token) (pos : Option Position)
    (n : Nat) (start : Position) (hu : ts.head?.map Token.kind ≠ some (.caseMark k)) :
    ∃ q, caseParam id k start (before (t :: ts) pos n) =
        .ok (.simple id (some { change := k }) start) q ∧
      q.settle = before ts (some t.stop) n := by
  cases ts with
  | nil => exact ⟨_, rfl, rfl⟩
  | cons u ts =>
    obtain ⟨kind, _, _⟩ := u
    cases kind with
    -- Of the changes of case only the same one is taken too.
    | caseMark c => cases c <;> cases k <;> first | exact ⟨_, rfl, rfl⟩ | exact absurd rfl hu
    | _ => exact ⟨_, rfl, rfl⟩

theorem caseParam_twice {id : Identifier} {k : CaseChange} (hu : u.kind = .caseMark k) :
    caseParam id k start (before (t :: u :: ts) pos n) =
      .ok (.simple id (some { change := k, all := true }) start) (before ts (some u.stop) n) := by
  obtain ⟨_, _, _⟩ := u
  cases hu
  cases k <;> rfl

theorem errorMessage?_text {value : String} (ht : t.kind = .text value) :
    errorMessage? (before (t :: ts) pos n) = .ok (some value) (before ts (some t.stop) n) := by
  obtain ⟨_, _, _⟩ := t
  cases ht
  rfl

theorem errorMessage?_of_ne (pos : Option Position) (n : Nat)
    (ht : ∀ value, ts.head?.map Token.kind ≠ some (.text value)) :
    ∃ q, errorMessage? (before ts pos n) = .ok none q ∧ q.settle = before ts pos n := by
  cases ts with
  | nil => exact ⟨_, rfl, rfl⟩
  | cons t ts =>
    obtain ⟨kind, _, _⟩ := t
    cases kind with
    | text value => exact absurd rfl (ht value)
    | _ => exact ⟨_, rfl, rfl⟩

theorem operation_nil {id : Identifier} {colon : Bool} :
    operation payload id colon start (before [] pos n) =
      .error ⟨.unterminatedParam, pos.getD .start⟩ (before [] pos n) := rfl

theorem operation_dash {id : Identifier} {colon : Bool} (ht : t.kind = .mark .dash) :
    operation payload id colon start (before (t :: ts) pos n) =
      (payload >>= fun d => pure (.withDefault id d colon start)) (before ts (some t.stop) n) := by
  obtain ⟨_, _, _⟩ := t
  cases ht
  rfl

theorem operation_plus {id : Identifier} {colon : Bool} (ht : t.kind = .mark .plus) :
    operation payload id colon start (before (t :: ts) pos n) =
      (payload >>= fun d => pure (.withAlternative id d colon start))
        (before ts (some t.stop) n) := by
  obtain ⟨_, _, _⟩ := t
  cases ht
  rfl

theorem operation_question {id : Identifier} {colon : Bool} (ht : t.kind = .mark .question) :
    operation payload id colon start (before (t :: ts) pos n) =
      (errorMessage? >>= fun m => pure (.withError id m colon start))
        (before ts (some t.stop) n) := by
  obtain ⟨_, _, _⟩ := t
  cases ht
  rfl

theorem operation_closeBrace {id : Identifier} (ht : t.kind = .mark .closeBrace) :
    operation payload id false start (before (t :: ts) pos n) =
      .ok (.simple id none start) (looking t ts pos n) := by
  obtain ⟨_, _, _⟩ := t
  cases ht
  rfl

theorem operation_misplaced {id : Identifier} {colon : Bool}
    (ht : ¬ Derivation.Follows colon t.kind) :
    operation payload id colon start (before (t :: ts) pos n) =
      .error ⟨.misplacedToken t.kind, pos.getD .start⟩ (looking t ts pos n) := by
  obtain ⟨kind, _, _⟩ := t
  cases kind with
  | mark m =>
    -- What may follow depends on the colon, so both cases are computed.
    cases m <;> cases colon <;>
      first | rfl | simp [Derivation.Follows, Derivation.Operates] at ht
  | _ => rfl

theorem conditional_colon {id : Identifier} (ht : t.kind = .mark .colon) :
    conditional payload id start (before (t :: ts) pos n) =
      operation payload id true start (before ts (some t.stop) n) := by
  obtain ⟨_, _, _⟩ := t
  cases ht
  rfl

theorem conditional_of_ne_colon {id : Identifier} (ht : t.kind ≠ .mark .colon) :
    conditional payload id start (before (t :: ts) pos n) =
      operation payload id false start (before (t :: ts) pos n) := by
  obtain ⟨kind, _, _⟩ := t
  cases kind with
  | mark m => cases m <;> first | rfl | exact absurd rfl ht
  | _ => rfl

theorem braced_pound (ht : t.kind = .mark .pound) :
    braced payload start (before (t :: ts) pos n) =
      lengthOrArity start (before ts (some t.stop) n) := by
  obtain ⟨_, _, _⟩ := t
  cases ht
  rfl

theorem braced_bang (ht : t.kind = .mark .bang) :
    braced payload start (before (t :: ts) pos n) =
      (identifier >>= fun id => pure (.indirect id start)) (before ts (some t.stop) n) := by
  obtain ⟨_, _, _⟩ := t
  cases ht
  rfl

theorem braced_unterminated {id : Identifier} (ht : t.kind = id.token) :
    braced payload start (before [t] pos n) =
      .error ⟨.unterminatedParam, t.stop⟩ (before [] (some t.stop) n) := by
  obtain ⟨_, _, _⟩ := t
  cases id <;> cases ht <;> rfl

theorem braced_caseMark {id : Identifier} {k : CaseChange} (ht : t.kind = id.token)
    (hu : u.kind = .caseMark k) :
    braced payload start (before (t :: u :: ts) pos n) =
      caseParam id k start (before (u :: ts) (some t.stop) n) := by
  obtain ⟨_, _, _⟩ := t
  obtain ⟨_, _, _⟩ := u
  cases id <;> cases ht <;> cases hu <;> rfl

theorem braced_conditional {id : Identifier} (ht : t.kind = id.token)
    (hu : ∀ k, u.kind ≠ .caseMark k) :
    braced payload start (before (t :: u :: ts) pos n) =
      conditional payload id start (before (u :: ts) (some t.stop) n) := by
  obtain ⟨_, _, _⟩ := t
  obtain ⟨kind, _, _⟩ := u
  cases kind with
  -- Behind the identifier only a change of case is no conditional form.
  | caseMark k => exact absurd rfl (hu k)
  | _ => cases id <;> cases ht <;> rfl

theorem braced_misplaced (hp : t.kind ≠ .mark .pound) (hb : t.kind ≠ .mark .bang)
    (hi : ∀ id : Identifier, t.kind ≠ id.token) :
    braced payload start (before (t :: ts) pos n) =
      .error ⟨.expectedIdentifier (some t.kind), t.stop⟩ (before ts (some t.stop) n) := by
  obtain ⟨kind, _, _⟩ := t
  cases kind with
  | mark m => cases m <;> first | rfl | exact absurd rfl hp | exact absurd rfl hb
  -- The two kinds of identifiers are excluded, and all that is left is unexpected.
  | name x => exact absurd rfl (hi (.named x))
  | index i => exact absurd rfl (hi (.index i))
  | _ => rfl

/-! ## Nodes -/

theorem nodeOver_text {payload : Option (ParserM (List Token) Node)} {value : String}
    (ht : t.kind = .text value) :
    nodeOver payload (before (t :: ts) pos n) = .ok (.text value) (before ts (some t.stop) n) := by
  obtain ⟨_, _, _⟩ := t
  cases ht
  rfl

theorem nodeOver_dollar {payload : Option (ParserM (List Token) Node)}
    (ht : t.kind = .mark .dollar) :
    nodeOver payload (before (t :: ts) pos n) =
      param payload t.start (before ts (some t.stop) n) := by
  obtain ⟨_, _, _⟩ := t
  cases ht
  rfl

theorem nodeOver_unexpected {payload : Option (ParserM (List Token) Node)}
    (hd : t.kind ≠ .mark .dollar) (ht : ∀ value, t.kind ≠ .text value) :
    nodeOver payload (before (t :: ts) pos n) =
      .error ⟨.unexpectedToken t.kind, pos.getD .start⟩ (looking t ts pos n) := by
  obtain ⟨kind, _, _⟩ := t
  cases kind with
  | mark m => cases m <;> first | rfl | exact absurd rfl hd
  | text value => exact absurd rfl (ht value)
  | _ => rfl

theorem param_plain {payload : Option (ParserM (List Token) Node)}
    (ht : ts.head?.map Token.kind ≠ some (.mark .openBrace)) :
    param payload start (before ts pos n) =
      (identifier >>= fun id => pure (.simple id none start)) (before ts pos n) := by
  cases ts with
  | nil => rfl
  | cons t ts =>
    obtain ⟨kind, _, _⟩ := t
    cases kind with
    | mark m => cases m <;> first | rfl | exact absurd rfl ht
    | _ => rfl

theorem param_tooDeep (ht : t.kind = .mark .openBrace) :
    param none start (before (t :: ts) pos n) =
      .error ⟨.nestingTooDeep, t.stop⟩ (before ts (some t.stop) (n + 1)) := by
  obtain ⟨_, _, _⟩ := t
  cases ht
  rfl

theorem param_braced (ht : t.kind = .mark .openBrace) :
    param (some payload) start (before (t :: ts) pos n) =
      (braced payload start >>= fun node => expect (.mark .closeBrace) >>= fun _ =>
        modify (fun p => { p with depth := p.depth - 1 }) >>= fun _ => pure node)
          (before ts (some t.stop) (n + 1)) := by
  obtain ⟨_, _, _⟩ := t
  cases ht
  rfl

end Steps

end Parser

end ParamExpansion
