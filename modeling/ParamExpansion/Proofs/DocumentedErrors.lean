import ParamExpansion.Proofs.StoredEvaluation
import ParamExpansion.Proofs.Tiling
import ParamExpansion.Proofs.ViablePrefix

/-!
# Expansion fails in no undocumented way

An expansion ends with a text, with a syntax error, or with an error of the evaluation. The steps on
the way to it could fail otherwise if they were given other things than they are: a token could be
missing, a run of digits could be no number, and an evaluation could meet an unknown change of case,
a value of the wrong kind or an index without a place. What a text is turned into rules this out.
-/

namespace ParamExpansion

open Token (Kind)

namespace Parser

variable {σ : Type} [TokenSource σ] {α : Type}

/-! ## The sign of a change of case -/

/-- The parameter with a change of case, whose sign is taken like any other token. If there is no
sign to take, `missing` happens. -/
def caseParamOr (missing : ParserM σ Node) (id : Identifier) (start : Position) :
    ParserM σ Node := do
  match (← next).map Token.kind with
  | some (.caseMark k) =>
    let all ← sees (.caseMark k)
    if all then skip
    return .simple id (some { change := k, all }) start
  | _ => missing

/-- What stands between the braces of a parameter, where `missing` happens if the sign of a change of
case is missing. -/
def bracedOr (missing payload : ParserM σ Node) (start : Position) : ParserM σ Node := do
  match (← peek).map Token.kind with
  | none => fail .missingParam
  | some (.mark .pound) =>
    skip
    lengthOrArity start
  | some (.mark .bang) =>
    skip
    return .indirect (← identifier) start
  | some _ =>
    let id ← identifier
    match (← peek).map Token.kind with
    | none => fail .unterminatedParam
    | some (.caseMark _) => caseParamOr missing id start
    | some _ => conditional payload id start

/-- A token that has been looked at is there to be taken. -/
theorem next_of_lookahead {p : Parser σ} {t : Token} (h : p.lookahead = some t) :
    next p = .ok (some t) { p with lookahead := none, position := some t.stop } := by
  have hp : peek p = .ok (some t) p := by simp only [peek, h]
  simp only [next, Bind.bind, EStateM.bind, hp]
  rfl

theorem caseParamOr_of_lookahead (missing : ParserM σ Node) (id : Identifier) (start : Position)
    {p : Parser σ} {t : Token} {k : CaseChange} (h : p.lookahead = some t)
    (hk : t.kind = .caseMark k) : caseParamOr missing id start p = caseParam id k start p := by
  simp only [caseParamOr, caseParam, Bind.bind, EStateM.bind, next_of_lookahead h,
    skip_of_lookahead h, Option.map_some, hk]

/-- After a look at the next token it does not matter what would happen without it. -/
theorem peek_bind_congr {f g : Option Token → ParserM σ α} (hnone : f none = g none)
    (hsome : ∀ t p, p.lookahead = some t → f (some t) p = g (some t) p) :
    (peek >>= f) = (peek >>= g) := by
  funext p
  simp only [Bind.bind, EStateM.bind]
  cases h : peek p with
  | error e q => rfl
  | ok a q =>
    cases a with
    | none => exact congrFun hnone q
    | some t => exact hsome t q (lookahead_of_peek h)

/-- The sign of a change of case is never missing. -/
theorem bracedOr_eq (missing payload : ParserM σ Node) (start : Position) :
    bracedOr missing payload start = braced payload start := by
  -- The parameters differ only in front of a mark for the case, and there the token is never
  -- missing.
  have hsign (id : Identifier) :
      (do match (← peek).map Token.kind with
          | none => fail .unterminatedParam
          | some (.caseMark _) => caseParamOr missing id start
          | some _ => conditional payload id start : ParserM σ Node) =
        (do match (← peek).map Token.kind with
            | none => fail .unterminatedParam
            | some (.caseMark k) => caseParam id k start
            | some _ => conditional payload id start) := by
    refine peek_bind_congr rfl fun t p h => ?_
    obtain ⟨kind, start', stop⟩ := t
    cases kind with
    | caseMark k => exact caseParamOr_of_lookahead missing id start h rfl
    | _ => rfl
  simp only [bracedOr, hsign]
  rfl

end Parser

/-! ## Indexes -/

/-- An index is read off the characters of its token, whether they denote a number or not. -/
theorem Token.StandsIn.index_eq {t : Token} {text : String} (h : t.StandsIn text) {n : Nat}
    (hn : t.kind = .index n) : n = Index.read (t.slice text) ∧ n ≤ Index.max := by
  have hs := h.spells_slice
  rw [hn] at hs
  obtain rfl : n = Index.read (t.slice text) := hs
  exact ⟨rfl, Index.read_le_max _⟩

namespace Expander

open ParamExpansion.Parser

/-- An expansion ends with a text or a documented error. A syntax error lies where a token of the text
stops. If there is none, then even the evaluation of the stored form, in which values can be of the
wrong kind, ends with the same text or with the same missing value. Every index is read off the
digits of its token, and the parser never misses a token that it relies on. -/
theorem expand_documented (x : Expander) (text : String) :
    (∀ e, Template.ofString text = .error e →
      (x.expand text).outcome = .error (.parse e) ∧ (∃ t ∈ tokenize text, e.position = t.stop) ∧
        1 ≤ e.position.index ∧ e.position.LiesIn text) ∧
    (∀ t, Template.ofString text = .ok t →
      (∃ value : String, (x.evaluateStored t.toStored).outcome = .ok value ∧
        (x.expand text).outcome = .ok value) ∨
      ∃ e : EvalError, (x.evaluateStored t.toStored).outcome =
          .error (.lacking (.string e.message) (some e.position.toStored)) ∧
        (x.expand text).outcome = .error (.eval e)) ∧
    (∀ t ∈ tokenize text, ∀ n, t.kind = .index n →
      n = Index.read (t.slice text) ∧ n ≤ Index.max) ∧
    ∀ (missing payload : ParserM Lexer Node) (start : Position),
      bracedOr missing payload start = braced payload start := by
  refine ⟨fun e he => ?_, fun t ht => ?_, fun t ht n hn => ?_, bracedOr_eq⟩
  · -- A syntax error lies where a token stops, and every token covers a character.
    obtain ⟨t, ht, hstop⟩ := Template.exists_stop_of_error he
    have hstands := standsIn_of_mem_tokenize ht
    have hlt := hstands.index_lt
    refine ⟨by simp [expand, he], ⟨t, ht, hstop⟩, ?_, hstop ▸ hstands.liesIn.2⟩
    rw [hstop]
    omega
  · -- The stored template is evaluated as the template itself is.
    rw [x.outcome_expand_of_ok ht, evaluateStored_toStored]
    have heval : (x.evaluate t).outcome = (x.evaluateNodes t.nodes).outcome := by simp [evaluate]
    simp only [Traced.toStored, heval]
    cases (x.evaluateNodes t.nodes).outcome with
    | ok value => exact .inl ⟨value, rfl, rfl⟩
    | error e => exact .inr ⟨e, rfl, rfl⟩
  · exact (standsIn_of_mem_tokenize ht).index_eq hn

/-- A colon stands where an identifier is required. -/
theorem expand_documented_colon :
    ∃ e, Template.ofString "$\x7b:" = .error e ∧
      (({} : Expander).expand "$\x7b:").outcome = .error (.parse e) ∧
      (∃ t ∈ tokenize "$\x7b:", e.position = t.stop) ∧ 1 ≤ e.position.index :=
  have h := Template.ofString_openBrace_colon
  have he := (expand_documented {} "$\x7b:").1 _ h
  ⟨_, h, he.1, he.2.1, he.2.2.1⟩

end Expander

end ParamExpansion
