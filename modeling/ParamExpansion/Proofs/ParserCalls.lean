import ParamExpansion.Proofs.ParserSteps
import ParamExpansion.Proofs.Runs

/-!
# Calls of the parser

The functions of the parser can be called one after the other, also after some of them have failed.
Whatever the order, no token is lost and none is taken twice: the tokens that have been taken are the
first ones of the text, and those that can still be taken are the others. What a call does depends on
the tokens that are left, the position and the depth, and not on whether a token has been looked at
or on where the tokens come from.
-/

namespace ParamExpansion.Parser

variable {σ τ : Type} {α β : Type}

/-! ## What is left of a text -/

/-- The tokens that can still be taken. -/
def remaining (p : Parser Lexer) : List Token := p.lookahead.toList ++ p.source.tokens

/-- A parser that has the same tokens left, in a list, and has looked at none of them. -/
def view (p : Parser Lexer) : Parser (List Token) := before p.remaining p.position p.depth

theorem view_eq_settle (p : Parser Lexer) : p.view = (p.mapSource Lexer.tokens).settle := rfl

/-- The outcome of a run with the parser exchanged. -/
def mapState (f : Parser σ → Parser τ) :
    EStateM.Result ParseError (Parser σ) α → EStateM.Result ParseError (Parser τ) α
  | .ok a p => .ok a (f p)
  | .error e p => .error e (f p)

/-- Looking at the next token leaves as many tokens as before. -/
theorem view_of_peek {p q : Parser Lexer} {a : Option Token} (h : peek p = .ok a q) :
    q.view = p.view ∧ a = p.remaining.head? := by
  obtain ⟨source, lookahead, position, depth⟩ := p
  -- A token that has been looked at already is given again. Otherwise one is read from the source,
  -- and the view counts it as not taken.
  cases lookahead with
  | some t =>
    cases h
    exact ⟨rfl, rfl⟩
  | none =>
    cases hs : source.next? with
    | none =>
      have hpeek : peek ⟨source, none, position, depth⟩ =
          .ok none ⟨source, none, position, depth⟩ := by
        have hs : TokenSource.next? source = none := hs
        simp only [peek, hs]
      cases hpeek.symm.trans h
      simp [remaining, Lexer.tokens_of_none hs]
    | some x =>
      obtain ⟨t, source'⟩ := x
      have hpeek : peek ⟨source, none, position, depth⟩ =
          .ok (some t) ⟨source', some t, position, depth⟩ := by
        have hs : TokenSource.next? source = some (t, source') := hs
        simp only [peek, hs]
      cases hpeek.symm.trans h
      simp [view, remaining, Lexer.tokens_of_some hs]

/-- What is taken is the first of the tokens that are left. -/
theorem remaining_of_next {p q : Parser Lexer} {t : Token} (h : next p = .ok (some t) q) :
    p.remaining = t :: q.remaining ∧ q.position = some t.stop := by
  cases hp : peek p with
  | error e r => exact absurd hp (peek_ne_error p r e)
  | ok a r =>
    have hremaining : r.remaining = p.remaining := congrArg Parser.source (view_of_peek hp).1
    cases a with
    | none => cases (bind_ok hp).symm.trans h
    | some u =>
      have hnext : next p = .ok (some u) { r with lookahead := none, position := some u.stop } :=
        bind_ok hp
      cases hnext.symm.trans h
      rw [← hremaining, remaining, lookahead_of_peek hp]
      exact ⟨rfl, rfl⟩

/-- The tokens that are taken and those that are left make up those before, and the position is that
behind the tokens that are taken. -/
theorem remaining_of_takes {p q : Parser Lexer} {ts : List Token} (h : Takes p ts q) :
    p.remaining = ts ++ q.remaining ∧ q.position = behind p.position ts := by
  -- Looking keeps what remains, taking moves one token over, and counting braces concerns neither.
  induction h with
  | done p => exact ⟨rfl, rfl⟩
  | @look p p' q ts a hpeek _ ih =>
    obtain ⟨hview, -⟩ := view_of_peek hpeek
    have hremaining : p'.remaining = p.remaining := congrArg Parser.source hview
    have hposition : p'.position = p.position := by
      change p'.view.position = p.view.position
      rw [hview]
    rwa [hremaining, hposition] at ih
  | take hnext _ ih =>
    obtain ⟨hremaining, hposition⟩ := remaining_of_next hnext
    rw [hremaining, ih.1, ih.2, hposition]
    exact ⟨rfl, rfl⟩
  | count depth _ ih => exact ih

/-! ## Tokens that have been looked at -/

/-- Whether a part of the parser does the same when the token that has been looked at is put back. -/
def Steady (m : ParserM (List Token) α) : Prop :=
  ∀ p, mapState settle (m p.settle) = mapState settle (m p)

theorem Steady.bind {m : ParserM (List Token) α} {f : α → ParserM (List Token) β} (hm : Steady m)
    (hf : ∀ a, Steady (f a)) : Steady (m >>= f) := by
  intro p
  have h := hm p
  -- Both runs end alike, and the states that they leave settle to the same one.
  cases hp : m p with
  | ok a q =>
    cases hs : m p.settle with
    | ok a' q' =>
      rw [hp, hs] at h
      obtain ⟨rfl, hq⟩ : a' = a ∧ q'.settle = q.settle := by simpa [mapState] using h
      rw [bind_ok hp, bind_ok hs, ← hf a' q', hq, hf a' q]
    | error e q' => rw [hp, hs] at h; cases h
  | error e q =>
    cases hs : m p.settle with
    | ok a' q' => rw [hp, hs] at h; cases h
    | error e' q' =>
      rw [hp, hs] at h
      rw [bind_error hp, bind_error hs]
      simpa [mapState] using h

theorem Steady.inBraces {m : ParserM (List Token) α} (hm : Steady m) : Steady (inBraces m) := by
  -- Counting a brace has nothing to do with tokens.
  have hcount (f : Nat → Nat) : Steady (modify fun p => { p with depth := f p.depth }) :=
    fun _ => rfl
  exact .bind (hcount (· + 1)) fun _ => .bind hm fun _ => .bind (hcount (· - 1)) fun _ => fun _ => rfl

/-- Whatever is composed of the basic parts does not depend on what has been looked at. -/
theorem Composed.steady [TokenSource τ] {m : ParserM (List Token) α} {m' : ParserM τ α}
    (hm : Composed m m') : Steady m := by
  -- Only looking at a token depends on whether it has been looked at before, and there settling
  -- makes no difference.
  induction hm with
  | pure a => exact fun _ => rfl
  | fail cause => exact fun _ => rfl
  | peek =>
    intro p
    rw [peek_settle]
  | next =>
    intro p
    have hnext : Parser.next p.settle = Parser.next p := by
      simp only [Parser.next, Bind.bind, EStateM.bind, peek_settle]
    rw [hnext]
  | bind _ _ ihm ihf => exact .bind ihm ihf
  | inBraces _ ih => exact .inBraces ih
  | atDepth _ ih => exact fun p => ih p.depth p

/-- Reading all nodes begins with a look at the next token. -/
theorem nodes_settle (p : Parser (List Token)) : nodes p.settle = nodes p := by
  cases hp : peek p with
  | error e q => exact absurd hp (peek_ne_error p q e)
  | ok a q =>
    have hs : peek p.settle = .ok a q := (peek_settle p).trans hp
    cases a with
    | none => rw [nodes_of_end hp, nodes_of_end hs]
    | some t =>
      cases hn : node q with
      | ok n r => rw [nodes_of_node hp hn, nodes_of_node hs hn]
      | error e r => rw [nodes_of_error hp hn, nodes_of_error hs hn]

/-! ## Calls -/

/-- A call of the parser. -/
inductive Call where
  | peek | next | skip
  | sees (wanted : Token.Class)
  | expect (wanted : Token.Class)
  | identifier | node | template
deriving DecidableEq, Repr

namespace Call

/-- What a call gives if it succeeds. -/
def Answer : Call → Type
  | peek | next => Option Token
  | skip => Unit
  | sees _ => Bool
  | expect _ => Token
  | identifier => Identifier
  | node => Node
  | template => Template

/-- Whether a call only looks at the next token. -/
def Looks : Call → Prop
  | peek | sees _ => True
  | _ => False

variable [TokenSource σ] [TokenSource τ]

/-- The part of the parser that is called. -/
def run : (c : Call) → ParserM σ c.Answer
  | peek => Parser.peek
  | next => Parser.next
  | skip => Parser.skip
  | sees wanted => Parser.sees wanted
  | expect wanted => Parser.expect wanted
  | identifier => Parser.identifier
  | node => Parser.node
  | template => Parser.template

/-- The parser that a call leaves behind, also if it fails. -/
def leave (c : Call) (p : Parser σ) : Parser σ :=
  match c.run p with
  | .ok _ q | .error _ q => q

/-- All calls but the last one are compositions. -/
theorem composed {c : Call} (hc : c ≠ .template) :
    Composed (c.run : ParserM σ c.Answer) (c.run : ParserM τ c.Answer) := by
  cases c with
  | peek => exact .peek
  | next => exact .next
  | skip => exact .skip
  | sees wanted => exact .sees wanted
  | expect wanted => exact .expect wanted
  | identifier => exact .identifier
  | node => exact .node
  | template => exact absurd rfl hc

theorem ends (c : Call) (p : Parser σ) : Ends p (c.run p) := by
  by_cases hc : c = .template
  · subst hc
    exact (Ends.nodes p).bind fun _ q => .ok (.done q) rfl
  · exact (composed (τ := σ) hc).ends p

theorem agree {f : σ → τ} (hf : SameTokens f) (c : Call) : Agree f (c.run : ParserM σ _) c.run := by
  by_cases hc : c = .template
  · subst hc
    exact .template hf
  · exact (composed hc).agree hf

theorem steady (c : Call) : Steady (c.run : ParserM (List Token) c.Answer) := by
  by_cases hc : c = .template
  · subst hc
    have hnodes : Steady (nodes : ParserM (List Token) (List Node)) := by
      intro p
      rw [nodes_settle]
    exact hnodes.bind fun _ _ => rfl
  · exact (composed (τ := List Token) hc).steady

theorem leave_of_ok {c : Call} {p q : Parser σ} {a : c.Answer} (h : c.run p = .ok a q) :
    c.leave p = q := by
  rw [leave, h]

theorem leave_of_error {c : Call} {p q : Parser σ} {e : ParseError} (h : c.run p = .error e q) :
    c.leave p = q := by
  rw [leave, h]

theorem exists_takes_leave (c : Call) (p : Parser σ) : ∃ ts, Takes p ts (c.leave p) := by
  cases h : c.run p with
  | ok a q =>
    obtain ⟨ts, hts, -⟩ := (h ▸ c.ends p).exists_of_ok
    exact ⟨ts, leave_of_ok h ▸ hts⟩
  | error e q =>
    obtain ⟨ts, hts, -⟩ := (h ▸ c.ends p).exists_of_error
    exact ⟨ts, leave_of_error h ▸ hts⟩

/-- A call that only looks at the next token leaves everything to be taken. -/
theorem Looks.view_leave {c : Call} (hc : c.Looks) (p : Parser Lexer) :
    (c.leave p).view = p.view := by
  cases h : Parser.peek p with
  | error e q => exact absurd h (peek_ne_error p q e)
  | ok a q =>
    obtain ⟨hview, -⟩ := view_of_peek h
    cases c with
    | peek => rwa [leave_of_ok (c := .peek) h]
    | sees wanted =>
      have hrun : (sees wanted).run p = .ok (a.any (·.kind.tokenClass = wanted)) q := bind_ok h
      rwa [leave_of_ok hrun]
    | _ => cases hc

/-- A call does the same to a list of tokens as to a text with these tokens. -/
theorem mapState_view_run (c : Call) (p : Parser Lexer) :
    mapState view (c.run p) = mapState settle (c.run p.view) := by
  rw [view_eq_settle, c.steady, c.agree sameTokens_tokens]
  cases c.run p <;> rfl

end Call

variable [TokenSource σ] [TokenSource τ]

/-- The parser after some calls. -/
def after (calls : List Call) (p : Parser σ) : Parser σ := calls.foldl (fun p c => c.leave p) p

theorem exists_takes_after (calls : List Call) (p : Parser σ) : ∃ ts, Takes p ts (after calls p) := by
  induction calls generalizing p with
  | nil => exact ⟨[], .done p⟩
  | cons c calls ih =>
    obtain ⟨ts, hts⟩ := c.exists_takes_leave p
    obtain ⟨us, hus⟩ := ih (c.leave p)
    exact ⟨ts ++ us, hts.append hus⟩

/-- Calls do the same whatever source gives the tokens. -/
theorem mapSource_after {f : σ → τ} (hf : SameTokens f) (calls : List Call) (p : Parser σ) :
    (after calls p).mapSource f = after calls (p.mapSource f) := by
  induction calls generalizing p with
  | nil => rfl
  | cons c calls ih =>
    have hleave : (c.leave p).mapSource f = c.leave (p.mapSource f) := by
      rw [Call.leave, Call.leave, c.agree hf p]
      cases c.run p <;> rfl
    show (after calls (c.leave p)).mapSource f = after calls (c.leave (p.mapSource f))
    rw [ih, hleave]

/-- The calls of the parser of a text. The tokens that have been taken, in their order, and those that
are left make up the tokens of the text, and the position is where the last one stops that has been
taken. Any further call does what it does in front of the list of all tokens after the same calls, and
what it does depends on the tokens that are left, the position and the depth only. Looking at the next
token leaves these as they are. A call that succeeds leaves the depth as it was, and one that fails
does not lower it. -/
theorem calls_of_text (text : String) (calls : List Call) :
    let start : Parser Lexer := { source := .ofString text }
    let p := after calls start
    (∃ taken, Takes start taken p ∧ taken ++ p.remaining = tokenize text ∧
      p.position = taken.getLast?.map Token.stop) ∧
    ∀ c : Call,
      mapOutcome Lexer.tokens (c.run p) = c.run (after calls { source := tokenize text }) ∧
      mapState view (c.run p) = mapState settle (c.run p.view) ∧
      (c.Looks → (c.leave p).view = p.view) ∧
      (∀ a q, c.run p = .ok a q → q.depth = p.depth) ∧
      ∀ e q, c.run p = .error e q → p.depth ≤ q.depth := by
  intro start p
  constructor
  · -- The calls take a beginning of the tokens, whatever their results are.
    obtain ⟨taken, htaken⟩ := exists_takes_after calls start
    obtain ⟨hremaining, hposition⟩ := remaining_of_takes htaken
    refine ⟨taken, htaken, hremaining.symm, ?_⟩
    rw [hposition, behind_eq_getLast?]
    exact Option.or_none
  · -- The next call gives the same from the lexer and from the list, and errors only leave braces
    -- open.
    intro c
    refine ⟨?_, c.mapState_view_run p, fun hc => hc.view_leave p, ?_, ?_⟩
    · rw [← c.agree sameTokens_tokens p, mapSource_after sameTokens_tokens]
      rfl
    · intro a q h
      obtain ⟨-, -, hd⟩ := (h ▸ c.ends p).exists_of_ok
      exact hd
    · intro e q h
      obtain ⟨-, -, hd⟩ := (h ▸ c.ends p).exists_of_error
      exact hd

end ParamExpansion.Parser
