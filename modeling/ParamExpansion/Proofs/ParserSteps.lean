import ParamExpansion.Proofs.TokenList

/-!
# Steps of the parser

The parser only takes tokens in the order in which its source gives them, and it counts its open
braces up and down evenly unless an error gets in the way. This holds of its basic parts and is
preserved by the ways to compose them, so it holds of all its functions.
-/

namespace ParamExpansion.Parser

variable {σ : Type} {α β : Type}

/-- The braces around a part are counted up and down, and an error leaves them open. -/
theorem inBraces_apply (m : ParserM σ α) (p : Parser σ) : inBraces m p =
    match m { p with depth := p.depth + 1 } with
    | .ok a q => .ok a { q with depth := q.depth - 1 }
    | .error e q => .error e q := by
  have hopen : inBraces m p = (do
      let a ← m
      modify fun p => { p with depth := p.depth - 1 }
      return a : ParserM σ α) { p with depth := p.depth + 1 } := rfl
  rw [hopen]
  cases h : m { p with depth := p.depth + 1 } with
  | ok a q => exact bind_ok h
  | error e q => exact bind_error h

variable [TokenSource σ]

/-! ## Tokens that are taken -/

/-- Whether some steps lead from one parser to another, and take the tokens `ts` on the way. -/
inductive Takes : Parser σ → List Token → Parser σ → Prop where
  | done (p : Parser σ) : Takes p [] p
  /-- Looking at the next token takes nothing. -/
  | look {p p' q : Parser σ} {ts : List Token} {a : Option Token} (h : peek p = .ok a p')
      (hs : Takes p' ts q) : Takes p ts q
  | take {p p' q : Parser σ} {t : Token} {ts : List Token} (h : next p = .ok (some t) p')
      (hs : Takes p' ts q) : Takes p (t :: ts) q
  /-- A brace is counted. -/
  | count {p q : Parser σ} {ts : List Token} (depth : Nat) (hs : Takes { p with depth } ts q) :
      Takes p ts q

theorem Takes.append {p q r : Parser σ} {ts us : List Token} (h : Takes p ts q)
    (h' : Takes q us r) : Takes p (ts ++ us) r := by
  induction h with
  | done => exact h'
  | look h _ ih => exact .look h (ih h')
  | take h _ ih => exact .take h (ih h')
  | count depth _ ih => exact .count depth (ih h')

/-- How a part of the parser ends: it has taken some tokens, and it has closed all braces that it has
opened, unless it fails. -/
inductive Ends (p : Parser σ) : EStateM.Result ParseError (Parser σ) α → Prop where
  | ok {a : α} {q : Parser σ} {ts : List Token} (h : Takes p ts q) (hd : q.depth = p.depth) :
      Ends p (.ok a q)
  | error {e : ParseError} {q : Parser σ} {ts : List Token} (h : Takes p ts q)
      (hd : p.depth ≤ q.depth) : Ends p (.error e q)

theorem depth_of_peek {p q : Parser σ} {a : Option Token} (h : peek p = .ok a q) :
    q.depth = p.depth := by
  unfold peek at h
  split at h
  · cases h; rfl
  · split at h <;> cases h <;> rfl

namespace Ends

theorem exists_of_ok {p q : Parser σ} {a : α} (h : Ends p (.ok a q)) :
    ∃ ts, Takes p ts q ∧ q.depth = p.depth := by
  cases h with
  | ok hts hd => exact ⟨_, hts, hd⟩

theorem exists_of_error {p q : Parser σ} {e : ParseError}
    (h : Ends p (.error e q : EStateM.Result ParseError (Parser σ) α)) :
    ∃ ts, Takes p ts q ∧ p.depth ≤ q.depth := by
  cases h with
  | error hts hd => exact ⟨_, hts, hd⟩

/-- What happens behind some steps happens to the parser before them. -/
theorem after {p q : Parser σ} {ts : List Token} (hts : Takes p ts q) (hd : q.depth = p.depth)
    {r : EStateM.Result ParseError (Parser σ) α} (h : Ends q r) : Ends p r := by
  cases h with
  | ok hus hd' => exact .ok (hts.append hus) (hd'.trans hd)
  | error hus hd' => exact .error (hts.append hus) (hd ▸ hd')

theorem peek (p : Parser σ) : Ends p (Parser.peek p) := by
  cases h : Parser.peek p with
  | ok a q => exact .ok (.look h (.done q)) (depth_of_peek h)
  | error e q => exact absurd h (peek_ne_error p q e)

theorem next (p : Parser σ) : Ends p (Parser.next p) := by
  cases h : Parser.peek p with
  | error e q => exact absurd h (peek_ne_error p q e)
  | ok a q =>
    -- At the end nothing is taken, and otherwise the token that has been looked at.
    cases a with
    | none =>
      have hnext : Parser.next p = .ok none q := bind_ok h
      rw [hnext]
      exact .ok (.look h (.done q)) (depth_of_peek h)
    | some t =>
      have hnext : Parser.next p =
          .ok (some t) { q with lookahead := none, position := some t.stop } := bind_ok h
      have hd : q.depth = p.depth := depth_of_peek h
      rw [hnext]
      exact .ok (.take hnext (.done _)) hd

/-- What comes second starts where the first part has ended. -/
theorem bind {m : ParserM σ α} {f : α → ParserM σ β} {p : Parser σ} (hm : Ends p (m p))
    (hf : ∀ a q, Ends q (f a q)) : Ends p ((m >>= f) p) := by
  cases h : m p with
  | error e q =>
    obtain ⟨ts, hts, hd⟩ := (h ▸ hm).exists_of_error
    rw [bind_error h]
    exact .error hts hd
  | ok a q =>
    obtain ⟨ts, hts, hd⟩ := (h ▸ hm).exists_of_ok
    rw [bind_ok h]
    exact (hf a q).after hts hd

theorem inBraces {m : ParserM σ α} {p : Parser σ}
    (hm : Ends { p with depth := p.depth + 1 } (m { p with depth := p.depth + 1 })) :
    Ends p (Parser.inBraces m p) := by
  rw [inBraces_apply]
  -- The brace is counted before the run and after it. An error skips the second count.
  cases h : m { p with depth := p.depth + 1 } with
  | error e q =>
    obtain ⟨ts, hts, hd⟩ := (h ▸ hm).exists_of_error
    exact .error (.count _ hts) (Nat.le_of_succ_le hd)
  | ok a q =>
    obtain ⟨ts, hts, hd⟩ := (h ▸ hm).exists_of_ok
    have hclose : Takes q [] { q with depth := q.depth - 1 } := .count _ (.done _)
    exact .ok (.count _ (hts.append hclose)) (by simp [hd])

end Ends

/-- Whatever is composed of the basic parts ends as these do. -/
theorem Composed.ends {τ : Type} [TokenSource τ] {m : ParserM σ α} {m' : ParserM τ α}
    (hm : Composed m m') (p : Parser σ) : Ends p (m p) := by
  induction hm generalizing p with
  | pure a => exact .ok (.done p) rfl
  | fail cause => exact .error (.done p) (Nat.le_refl _)
  | peek => exact .peek p
  | next => exact .next p
  | bind _ _ ihm ihf => exact (ihm p).bind ihf
  | inBraces _ ih => exact .inBraces (ih _)
  | atDepth _ ih => exact ih p.depth p

/-- Reading all nodes is no single composition, as the source tells how many there are. It ends like
reading them one after the other. -/
theorem Ends.nodes (p : Parser σ) : Ends p (nodes p) := by
  have hnode (q : Parser σ) : Ends q (Parser.node q) := Composed.node (τ := σ).ends q
  -- The induction is on the rounds: one for each node that is read, and the last one.
  fun_induction Parser.nodes p with
  | case1 p q hq => exact .ok (.look hq (.done q)) (depth_of_peek hq)
  | case2 p t q hq n r hr ns r' hs ih =>
    obtain ⟨ts, hts, hd⟩ := (hr ▸ hnode q).exists_of_ok
    obtain ⟨us, hus, hd'⟩ := (hs ▸ ih).exists_of_ok
    exact after (.look hq hts) (hd.trans (depth_of_peek hq)) (.ok hus hd')
  | case3 p t q hq n r hr e r' hs ih =>
    obtain ⟨ts, hts, hd⟩ := (hr ▸ hnode q).exists_of_ok
    obtain ⟨us, hus, hd'⟩ := (hs ▸ ih).exists_of_error
    exact after (.look hq hts) (hd.trans (depth_of_peek hq)) (.error hus hd')
  | case4 p t q hq e r hr =>
    obtain ⟨ts, hts, hd⟩ := (hr ▸ hnode q).exists_of_error
    exact after (.look hq (.done q)) (depth_of_peek hq) (.error hts hd)
  | case5 p e q hq => exact absurd hq (peek_ne_error p q e)

end ParamExpansion.Parser
