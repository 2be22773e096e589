import ParamExpansion.Template.Parser

/-!
# Parsing does not depend on the source of the tokens

A parser does the same over every source that gives the same tokens. So the parser of a text, which
takes its tokens from a lexer as it goes, can be followed on the list of all tokens of the text.
-/

namespace ParamExpansion

open Token (Kind)

namespace Parser

/-! ## Sources that give the same tokens -/

section SameTokens

variable {σ τ : Type} {α β : Type}

/-- The parser with its source exchanged. -/
def mapSource (f : σ → τ) (p : Parser σ) : Parser τ :=
  { source := f p.source, lookahead := p.lookahead, position := p.position, depth := p.depth }

/-- The outcome of a run with the source of the parser exchanged. -/
def mapOutcome (f : σ → τ) :
    EStateM.Result ParseError (Parser σ) α → EStateM.Result ParseError (Parser τ) α
  | .ok a p => .ok a (p.mapSource f)
  | .error e p => .error e (p.mapSource f)

/-- Whether two runs do the same up to the source. -/
def Agree (f : σ → τ) (m : ParserM σ α) (m' : ParserM τ α) : Prop :=
  ∀ p, m' (p.mapSource f) = mapOutcome f (m p)

variable {f : σ → τ}

theorem Agree.bind {m : ParserM σ α} {m' : ParserM τ α} {g : α → ParserM σ β}
    {g' : α → ParserM τ β} (hm : Agree f m m') (hg : ∀ a, Agree f (g a) (g' a)) :
    Agree f (m >>= g) (m' >>= g') := by
  intro p
  simp only [Bind.bind, EStateM.bind, hm p]
  cases m p with
  | ok a q => exact hg a q
  | error e q => rfl

theorem Agree.inBraces {m : ParserM σ α} {m' : ParserM τ α} (hm : Agree f m m') :
    Agree f (inBraces m) (inBraces m') := by
  -- The depth is the same whatever the source is.
  apply Agree.bind (fun _ => rfl)
  intro _
  apply Agree.bind hm
  intro a
  exact fun _ => rfl

variable [TokenSource σ] [TokenSource τ]

/-- Whether `f` leads from each source to one that gives the same tokens. -/
def SameTokens (f : σ → τ) : Prop :=
  ∀ s, TokenSource.next? (f s) = (TokenSource.next? s).map fun x => (x.1, f x.2)

theorem peek_ne_error (p q : Parser σ) (e : ParseError) : peek p ≠ .error e q := by
  unfold peek
  repeat' split
  all_goals simp

theorem Agree.peek (hf : SameTokens f) : Agree f (peek : ParserM σ _) peek := by
  intro p
  obtain ⟨source, lookahead, position, depth⟩ := p
  cases lookahead with
  | some t => rfl
  -- With no token looked at, both parsers ask their sources for the next one.
  | none =>
    have h := hf source
    cases hs : TokenSource.next? source with
    | none =>
      rw [hs] at h
      simp [Parser.peek, mapSource, mapOutcome, h, hs]
    | some x =>
      rw [hs] at h
      simp [Parser.peek, mapSource, mapOutcome, h, hs]

theorem Agree.next (hf : SameTokens f) : Agree f (next : ParserM σ _) next := by
  apply Agree.bind (Agree.peek hf)
  intro a
  cases a with
  | none => exact fun _ => rfl
  | some t => exact fun _ => rfl

/-- Whatever is composed in the same way of the basic parts does the same over sources that give the
same tokens. -/
theorem Composed.agree (hf : SameTokens f) {m : ParserM σ α} {m' : ParserM τ α}
    (hm : Composed m m') : Agree f m m' := by
  induction hm with
  | pure a => exact fun _ => rfl
  | fail cause => exact fun _ => rfl
  | peek => exact Agree.peek hf
  | next => exact Agree.next hf
  | bind _ _ ihm ihg => exact ihm.bind ihg
  | inBraces _ ih => exact ih.inBraces
  | atDepth _ ih => exact fun p => ih p.depth p

/-- The outcome of reading a node, once the outcome of reading the others is known. -/
def consNode (n : Node) :
    EStateM.Result ParseError (Parser σ) (List Node) →
      EStateM.Result ParseError (Parser σ) (List Node)
  | .ok ns p => .ok (n :: ns) p
  | .error e p => .error e p

theorem nodes_of_end {p q : Parser σ} (hp : peek p = .ok none q) : nodes p = .ok [] q := by
  rw [nodes.eq_def]
  split
  · next h => cases hp.symm.trans h; rfl
  · next h => cases hp.symm.trans h
  · next h => cases hp.symm.trans h

theorem nodes_of_node {p q r : Parser σ} {t : Token} {n : Node} (hp : peek p = .ok (some t) q)
    (hn : node q = .ok n r) : nodes p = consNode n (nodes r) := by
  rw [nodes.eq_def]
  split
  · next h => cases hp.symm.trans h
  · next h =>
    cases hp.symm.trans h
    split
    · next h' =>
      cases hn.symm.trans h'
      rcases nodes r with ⟨ns, r'⟩ | ⟨e, r'⟩ <;> rfl
    · next h' => cases hn.symm.trans h'
  · next h => cases hp.symm.trans h

theorem nodes_of_error {p q r : Parser σ} {t : Token} {e : ParseError}
    (hp : peek p = .ok (some t) q) (hn : node q = .error e r) : nodes p = .error e r := by
  rw [nodes.eq_def]
  split
  · next h => cases hp.symm.trans h
  · next h =>
    cases hp.symm.trans h
    split
    · next h' => cases hn.symm.trans h'
    · next h' => cases hn.symm.trans h'; rfl
  · next h => cases hp.symm.trans h

theorem Agree.nodes (hf : SameTokens f) : Agree f (nodes : ParserM σ (List Node)) nodes := by
  intro p
  have hpeek {a : Option Token} {p q : Parser σ} (h : Parser.peek p = .ok a q) :
      Parser.peek (p.mapSource f) = .ok a (q.mapSource f) := by rw [Agree.peek hf p, h]; rfl
  have hnode {n : Node} {p q : Parser σ} (h : Parser.node p = .ok n q) :
      Parser.node (p.mapSource f) = .ok n (q.mapSource f) := by rw [Composed.node.agree hf p, h]; rfl
  -- The induction is on the recursion of `nodes`, one case for each way a round can end.
  fun_induction Parser.nodes p with
  | case1 p q hq => exact nodes_of_end (hpeek hq)
  | case2 p t q hq n r hr ns r' hs ih =>
    rw [nodes_of_node (hpeek hq) (hnode hr), ih, hs]
    rfl
  | case3 p t q hq n r hr e r' hs ih =>
    rw [nodes_of_node (hpeek hq) (hnode hr), ih, hs]
    rfl
  | case4 p t q hq e r hr =>
    -- The round stops at the first error, which is that of the node.
    have h : Parser.node (q.mapSource f) = .error e (r.mapSource f) := by
      rw [Composed.node.agree hf q, hr]; rfl
    exact nodes_of_error (hpeek hq) h
  | case5 p e q hq =>
    -- Looking at the next token never fails.
    exact absurd hq (peek_ne_error p q e)

theorem Agree.template (hf : SameTokens f) : Agree f (template : ParserM σ Template) template :=
  Agree.bind (Agree.nodes hf) fun _ _ => rfl

end SameTokens

/-- The tokens of a lexer are those it gives. -/
theorem sameTokens_tokens : SameTokens Lexer.tokens := by
  intro l
  show TokenSource.next? l.tokens = (Lexer.next? l).map fun x => (x.1, x.2.tokens)
  rw [Lexer.tokens.eq_def]
  split
  · next h => rw [h]; rfl
  · next h => rw [h]; rfl

end Parser

namespace Template

/-- Sources that give the same tokens give the same template, or the same error. -/
theorem ofSource_eq_of_sameTokens {σ τ : Type} [TokenSource σ] [TokenSource τ] {f : σ → τ}
    (hf : Parser.SameTokens f) (s : σ) : ofSource (f s) = ofSource s := by
  have h := Parser.Agree.template hf { source := s }
  simp only [Parser.mapSource] at h
  simp only [ofSource, h]
  cases Parser.template { source := s } <;> rfl

/-- The template of a text is the template of its tokens. -/
theorem ofString_eq_ofSource_tokenize (text : String) :
    ofString text = ofSource (tokenize text) :=
  (ofSource_eq_of_sameTokens Parser.sameTokens_tokens (Lexer.ofString text)).symm

end Template

end ParamExpansion
