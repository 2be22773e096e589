import ParamExpansion.Proofs.Runs

/-!
# What the lexer sees behind the end of a line

In front of a text that ends with the end of a line, the lexer reads what it would read if another
text followed, with one exception: text outside parameters that runs up to the end of the line goes
on behind it.
-/

namespace ParamExpansion

open Token (Kind kinds nestings)

/-- Whether some characters end with the end of a line. -/
def EndsLine (cs : List Char) : Prop := cs.getLast? = some '\n'

theorem EndsLine.ne_nil {cs : List Char} (h : EndsLine cs) : cs ≠ [] := by
  rintro rfl
  cases h

theorem EndsLine.mem {cs : List Char} (h : EndsLine cs) : '\n' ∈ cs := List.mem_of_getLast? h

/-- What remains behind some characters that are not all ends with the end of the line too. -/
theorem EndsLine.of_append {cs ds : List Char} (h : EndsLine (cs ++ ds)) (hd : ds ≠ []) :
    EndsLine ds := by
  have hs : ds.getLast?.isSome := by simpa [List.getLast?_isSome] using hd
  rwa [EndsLine, List.getLast?_append, Option.or_of_isSome hs] at h

theorem EndsLine.uncons {c : Char} {cs : List Char} (h : EndsLine (c :: cs)) :
    c = '\n' ∧ cs = [] ∨ EndsLine cs := by
  by_cases hc : cs = []
  · subst hc
    exact .inl ⟨by simpa [EndsLine] using h, rfl⟩
  · have h : EndsLine ([c] ++ cs) := h
    exact .inr (h.of_append hc)

theorem EndsLine.tail {c : Char} {cs : List Char} (h : EndsLine (c :: cs)) (hc : c ≠ '\n') :
    EndsLine cs := h.uncons.resolve_left fun hn => hc hn.1

namespace Lexeme

variable {cs : List Char} (r : List Char)

/-- Two characters of lookahead do not reach behind the end of the line. -/
theorem opensParam_append (h : EndsLine cs) : opensParam (cs ++ r) = opensParam cs := by
  match cs, h with
  | [c], h =>
    obtain rfl : c = '\n' := by simpa [EndsLine] using h
    rfl
  | c :: d :: cs, _ =>
    rw [Bool.eq_iff_iff, opensParam_iff, opensParam_iff]
    simp

theorem mark?_append (h : EndsLine cs) : mark? (cs ++ r) = mark? cs := by
  match cs, h with
  | [c], h =>
    obtain rfl : c = '\n' := by simpa [EndsLine] using h
    rfl
  | c :: d :: cs, _ => simp [mark?_cons]

theorem takeWhile_append {p : Char → Bool} (h : EndsLine cs) (hp : p '\n' = false) :
    (cs ++ r).takeWhile p = cs.takeWhile p := by
  induction cs with
  | nil => exact absurd rfl h.ne_nil
  | cons c cs ih =>
    -- The run does not contain the end of the line, whether it is reached or not.
    by_cases hc : c = '\n'
    · simp [hc, hp]
    · simp [List.takeWhile_cons, ih (h.tail hc)]

/-- Whether a dollar sign is doubled is seen in front of the end of the line. -/
theorem not_doubled_append {c : Char} {s : List Char} (h : EndsLine (c :: s))
    (hn : ∀ t, c = '$' → s = '$' :: t → False) : ¬ (c = '$' ∧ (s ++ r).head? = some '$') := by
  rintro ⟨rfl, hr⟩
  obtain ⟨d, s, rfl⟩ := List.exists_cons_of_ne_nil (h.tail (by decide)).ne_nil
  obtain rfl : d = '$' := by simpa using hr
  exact hn s rfl rfl

theorem paramTextRun_append (h : EndsLine cs) : paramTextRun (cs ++ r) = paramTextRun cs := by
  rw [paramTextRun_eq_takeWhile, paramTextRun_eq_takeWhile, takeWhile_append r h (by decide)]

/-- Text outside parameters goes on behind the end of the line. -/
theorem textRun_append (h : EndsLine cs) :
    textRun (cs ++ r) = textRun cs ++ if textRun cs = cs then textRun r else [] := by
  fun_induction textRun cs with
  | case1 cs ih => simpa [textRun] using ih ((h.tail (by decide)).tail (by decide))
  | case2 c cs hn ho =>
    rw [← opensParam_append r h, List.cons_append] at ho
    rw [List.cons_append, textRun_cons (not_doubled_append r h hn), if_pos ho]
    rfl
  | case3 c cs hn ho ih =>
    rw [← opensParam_append r h, List.cons_append] at ho
    rw [List.cons_append, textRun_cons (not_doubled_append r h hn), if_neg ho]
    -- The end of the line is itself text, and only there does the run go on in `r`.
    rcases h.uncons with ⟨rfl, rfl⟩ | h
    · simp [textRun]
    · simp [ih h]
  | case4 => exact absurd rfl h.ne_nil

/-- No dollar sign is doubled across the end of the line. -/
theorem unescape_append (h : EndsLine cs) : unescape (cs ++ r) = unescape cs ++ unescape r := by
  fun_induction unescape cs with
  | case1 cs ih => simpa [unescape] using ih ((h.tail (by decide)).tail (by decide))
  | case2 c cs hn ih =>
    have hn' : ∀ t, c = '$' → cs ++ r = '$' :: t → False :=
      fun t hc ht => not_doubled_append r h hn ⟨hc, by rw [ht]; rfl⟩
    rw [List.cons_append, unescape.eq_2 _ _ hn']
    rcases h.uncons with ⟨rfl, rfl⟩ | h
    · rfl
    · rw [ih h, List.cons_append]
  | case3 => exact absurd rfl h.ne_nil

theorem identifier?_append (h : EndsLine cs) : identifier? (cs ++ r) = identifier? cs := by
  have hnum := takeWhile_append r h (p := Text.isNumeric) (by decide)
  have hname := takeWhile_append r h (p := isNameChar) (by decide)
  cases cs with
  | nil => exact absurd rfl h.ne_nil
  | cons c cs =>
    rw [List.cons_append] at hnum hname
    simp only [List.cons_append, identifier?, hnum, hname]

theorem inParam?_append (h : EndsLine cs) (previous : Option Kind) :
    inParam? previous (cs ++ r) = inParam? previous cs := by
  have htake : (cs ++ r).take 1 = cs.take 1 := by
    obtain ⟨c, cs, rfl⟩ := List.exists_cons_of_ne_nil h.ne_nil
    rfl
  have hhead : (cs ++ r).head? = cs.head? := by
    obtain ⟨c, cs, rfl⟩ := List.exists_cons_of_ne_nil h.ne_nil
    rfl
  simp only [inParam?, mark?_append r h, identifier?_append r h, paramTextRun_append r h, htake, hhead]

end Lexeme

namespace Lexer

/-- The lexer with more characters behind its own. -/
def extend (l : Lexer) (r : List Char) : Lexer :=
  { l with cursor := { l.cursor with rest := l.cursor.rest ++ r } }

/-- The lexer at the beginning of some characters, which lie at `p`. -/
def inFrontOf (p : Position) (cs : List Char) : Lexer := { cursor := ⟨cs, p⟩ }

variable {l l' : Lexer} {x : Lexeme} (r : List Char)

/-- What the lexer reads does not depend on what is behind the end of the line, unless it is text
outside parameters up to there. -/
theorem lexeme?_extend (h : EndsLine l.cursor.rest)
    (hx : l.inParam = true ∨ Lexeme.opensParam l.cursor.rest = true ∨
      Lexeme.textRun l.cursor.rest ≠ l.cursor.rest) :
    (l.extend r).lexeme? = l.lexeme? := by
  have hi : (l.extend r).inParam = l.inParam := rfl
  have hr : (l.extend r).cursor.rest = l.cursor.rest ++ r := rfl
  have hp : (l.extend r).previous = l.previous := rfl
  simp only [lexeme?, hi, hr, hp, Lexeme.opensParam_append r h, Lexeme.inParam?_append r h,
    Lexeme.textRun_append r h]
  -- What is inside a parameter ends with the line. Outside, only a run up to the end of the text
  -- could grow.
  split
  · rfl
  · next ho =>
    have hout : l.inParam = false ∧ Lexeme.opensParam l.cursor.rest = false := by simpa using ho
    rw [if_neg, List.append_nil]
    simpa [hout.1, hout.2] using hx

/-! ## Text outside parameters -/

/-- Outside parameters the token before does not matter, no more than the beginning of the whole
text. -/
theorem tokens_outside (c : Cursor) {q : Option Kind} (hq : q ≠ some (.mark .dollar)) :
    ({ cursor := c, previous := q } : Lexer).tokens = ({ cursor := c } : Lexer).tokens := by
  have hi : ({ cursor := c, previous := q } : Lexer).inParam = false := by simpa [inParam] using hq
  -- A parameter starts with a dollar sign whatever is before it.
  have hx : ({ cursor := c, previous := q } : Lexer).lexeme? = ({ cursor := c } : Lexer).lexeme? := by
    by_cases ho : Lexeme.opensParam c.rest = true
    · have hmark (q : Option Kind) : ({ cursor := c, previous := q } : Lexer).lexeme? =
          some ⟨.mark .dollar, c.rest.take 1⟩ := by
        rw [lexeme?_inside (.inr ho), Lexeme.inParam?, Lexeme.mark?_of_opensParam ho]
      rw [hmark q, hmark none]
    · have ho : Lexeme.opensParam c.rest = false := by simpa using ho
      rw [lexeme?_outside hi ho, lexeme?_outside (l := { cursor := c }) rfl ho]
  have hn : ({ cursor := c, previous := q } : Lexer).next? = ({ cursor := c } : Lexer).next? := by
    simp only [next?, hx]
    rfl
  cases h : ({ cursor := c } : Lexer).next? with
  | none => rw [tokens_of_none h, tokens_of_none (hn.trans h)]
  | some p => rw [tokens_of_some h, tokens_of_some (hn.trans h)]

theorem nesting_of_inParam_eq_false (h : l.inParam = false) : l.nesting = 0 := by
  simp only [inParam, Bool.or_eq_false_iff, decide_eq_false_iff_not] at h
  omega

/-- Text outside parameters is one token, and behind it the lexer begins anew. -/
theorem tokens_of_textRun (hi : l.inParam = false) (ho : Lexeme.opensParam l.cursor.rest = false)
    {run : List Char} (hr : Lexeme.textRun l.cursor.rest = run) (hne : run ≠ []) :
    l.tokens = ⟨.text (String.ofList (unescape run)), l.cursor.position,
        l.cursor.position.steps run⟩ ::
      (inFrontOf (l.cursor.position.steps run) (l.cursor.rest.drop run.length)).tokens := by
  have hx : l.lexeme? = some ⟨.text (String.ofList (unescape run)), run⟩ := by
    simp [lexeme?, hi, ho, hr, Lexeme.text?, hne]
  have hp : l.cursor.rest.take run.length = run := by
    subst hr
    exact (List.prefix_iff_eq_take.1 (Lexeme.textRun_isPrefix _)).symm
  -- Outside a parameter no braces are open, so the lexer goes on as in front of a new text.
  have hn : l.nesting = 0 := nesting_of_inParam_eq_false hi
  rw [tokens_of_some (next?_of_lexeme? hx)]
  simp only [skip, Cursor.skip, hp, hn, Kind.nesting,
    tokens_outside _ (q := some (.text (String.ofList (unescape run)))) (by simp)]
  rfl

/-- Where a parameter starts, a dollar sign is read. -/
theorem tokens_of_opensParam (ho : Lexeme.opensParam l.cursor.rest = true) :
    ∃ t ts, l.tokens = t :: ts ∧ t.kind = .mark .dollar := by
  have hx : l.lexeme? = some ⟨.mark .dollar, l.cursor.rest.take 1⟩ := by
    simp [lexeme?, ho, Lexeme.inParam?, Lexeme.mark?_of_opensParam ho]
  exact ⟨_, _, tokens_of_some (next?_of_lexeme? hx), rfl⟩

/-- Outside parameters, the next token is a dollar sign or a text. -/
theorem head_tokens (hi : l.inParam = false) {t : Token} (ht : l.tokens.head? = some t) :
    t.kind = .mark .dollar ∨ ∃ value, t.kind = .text value := by
  -- The first token is the dollar sign of a parameter, or else a run of text that is not empty.
  by_cases ho : Lexeme.opensParam l.cursor.rest = true
  · obtain ⟨u, ts, hu, hk⟩ := tokens_of_opensParam ho
    obtain rfl : u = t := by simpa [hu] using ht
    exact .inl hk
  · by_cases hne : Lexeme.textRun l.cursor.rest = []
    · have hx : l.lexeme? = none := by simp [lexeme?, hi, ho, hne, Lexeme.text?]
      simp [tokens_of_none (next?_eq_none_iff.2 hx)] at ht
    · rw [tokens_of_textRun hi (by simpa using ho) rfl hne] at ht
      cases ht
      exact .inr ⟨_, rfl⟩

end Lexer

/-- The first token of a text is a dollar sign or a text. -/
theorem head_tokenize {text : String} {t : Token} (ht : (tokenize text).head? = some t) :
    t.kind = .mark .dollar ∨ ∃ value, t.kind = .text value :=
  Lexer.head_tokens (l := .ofString text) rfl ht

/-- Some text, which lies between two places, in front of some tokens. A text among them goes on with
it. -/
def Token.joinText (value : String) (start stop : Position) : List Token → List Token
  | ⟨.text more, _, stop'⟩ :: ts => ⟨.text (value ++ more), start, stop'⟩ :: ts
  | ts => ⟨.text value, start, stop⟩ :: ts

theorem Token.joinText_of_ne_text (value : String) (start stop : Position) {ts : List Token}
    (h : ∀ w, ts.head?.map Token.kind ≠ some (.text w)) :
    joinText value start stop ts = ⟨.text value, start, stop⟩ :: ts := by
  unfold joinText
  split
  · next w _ _ _ => exact absurd rfl (h w)
  · rfl

namespace Lexer

variable {l : Lexer} (r : List Char)

/-- Where text outside parameters goes on with what follows, the tokens are those of what follows, and
a text at their front is joined with it. -/
theorem tokens_of_textRun_append (hi : l.inParam = false) {cs : List Char} {r : List Char}
    (hl : l.cursor.rest = cs ++ r) (hne : cs ≠ [])
    (hrun : Lexeme.textRun (cs ++ r) = cs ++ Lexeme.textRun r)
    (hun : unescape (cs ++ Lexeme.textRun r) = unescape cs ++ unescape (Lexeme.textRun r)) :
    l.tokens = Token.joinText (String.ofList (unescape cs)) l.cursor.position
      (l.cursor.position.steps cs) (inFrontOf (l.cursor.position.steps cs) r).tokens := by
  have hall : cs ++ Lexeme.textRun r ≠ [] := by simp [hne]
  have ho : Lexeme.opensParam l.cursor.rest = false := by
    rw [hl]
    exact Lexeme.opensParam_eq_false_of_textRun (hrun ▸ hall)
  have hdrop : l.cursor.rest.drop (cs ++ Lexeme.textRun r).length =
      r.drop (Lexeme.textRun r).length := by
    simp [hl, List.drop_append]
  rw [tokens_of_textRun hi ho (hl ▸ hrun) hall, hdrop, hun, String.ofList_append,
    Position.steps_append]
  -- Either nothing of `r` is text at its front, or its first token is a text.
  by_cases hw : Lexeme.textRun r = []
  · rw [hw, Token.joinText_of_ne_text]
    · simp [unescape]
    · intro w
      rcases Lexeme.textRun_eq_nil hw with rfl | hr
      · simp [tokens_of_none (l := inFrontOf (l.cursor.position.steps cs) []) rfl]
      · obtain ⟨t, ts, ht, hk⟩ :=
          tokens_of_opensParam (l := inFrontOf (l.cursor.position.steps cs) r) hr
        simp [ht, hk]
  · rw [tokens_of_textRun (l := inFrontOf (l.cursor.position.steps cs) r) rfl
      (Lexeme.opensParam_eq_false_of_textRun hw) rfl hw]
    rfl

/-- Behind text outside parameters that is read to the end of a line, the tokens are those of what
follows, and a text at their front is joined with it. -/
theorem tokens_extend_of_textRun (h : EndsLine l.cursor.rest) (hi : l.inParam = false)
    (hr : Lexeme.textRun l.cursor.rest = l.cursor.rest) :
    let value := String.ofList (unescape l.cursor.rest)
    let stop := l.cursor.position.steps l.cursor.rest
    l.tokens = [⟨.text value, l.cursor.position, stop⟩] ∧
      (l.extend r).tokens =
        Token.joinText value l.cursor.position stop (inFrontOf stop r).tokens := by
  intro value stop
  constructor
  · have ho := Lexeme.opensParam_eq_false_of_textRun (hr.symm ▸ h.ne_nil)
    rw [tokens_of_textRun hi ho hr h.ne_nil, List.drop_length]
    rw [tokens_of_none (l := inFrontOf _ []) rfl]
  · -- The run goes on into the text behind it, so that both runs are one token.
    have hrun : Lexeme.textRun (l.cursor.rest ++ r) = l.cursor.rest ++ Lexeme.textRun r := by
      rw [Lexeme.textRun_append r h, hr, if_pos rfl]
    exact tokens_of_textRun_append (l := l.extend r) hi rfl h.ne_nil hrun
      (Lexeme.unescape_append _ h)

/-- Only text outside parameters reaches the end of the line. -/
theorem slice_ne_rest {x : Lexeme} (h : EndsLine l.cursor.rest)
    (hx : l.inParam = true ∨ Lexeme.opensParam l.cursor.rest = true ∨
      Lexeme.textRun l.cursor.rest ≠ l.cursor.rest)
    (hr : Reads l x) : x.slice ≠ l.cursor.rest := by
  by_cases hi : l.inParam = true ∨ Lexeme.opensParam l.cursor.rest = true
  · exact fun hs => hr.newline_not_mem hi (hs ▸ h.mem)
  · have ht : Lexeme.textRun l.cursor.rest ≠ l.cursor.rest :=
      (or_assoc.2 hx).resolve_left hi
    -- Outside parameters only text is read, and this text does not reach the end of the line.
    cases hr with
    | mark m cs hr hd hi' => exact absurd (hi'.imp_right And.right) hi
    | text => exact ht
    | caseMark _ _ _ hi' | index _ _ _ _ hi' | name _ _ _ _ _ hi' | paramText hi' =>
      exact absurd (.inl hi') hi

/-- A step that does not reach the end reads the same token when more characters follow. -/
theorem next?_extend {l' : Lexer} {t : Token} (h : EndsLine l.cursor.rest)
    (hx : l.inParam = true ∨ Lexeme.opensParam l.cursor.rest = true ∨
      Lexeme.textRun l.cursor.rest ≠ l.cursor.rest)
    (hn : l.next? = some (t, l')) :
    (l.extend r).next? = some (t, l'.extend r) ∧ EndsLine l'.cursor.rest := by
  obtain ⟨x, hlex, heq⟩ := Option.map_eq_some_iff.1 hn
  cases heq
  have hr := reads_of_lexeme? hlex
  obtain ⟨s, hs⟩ := hr.slice_isPrefix
  -- What remains of the line is not empty, so the line still ends as it did.
  have hne : s ≠ [] := by
    rintro rfl
    exact slice_ne_rest h hx hr (by simpa using hs)
  have hskip : (l.extend r).skip x = (l.skip x).extend r := by
    simp [skip, extend, Cursor.skip, ← hs]
  constructor
  · rw [next?_of_lexeme? ((lexeme?_extend r h hx).trans hlex), hskip]
    rfl
  · have hdrop : (l.skip x).cursor.rest = s := by simp [skip, ← hs]
    exact hdrop ▸ EndsLine.of_append (hs.symm ▸ h) hne

/-- In front of the end of a line, the lexer either stops before it and reads the same tokens
whatever follows, or it reads some tokens and then text outside parameters up to the end. -/
theorem tokens_extend (h : EndsLine l.cursor.rest) :
    (l.exhausted.cursor.rest ≠ [] ∧ (l.extend r).tokens = l.tokens) ∨
      ∃ ts m, Runs l ts m ∧ Runs (l.extend r) ts (m.extend r) ∧ m.inParam = false ∧
        EndsLine m.cursor.rest ∧ Lexeme.textRun m.cursor.rest = m.cursor.rest := by
  induction hn : l.cursor.rest.length using Nat.strongRecOn generalizing l with
  | ind n ih =>
    subst hn
    -- As long as no text runs up to the end of the line, each step is the same with more behind it.
    by_cases hx : l.inParam = true ∨ Lexeme.opensParam l.cursor.rest = true ∨
        Lexeme.textRun l.cursor.rest ≠ l.cursor.rest
    · cases hl : l.next? with
      -- The lexer has stopped in front of the end of the line.
      | none =>
        have hl' : (l.extend r).next? = none := by
          rw [next?_eq_none_iff, lexeme?_extend r h hx, next?_eq_none_iff.1 hl]
        exact .inl ⟨by simpa [exhausted_of_none hl] using h.ne_nil, by
          rw [tokens_of_none hl, tokens_of_none hl']⟩
      | some p =>
        obtain ⟨t, l'⟩ := p
        obtain ⟨hl', h'⟩ := next?_extend r h hx hl
        rcases ih _ (rest_length_lt_of_next? hl) h' rfl with ⟨hne, ht⟩ | ⟨ts, m, hr, hr', hm⟩
        · exact .inl ⟨by rwa [exhausted_of_some hl], by
            rw [tokens_of_some hl, tokens_of_some hl', ht]⟩
        · exact .inr ⟨t :: ts, m, .step hl hr, .step hl' hr', hm⟩
    -- The text that runs up to the end has been reached.
    · simp only [not_or, Bool.not_eq_true, ne_eq, Decidable.not_not] at hx
      exact .inr ⟨[], l, .done l, .done _, hx.1, h, hx.2.2⟩

end Lexer

end ParamExpansion
