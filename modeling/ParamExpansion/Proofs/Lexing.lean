import ParamExpansion.Token.Lexer

/-!
# Reading the tokens of a text

What one step of the lexer can do is said here once, by `Lexer.Reads`: a token of which class it
reads, from which characters, and in which state. What holds of all tokens of a text follows by
induction over the steps.
-/

namespace ParamExpansion

open Token (Kind)

/-! ## What stands at the front -/

namespace Lexeme

theorem opensParam_iff {cs : List Char} :
    opensParam cs = true ↔
      ∃ c r, cs = '$' :: c :: r ∧ c ≠ '$' ∧ c ≠ '\n' ∧ c ≠ '\r' := by
  unfold opensParam
  split
  · simp [and_assoc]
  · next hn => simp only [Bool.false_eq_true, false_iff]; rintro ⟨c, r, rfl, -⟩; exact hn c r rfl

theorem mark?_cons (c : Char) (cs : List Char) :
    mark? (c :: cs) = if c = '$' ∧ cs.head? = some '$' then none else Mark.ofChar? c := by
  unfold mark?
  split
  · next h => cases h; simp
  · next hn h =>
    cases h
    rw [if_neg]
    rintro ⟨rfl, h⟩
    obtain ⟨r, rfl⟩ := List.head?_eq_some_iff.1 h
    exact hn r rfl rfl
  · next h => cases h

theorem mark?_of_opensParam {cs : List Char} (h : opensParam cs = true) :
    mark? cs = some .dollar := by
  obtain ⟨c, r, rfl, hc, -⟩ := opensParam_iff.1 h
  rw [mark?_cons, if_neg (by simpa using hc)]
  rfl

theorem mark?_eq_some {cs : List Char} {m : Mark} (h : mark? cs = some m) :
    ∃ r, cs = m.char :: r ∧ (m = .dollar → r.head? ≠ some '$') := by
  cases cs with
  | nil => cases h
  | cons c r =>
    rw [mark?_cons] at h
    split at h
    · cases h
    · next hn =>
      have hc := Mark.char_of_ofChar? h
      exact ⟨r, by rw [hc], fun hm hr => hn ⟨by rw [← hc, hm]; rfl, hr⟩⟩

theorem text?_eq_some {run : List Char} {x : Lexeme} (h : text? run = some x) :
    run ≠ [] ∧ x = ⟨.text (String.ofList (unescape run)), run⟩ := by
  unfold text? at h
  split at h
  · cases h
  · next hr => cases h; exact ⟨by simpa using hr, rfl⟩

/-! ## Runs of text -/

theorem textRun_cons {c : Char} {cs : List Char} (h : ¬ (c = '$' ∧ cs.head? = some '$')) :
    textRun (c :: cs) = if opensParam (c :: cs) then [] else c :: textRun cs := by
  rw [textRun]
  rintro s rfl rfl
  exact h ⟨rfl, rfl⟩

/-- Inside a parameter text is a run of the characters that do not end it, be they doubled or not. -/
theorem paramTextRun_eq_takeWhile (cs : List Char) :
    paramTextRun cs = cs.takeWhile fun c => c ≠ '}' && c ≠ '\n' := by
  fun_induction paramTextRun cs with
  | case1 cs ih => simp [ih]
  | case2 c cs _ hc =>
    have hc' : c = '}' ∨ c = '\n' := by simpa using hc
    rcases hc' with rfl | rfl <;> simp
  | case3 c cs _ hc ih => rw [List.takeWhile_cons_of_pos (by simpa using hc), ih]
  | case4 => rfl

theorem textRun_of_opensParam {cs : List Char} (h : opensParam cs = true) : textRun cs = [] := by
  obtain ⟨c, r, rfl, hc, -⟩ := opensParam_iff.1 h
  rw [textRun_cons (by simpa using hc), if_pos h]

theorem opensParam_eq_false_of_textRun {cs : List Char} (h : textRun cs ≠ []) :
    opensParam cs = false := by
  rw [Bool.eq_false_iff]
  exact fun ho => h (textRun_of_opensParam ho)

theorem textRun_isPrefix (cs : List Char) : textRun cs <+: cs := by
  fun_induction textRun cs with
  | case1 cs ih => exact List.cons_prefix_cons.2 ⟨rfl, List.cons_prefix_cons.2 ⟨rfl, ih⟩⟩
  | case2 => exact List.nil_prefix
  | case3 c cs _ _ ih => exact List.cons_prefix_cons.2 ⟨rfl, ih⟩
  | case4 => exact List.nil_prefix

theorem paramTextRun_isPrefix (cs : List Char) : paramTextRun cs <+: cs :=
  paramTextRun_eq_takeWhile cs ▸ List.takeWhile_prefix _

/-- Outside a parameter, text only ends where a parameter starts. -/
theorem textRun_eq_nil {cs : List Char} (h : textRun cs = []) :
    cs = [] ∨ opensParam cs = true := by
  fun_cases textRun cs with
  | case1 cs => simp [textRun] at h
  | case2 c cs _ ho => exact .inr ho
  | case3 c cs hn ho => simp [textRun, ho] at h
  | case4 => exact .inl rfl

/-- Inside a parameter, text only ends at a closing brace or at the end of the line. -/
theorem paramTextRun_eq_nil {cs : List Char} (h : paramTextRun cs = []) :
    cs = [] ∨ cs.head? = some '}' ∨ cs.head? = some '\n' := by
  rw [paramTextRun_eq_takeWhile] at h
  cases cs with
  | nil => exact .inl rfl
  | cons c cs =>
    by_cases hc : c = '}' ∨ c = '\n'
    · simpa using hc
    · rw [List.takeWhile_cons_of_pos (by simpa using hc)] at h
      cases h

theorem ne_of_mem_paramTextRun {c : Char} {cs : List Char} (h : c ∈ paramTextRun cs) :
    c ≠ '}' ∧ c ≠ '\n' := by
  rw [paramTextRun_eq_takeWhile] at h
  simpa using List.all_eq_true.1 List.all_takeWhile c h

theorem eq_nil_of_text?_eq_none {run : List Char} (h : text? run = none) : run = [] := by
  simpa [text?] using h

/-- Where nothing is read inside a parameter, neither an operator nor text comes next. -/
theorem inParam?_eq_none {previous : Option Kind} {cs : List Char}
    (h : inParam? previous cs = none) : mark? cs = none ∧ paramTextRun cs = [] := by
  unfold inParam? at h
  -- Every branch ends with a run of text, so nothing is read only if that run is empty.
  split at h
  · cases h
  · next hm =>
    refine ⟨hm, ?_⟩
    split at h
    · split at h
      · cases h
      · exact eq_nil_of_text?_eq_none h
    · split at h
      · rw [Option.orElse_eq_orElse, Option.orElse_eq_or, Option.or_eq_none_iff] at h
        exact eq_nil_of_text?_eq_none h.2
      · exact eq_nil_of_text?_eq_none h

end Lexeme

namespace Lexer

/-! ## One step -/

theorem inParam_iff {l : Lexer} :
    l.inParam = true ↔ 0 < l.nesting ∨ l.previous = some (.mark .dollar) := by
  simp [inParam]

/-- What a step of the lexer can read. -/
inductive Reads (l : Lexer) : Lexeme → Prop where
  /-- An operator, inside a parameter, or the dollar sign that starts one. -/
  | mark (m : Mark) (cs : List Char) (hr : l.cursor.rest = m.char :: cs)
      (hd : m = .dollar → cs.head? ≠ some '$')
      (hi : l.inParam = true ∨ m = .dollar ∧ Lexeme.opensParam l.cursor.rest = true) :
      Reads l ⟨.mark m, [m.char]⟩
  /-- A change of case, behind an identifier or another change of case. -/
  | caseMark (k : CaseChange) (cs : List Char) (hr : l.cursor.rest = k.char :: cs)
      (hi : l.inParam = true) (hp : l.previous.any (·.admitsCaseMark) = true) :
      Reads l ⟨.caseMark k, [k.char]⟩
  /-- The longest run of numeric characters, behind a token that introduces an identifier. -/
  | index (c : Char) (cs : List Char) (hr : l.cursor.rest = c :: cs)
      (hc : Text.isNumeric c = true) (hi : l.inParam = true)
      (hp : l.previous.any (·.introducesIdentifier) = true) :
      Reads l ⟨.index (Index.read (l.cursor.rest.takeWhile Text.isNumeric)),
        l.cursor.rest.takeWhile Text.isNumeric⟩
  /-- The longest run of characters of a name, behind a token that introduces an identifier. -/
  | name (c : Char) (cs : List Char) (hr : l.cursor.rest = c :: cs)
      (hn : Text.isNumeric c = false) (hc : isNameChar c = true) (hi : l.inParam = true)
      (hp : l.previous.any (·.introducesIdentifier) = true) :
      Reads l ⟨.name (String.ofList (l.cursor.rest.takeWhile isNameChar)),
        l.cursor.rest.takeWhile isNameChar⟩
  /-- Text inside a parameter. -/
  | paramText (hi : l.inParam = true) (hm : Lexeme.mark? l.cursor.rest = none)
      (hne : Lexeme.paramTextRun l.cursor.rest ≠ []) :
      Reads l ⟨.text (String.ofList (unescape (Lexeme.paramTextRun l.cursor.rest))),
        Lexeme.paramTextRun l.cursor.rest⟩
  /-- Text outside a parameter. -/
  | text (hi : l.inParam = false) (ho : Lexeme.opensParam l.cursor.rest = false)
      (hne : Lexeme.textRun l.cursor.rest ≠ []) :
      Reads l ⟨.text (String.ofList (unescape (Lexeme.textRun l.cursor.rest))),
        Lexeme.textRun l.cursor.rest⟩

theorem lexeme?_inside {l : Lexer}
    (h : l.inParam = true ∨ Lexeme.opensParam l.cursor.rest = true) :
    l.lexeme? = Lexeme.inParam? l.previous l.cursor.rest := if_pos (by simpa using h)

theorem lexeme?_outside {l : Lexer} (hi : l.inParam = false)
    (ho : Lexeme.opensParam l.cursor.rest = false) :
    l.lexeme? = Lexeme.text? (Lexeme.textRun l.cursor.rest) := if_neg (by simp [hi, ho])

theorem reads_of_text? {l : Lexer} {x : Lexeme} (hi : l.inParam = true)
    (hm : Lexeme.mark? l.cursor.rest = none)
    (h : Lexeme.text? (Lexeme.paramTextRun l.cursor.rest) = some x) : Reads l x := by
  obtain ⟨hne, rfl⟩ := Lexeme.text?_eq_some h
  exact .paramText hi hm hne

theorem reads_of_identifier? {l : Lexer} {x : Lexeme} (hi : l.inParam = true)
    (hp : l.previous.any (·.introducesIdentifier) = true)
    (h : Lexeme.identifier? l.cursor.rest = some x) : Reads l x := by
  cases hr : l.cursor.rest with
  | nil => rw [hr] at h; cases h
  | cons c cs =>
    rw [hr, Lexeme.identifier?] at h
    -- A numeric character begins an index, any other character of names a name.
    split at h
    · next hc => cases h; exact hr ▸ .index c cs hr hc hi hp
    · next hn =>
      split at h
      · next hc => cases h; exact hr ▸ .name c cs hr (by simpa using hn) hc hi hp
      · cases h

theorem reads_of_inParam? {l : Lexer} {x : Lexeme} (hi : l.inParam = true)
    (h : Lexeme.inParam? l.previous l.cursor.rest = some x) : Reads l x := by
  unfold Lexeme.inParam? at h
  split at h
  -- Operators come before all else.
  · next m hm =>
    cases h
    obtain ⟨r, hr, hd⟩ := Lexeme.mark?_eq_some hm
    exact hr ▸ .mark m r hr hd (.inl hi)
  · next hm =>
    split at h
    · next k hk =>
      split at h
      · next hp =>
        cases h
        obtain ⟨c, hc, hk⟩ := Option.bind_eq_some_iff.1 hk
        obtain ⟨r, hr⟩ := List.head?_eq_some_iff.1 hc
        have hr' : l.cursor.rest = k.char :: r := by rw [hr, CaseChange.char_of_ofChar? hk]
        exact hr' ▸ .caseMark k r hr' hi hp
      · exact reads_of_text? hi hm h
    · split at h
      · next hp =>
        -- An identifier is tried first, and text is what remains.
        rcases Option.or_eq_some_iff.1 (Option.orElse_eq_or.symm.trans h) with h | ⟨-, h⟩
        · exact reads_of_identifier? hi hp h
        · exact reads_of_text? hi hm h
      · exact reads_of_text? hi hm h

theorem reads_of_lexeme? {l : Lexer} {x : Lexeme} (h : l.lexeme? = some x) : Reads l x := by
  unfold lexeme? at h
  split at h
  · next ho =>
    cases hi : l.inParam with
    | true => exact reads_of_inParam? hi h
    -- Outside a parameter only the dollar sign that starts one is read in this way.
    | false =>
      rw [hi, Bool.false_or] at ho
      have hm := Lexeme.mark?_of_opensParam ho
      obtain ⟨r, hr, hd⟩ := Lexeme.mark?_eq_some hm
      rw [Lexeme.inParam?, hm] at h
      cases h
      exact hr ▸ .mark .dollar r hr hd (.inr ⟨rfl, ho⟩)
  · next ho =>
    simp only [Bool.or_eq_true, not_or, Bool.not_eq_true] at ho
    obtain ⟨hne, rfl⟩ := Lexeme.text?_eq_some h
    exact .text ho.1 ho.2 hne

/-- The characters of a token are those that come next. -/
theorem Reads.slice_isPrefix {l : Lexer} {x : Lexeme} (h : Reads l x) :
    x.slice <+: l.cursor.rest := by
  cases h with
  | mark m cs hr | caseMark k cs hr => exact hr ▸ List.cons_prefix_cons.2 ⟨rfl, List.nil_prefix⟩
  | index | name => exact List.takeWhile_prefix _
  | paramText => exact Lexeme.paramTextRun_isPrefix _
  | text => exact Lexeme.textRun_isPrefix _

/-- Only text outside parameters contains the end of a line. -/
theorem Reads.newline_not_mem {l : Lexer} {x : Lexeme} (h : Reads l x)
    (hi : l.inParam = true ∨ Lexeme.opensParam l.cursor.rest = true) : '\n' ∉ x.slice := by
  cases h with
  | mark m => cases m <;> decide
  | caseMark k => cases k <;> decide
  | index => exact fun h => absurd (List.all_eq_true.1 List.all_takeWhile _ h) (by decide)
  | name => exact fun h => absurd (List.all_eq_true.1 List.all_takeWhile _ h) (by decide)
  -- Text inside a parameter stops in front of the end of the line.
  | paramText => exact fun h => (Lexeme.ne_of_mem_paramTextRun h).2 rfl
  | text hi' ho => simp_all

/-- Reading stops at the end of the text, or at the end of a line inside a parameter. -/
theorem stopped_of_lexeme?_eq_none {l : Lexer} (h : l.lexeme? = none) :
    l.cursor.rest = [] ∨ l.inParam = true ∧ l.cursor.rest.head? = some '\n' := by
  unfold lexeme? at h
  split at h
  · next ho =>
    obtain ⟨hm, ht⟩ := Lexeme.inParam?_eq_none h
    have hi : l.inParam = true := by
      cases hi : l.inParam with
      | true => rfl
      | false => simp [Lexeme.mark?_of_opensParam (by simpa [hi] using ho)] at hm
    -- Neither an operator nor text comes next, so a closing brace cannot be next either.
    rcases Lexeme.paramTextRun_eq_nil ht with hr | hr | hr
    · exact .inl hr
    · obtain ⟨r, hr⟩ := List.head?_eq_some_iff.1 hr
      simp [hr, Lexeme.mark?_cons] at hm
      cases hm
    · exact .inr ⟨hi, hr⟩
  · next ho =>
    simp only [Bool.or_eq_true, not_or, Bool.not_eq_true] at ho
    rcases Lexeme.textRun_eq_nil (Lexeme.eq_nil_of_text?_eq_none h) with hr | hr
    · exact .inl hr
    · simp [hr] at ho

end Lexer

end ParamExpansion
