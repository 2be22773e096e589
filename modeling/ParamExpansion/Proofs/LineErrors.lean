import ParamExpansion.Proofs.LineByLine
import ParamExpansion.Proofs.Tiling
import ParamExpansion.Proofs.ViablePrefix

/-!
# Errors lie on their line

No token that the parser takes before a syntax error reaches over the end of a line: text outside
parameters is never unexpected, and no other token holds a line feed. So the error of a single line
lies on this line, in front of its end, and that of an evaluation in front of a dollar sign.
-/

namespace ParamExpansion

open Token (Kind kinds nestings)

/-! ## Lines -/

namespace Text

/-- A line without the line feed at its end. -/
def body (line : String) : List Char := line.toList.takeWhile (· ≠ '\n')

/-- Whether a text is a single line. -/
def IsLine (line : String) : Prop :=
  line.toList = body line ∨ line.toList = body line ++ ['\n']

theorem newline_not_mem_body (line : String) : '\n' ∉ body line := by
  intro h
  simpa using List.mem_takeWhile_imp h

/-- Only the line feed at the end of a line is not part of its body. -/
theorem IsLine.lt_of_getElem? {line : String} (h : IsLine line) {i : Nat} {c : Char}
    (hi : line.toList[i]? = some c) (hc : c ≠ '\n') : i < (body line).length := by
  rcases h with hbody | hbody
  · rw [hbody] at hi
    exact (List.getElem?_eq_some_iff.1 hi).1
  · refine Nat.lt_of_not_le ?_
    intro hle
    rw [hbody, List.getElem?_append_right hle] at hi
    obtain rfl : c = '\n' := List.mem_singleton.1 (List.mem_of_getElem? hi)
    exact hc rfl

/-- The lines of a text are single lines. -/
theorem isLine_of_mem_lines {text line : String} (h : line ∈ lines text) : IsLine line := by
  have hcut := isCut_lines text
  generalize lines text = ls at h hcut
  induction hcut with
  | nil => cases h
  | @last text hlast =>
    obtain rfl := List.mem_singleton.1 h
    refine .inl (Eq.symm ?_)
    rw [body, List.takeWhile_eq_self_iff]
    intro c hc
    have hne : c ≠ '\n' := fun heq => hlast (heq ▸ hc)
    simpa using hne
  | @line text more ls hends hone _ ih =>
    rcases List.mem_cons.1 h with rfl | h
    · -- The only line feed is the one at the end.
      obtain ⟨cs, hcs⟩ : ∃ cs, line.toList = cs ++ ['\n'] := List.getLast?_eq_some_iff.1 hends
      have hnone : '\n' ∉ cs := by
        rw [hcs, List.count_append] at hone
        exact List.count_eq_zero.1 (by simpa using hone)
      refine .inr ?_
      have hbody : body line = cs := by
        rw [body, hcs, List.takeWhile_append_of_pos fun c hc => ?_]
        · simp
        · have hne : c ≠ '\n' := fun heq => hnone (heq ▸ hc)
          simpa using hne
      rw [hcs, hbody]
    · -- The other lines are those of the text behind the first one.
      exact ih h

end Text

/-! ## Positions on the first line -/

/-- In front of the first line feed, the column counts the characters. -/
theorem Position.LiesIn.on_first_line {p : Position} {text : String} (h : p.LiesIn text)
    (hp : p.index ≤ (Text.body text).length) : p.line = 1 ∧ p.col = p.index + 1 := by
  obtain ⟨more, hmore⟩ := List.takeWhile_prefix (l := text.toList) (· ≠ '\n')
  have htake : text.toList.take p.index = (Text.body text).take p.index := by
    conv_lhs => rw [← hmore]
    exact List.take_append_of_le_length hp
  -- Up to the position there is no line feed.
  have hnone : '\n' ∉ (Text.body text).take p.index :=
    fun hmem => Text.newline_not_mem_body text (List.mem_of_mem_take hmem)
  constructor
  · rw [h.line_eq, htake, List.count_eq_zero.2 hnone]
  · rw [h.col_eq, htake, takeWhile_reverse_of_not_mem hnone, List.length_reverse,
      List.length_take_of_le hp, Nat.add_comm]

/-! ## Syntax errors -/

theorem Token.Tile.stop_le {p q : Position} {ts : List Token} (h : Tile p ts q) {t : Token}
    (ht : t ∈ ts) : t.stop.index ≤ q.index := by
  induction ts generalizing p with
  | nil => cases ht
  | cons u ts ih =>
    obtain ⟨-, -, hrest⟩ := h
    rcases List.mem_cons.1 ht with rfl | ht
    · exact Nat.le_trans (Nat.le_add_right _ _) hrest.length_le
    · exact ih hrest ht

namespace Template

open ParamExpansion.Derivation Lexer ParamExpansion.Parser

/-- The tokens of a line stop before its end, except for a text outside parameters behind them. -/
theorem tokens_stop_lt {text : String} (hline : EndsLine text.toList) :
    (∀ t ∈ tokenize text, t.stop.index < text.length) ∨
      ∃ ts t value, tokenize text = ts ++ [t] ∧ t.kind = .text value ∧ nestings (kinds ts) 0 = 0 ∧
        (kinds ts).getLast? ≠ some (.mark .dollar) ∧ ∀ u ∈ ts, u.stop.index < text.length := by
  -- Where a lexer stands in front of some characters, the tokens before it stop before the end.
  have hlt {ts : List Token} {l : Lexer} (hr : Runs (.ofString text) ts l)
      (hne : l.cursor.rest ≠ []) : ∀ t ∈ ts, t.stop.index < text.length := by
    intro t ht
    obtain ⟨cs, hc, hp⟩ := hr.covers
    have hstop : t.stop.index ≤ l.cursor.position.index := hr.tile.stop_le ht
    have hindex : l.cursor.position.index = cs.length := by
      rw [hp]
      exact Position.index_start_steps cs
    have hlength : text.length = cs.length + l.cursor.rest.length := by
      rw [← String.length_toList, ← List.length_append, ← hc]
      rfl
    have hpos := List.length_pos_iff.2 hne
    omega
  rcases tokens_extend (l := Lexer.ofString text) [] hline with
    ⟨hne, -⟩ | ⟨ts, m, hr, -, hi, hm, hrun⟩
  · exact .inl (hlt (runs_exhausted (.ofString text)).1 hne)
  · have htokens : tokenize text = ts ++ m.tokens := hr.tokens_eq
    rw [(tokens_extend_of_textRun [] hm hi hrun).1] at htokens
    refine .inr ⟨ts, _, _, htokens, rfl, ?_, ?_, hlt hr hm.ne_nil⟩
    · exact hr.nesting_eq.symm.trans (nesting_of_inParam_eq_false hi)
    · intro hd
      have hprev : m.previous = some (.mark .dollar) := by
        rw [hr.previous_eq, hd]
        rfl
      simp [inParam, hprev] at hi

/-- The syntax error of a line lies before its end. -/
theorem index_lt_of_error {text : String} (hline : EndsLine text.toList) {e : ParseError}
    (h : ofString text = .error e) : e.position.index < text.length := by
  rcases tokens_stop_lt hline with hall | ⟨ts, t, value, htokens, ht, hn, hdollar, hall⟩
  · obtain ⟨u, hu, hp⟩ := exists_stop_of_error h
    exact hp ▸ hall u hu
  · obtain ⟨ds, vs, us, rest, hts, hv, hd, hne, hb, hp⟩ := exists_blocked_of_error h
    have hvs : nestings (kinds vs) 0 = 0 := by rw [hv, nestings_yields]
    have hrest : us ++ rest ≠ [] := by
      -- Otherwise the tokens would be those of complete nodes.
      intro hnil
      obtain ⟨u, hu, -⟩ := ofSource_of_sentence hd hv
      rw [hnil, List.append_nil] at hts
      rw [ofString_eq_ofSource_tokenize, hts] at h
      cases h.symm.trans hu
    obtain ⟨r, more, rfl, rfl⟩ := hb.exists_of_concat_text hrest (htokens.symm.trans hts) ht hvs hn
      hdollar
    -- The text at the end is not among the tokens that have been taken.
    have htaken : vs ++ us ++ offending e.cause (r :: (more ++ [t])) <+: vs ++ (us ++ r :: more) := by
      rw [offending_cons e.cause r (more ++ [t]) more, ← List.append_assoc]
      exact (List.prefix_append_right_inj _).2 (offending_isPrefix e.cause _)
    have hread : vs ++ us ++ offending e.cause (r :: (more ++ [t])) ≠ [] :=
      List.append_ne_nil_of_left_ne_nil hne _
    obtain ⟨u, hu, hstop⟩ := exists_mem_behind_eq hread
    rw [hp, hstop]
    exact hall u (htaken.subset hu)

/-- The syntax error of a line lies in the line, no further than behind its body. -/
theorem liesIn_of_error_on_line {line : String} (hline : Text.IsLine line) {e : ParseError}
    (h : ofString line = .error e) :
    e.position.LiesIn line ∧ e.position.index ≤ (Text.body line).length := by
  obtain ⟨token, hmem, hstop⟩ := exists_stop_of_error h
  have hlies : e.position.LiesIn line := hstop ▸ (standsIn_of_mem_tokenize hmem).liesIn.2
  refine ⟨hlies, ?_⟩
  have hle := hlies.index_le
  rw [← String.length_toList] at hle
  rcases hline with hbody | hbody
  · rwa [hbody] at hle
  · -- The line feed is not among what has been read.
    have hends : EndsLine line.toList := by simp [EndsLine, hbody]
    have hlt := index_lt_of_error hends h
    rw [← String.length_toList, hbody, List.length_append, List.length_singleton] at hlt
    exact Nat.le_of_lt_succ hlt

end Template

namespace Expander

variable {x : Expander}

/-- An expansion fails because the text is no template, or else because its template fails. -/
theorem error_of_outcome_expand {text : String} {e : ExpansionError}
    (h : (x.expand text).outcome = .error e) :
    (∃ d, e = .parse d ∧ Template.ofString text = .error d) ∨
      ∃ t d, e = .eval d ∧ Template.ofString text = .ok t ∧ (x.evaluate t).outcome = .error d := by
  cases ht : Template.ofString text with
  | error d =>
    simp only [expand, ht, Traced.outcome_throw] at h
    cases h
    exact .inl ⟨d, rfl, rfl⟩
  | ok t =>
    simp only [expand, ht, Traced.outcome_mapError] at h
    cases hd : (x.evaluate t).outcome with
    | ok value => simp [hd] at h
    | error d =>
      rw [hd] at h
      cases h
      exact .inr ⟨t, d, rfl, rfl, hd⟩

/-- The error of a single line lies on this line, no further than behind its last character, and that
of an evaluation in front of a dollar sign. -/
theorem error_on_line {line : String} (hline : Text.IsLine line) {e : ExpansionError}
    (h : (x.expand line).outcome = .error e) :
    e.position.line = 1 ∧ e.position.col ≤ (Text.body line).length + 1 ∧
      ∀ d, e = .eval d → line.toList[e.position.col - 1]? = some '$' := by
  obtain ⟨hlies, hindex, hdollar⟩ : e.position.LiesIn line ∧
      e.position.index ≤ (Text.body line).length ∧
      ∀ d, e = .eval d → line.toList[e.position.index]? = some '$' := by
    rcases error_of_outcome_expand h with ⟨d, rfl, hd⟩ | ⟨t, d, rfl, ht, hd⟩
    · obtain ⟨hlies, hle⟩ := Template.liesIn_of_error_on_line hline hd
      exact ⟨hlies, hle, nofun⟩
    -- The error of an evaluation lies at one of the parameters.
    · have hmem := position_mem_of_evaluate hd
      have hdollar := Template.getElem?_of_mem_positions ht hmem
      have hlt := hline.lt_of_getElem? hdollar (by decide)
      exact ⟨(Template.liesIn_of_mem_positions ht hmem).1, Nat.le_of_lt hlt, fun _ _ => hdollar⟩
  obtain ⟨hfirst, hcol⟩ := hlies.on_first_line hindex
  refine ⟨hfirst, by omega, ?_⟩
  intro d hd
  rw [hcol, Nat.add_sub_cancel]
  exact hdollar d hd

end Expander

end ParamExpansion
