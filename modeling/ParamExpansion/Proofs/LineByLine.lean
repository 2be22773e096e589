import ParamExpansion.Proofs.Evaluation
import ParamExpansion.Text.Streams

/-!
# Expansion line by line

A text can be expanded as a whole or one line at a time. Both ways agree on the result, and on the
first error, whose line counts from the beginning of the line or of the text.
-/

namespace ParamExpansion

namespace Text

/-! ## Lines -/

/-- The lines of some characters, each with the line feed at its end. -/
def cutLines : List Char → List (List Char)
  | [] => []
  | c :: cs => if c = '\n' then [c] :: cutLines cs else prependToFirst [c] (cutLines cs)

/-- The lines of a text. The last one may have no line feed. -/
def lines (text : String) : List String := (cutLines text.toList).map String.ofList

/-- How a text consists of lines. -/
inductive IsCut : String → List String → Prop where
  | nil : IsCut "" []
  | last {text : String} (h : '\n' ∉ text.toList) : IsCut text [text]
  | line {text more : String} {ls : List String} (hline : EndsLine text.toList)
      (hone : text.toList.count '\n' = 1) (h : IsCut more ls) : IsCut (text ++ more) (text :: ls)

theorem cutLines_of_newline {cs : List Char} (h : '\n' ∉ cs) (ds : List Char) :
    cutLines (cs ++ '\n' :: ds) = (cs ++ ['\n']) :: cutLines ds := by
  induction cs with
  | nil => simp [cutLines]
  | cons c cs ih =>
    simp only [List.mem_cons, not_or] at h
    simp [cutLines, Ne.symm h.1, ih h.2, prependToFirst]

theorem cutLines_of_not_mem {c : Char} {cs : List Char} (h : '\n' ∉ c :: cs) :
    cutLines (c :: cs) = [c :: cs] := by
  induction cs generalizing c with
  | nil => simp_all [cutLines, prependToFirst]
  | cons d cs ih =>
    simp only [List.mem_cons, not_or] at h
    rw [cutLines, if_neg (Ne.symm h.1), ih (by simpa using h.2)]
    rfl

theorem lines_append {cs : List Char} (h : '\n' ∉ cs) (more : String) :
    lines (String.ofList (cs ++ ['\n']) ++ more) = String.ofList (cs ++ ['\n']) :: lines more := by
  simp [lines, List.append_assoc, cutLines_of_newline h]

theorem isCut_lines (text : String) : IsCut text (lines text) := by
  induction hn : text.length using Nat.strongRecOn generalizing text with
  | ind n ih =>
    subst hn
    by_cases h : '\n' ∈ text.toList
    -- The text up to its first line feed is a line, and what follows is shorter.
    · obtain ⟨cs, ds, hcs, hmem⟩ := List.eq_append_cons_of_mem h
      obtain rfl : text = String.ofList (cs ++ ['\n']) ++ String.ofList ds := by
        rw [← String.ofList_append, ← String.ofList_toList (s := text), hcs]
        simp
      rw [lines_append hmem]
      refine .line (by simp [EndsLine]) ?_ (ih _ ?_ _ rfl)
      · simp [List.count_append, List.count_eq_zero.2 hmem]
      · have hlen : "\n".length = 1 := rfl
        simp [hlen]
    · obtain ⟨cs, rfl⟩ : ∃ cs, text = String.ofList cs := ⟨text.toList, by simp⟩
      cases cs with
      | nil => exact .nil
      | cons c cs =>
        have hl : lines (String.ofList (c :: cs)) = [String.ofList (c :: cs)] := by
          simp [lines, cutLines_of_not_mem (by simpa using h)]
        rw [hl]
        exact .last h

end Text

/-! ## Errors further on -/

namespace ParseError

@[simp] theorem shift_shift (a b c d : Nat) (e : ParseError) :
    (e.shift a b).shift c d = e.shift (a + c) (b + d) := by
  simp [shift]

end ParseError

namespace ExpansionError

@[simp] theorem shift_zero (e : ExpansionError) : e.shift 0 0 = e := by
  cases e <;> rfl

@[simp] theorem shift_shift (a b c d : Nat) (e : ExpansionError) :
    (e.shift a b).shift c d = e.shift (a + c) (b + d) := by
  cases e <;> simp [shift, EvalError.relocate]

end ExpansionError

namespace Template

open Text

/-- A text forms a template if and only if all its lines do. -/
theorem exists_ok_iff_of_isCut {text : String} {ls : List String} (h : IsCut text ls) :
    (∃ t, ofString text = .ok t) ↔ ∀ l ∈ ls, ∃ t, ofString l = .ok t := by
  induction h with
  | nil => simpa using ⟨_, ofString_empty⟩
  | last => simp
  | @line text more ls hline hone h ih =>
    rw [List.forall_mem_cons, ← ih]
    -- If the first line fails, so does the text. Otherwise the text does what the rest does.
    cases ht : ofString text with
    | error e => simp [ofString_append_of_error hline ht more]
    | ok t =>
      obtain ⟨ns, value, -, hok, herror⟩ := ofString_append_of_ok hline ht more
      cases hu : ofString more with
      | ok u => simp [hok u hu]
      | error e => simp [herror e hu]

/-- The error of a text is that of its first line that forms no template. -/
theorem ofString_error_of_isCut {text : String} {ls : List String} (h : IsCut text ls)
    {before after : List String} {l : String} {e : ParseError} (hls : ls = before ++ l :: after)
    (hbefore : ∀ b ∈ before, ∃ t, ofString b = .ok t) (he : ofString l = .error e) :
    ofString text = .error (e.shift (String.join before).length before.length) := by
  induction h generalizing before with
  | nil => simp at hls
  | last =>
    obtain ⟨rfl, rfl, rfl⟩ := by simpa [List.append_eq_singleton_iff] using hls.symm
    exact he
  | @line text more ls hline hone h ih =>
    cases before with
    | nil =>
      obtain ⟨rfl, -⟩ := List.cons.inj hls
      exact ofString_append_of_error hline he more
    | cons b before =>
      obtain ⟨rfl, hrest⟩ := List.cons.inj hls
      obtain ⟨⟨t, ht⟩, hbefore⟩ := List.forall_mem_cons.1 hbefore
      obtain ⟨ns, value, -, -, herror⟩ := ofString_append_of_ok hline ht more
      -- The error of the rest lies one line further on than in the rest.
      rw [herror _ (ih hrest hbefore), hone, ParseError.shift_shift]
      simp [Nat.add_comm]

end Template

namespace Expander

open Text

variable (x : Expander) {text : String} {ls : List String}

/-- The expansion of a text is that of its lines, one after the other. -/
theorem outcome_expand_of_isCut (h : IsCut text ls)
    (hls : ∀ l ∈ ls, ∃ t, Template.ofString l = .ok t) {values : List String}
    (hv : ls.map (fun l => (x.expand l).outcome) = values.map .ok) :
    (x.expand text).outcome = .ok (String.join values) := by
  induction h generalizing values with
  | nil =>
    obtain rfl : values = [] := by simpa using hv.symm
    rw [outcome_expand_of_ok x Template.ofString_empty]
    rfl
  | last =>
    obtain ⟨value, rfl, hvalue⟩ := List.map_eq_singleton_iff.1 hv.symm
    simpa using hvalue.symm
  -- The first line and the text behind it are templates, so their values are put together.
  | @line text more ls hline hone h ih =>
    obtain ⟨⟨t, ht⟩, hls⟩ := List.forall_mem_cons.1 hls
    obtain ⟨u, hu⟩ := (Template.exists_ok_iff_of_isCut h).2 hls
    obtain ⟨value, values, rfl, hvalue, hvalues⟩ := List.map_eq_cons_iff.1 hv.symm
    rw [outcome_expand_append x hline ht hu, ih hls hvalues.symm,
      show (x.expand text).outcome = .ok value from hvalue.symm]
    simp [pure, Except.pure]

/-- The error of an expansion is that of the first line that has none. -/
theorem outcome_expand_error_of_isCut (h : IsCut text ls)
    (hls : ∀ l ∈ ls, ∃ t, Template.ofString l = .ok t) {before after : List String} {l : String}
    {e : ExpansionError} (hl : ls = before ++ l :: after)
    (hbefore : ∀ b ∈ before, ∃ value, (x.expand b).outcome = .ok value)
    (he : (x.expand l).outcome = .error e) :
    (x.expand text).outcome = .error (e.shift (String.join before).length before.length) := by
  induction h generalizing before with
  | nil => simp at hl
  | last =>
    obtain ⟨rfl, rfl, rfl⟩ := by simpa [List.append_eq_singleton_iff] using hl.symm
    simpa using he
  | @line text more ls hline hone h ih =>
    obtain ⟨⟨t, ht⟩, hrest⟩ := List.forall_mem_cons.1 hls
    obtain ⟨u, hu⟩ := (Template.exists_ok_iff_of_isCut h).2 hrest
    rw [outcome_expand_append x hline ht hu]
    cases before with
    | nil =>
      obtain ⟨rfl, -⟩ := List.cons.inj hl
      simp [he]
    | cons b before =>
      obtain ⟨rfl, hmore⟩ := List.cons.inj hl
      obtain ⟨⟨value, hvalue⟩, hbefore⟩ := List.forall_mem_cons.1 hbefore
      -- The first line has a value, so the error is that of the rest, one line further on.
      rw [hvalue, ih hrest hmore hbefore, hone, ok_bind, mapError_error, error_bind,
        ExpansionError.shift_shift]
      simp [Nat.add_comm]

/-- What fails in a text that forms a template is its evaluation. -/
theorem exists_eval_of_outcome_expand {t : Template} (ht : Template.ofString text = .ok t)
    {e : ExpansionError} (he : (x.expand text).outcome = .error e) : ∃ d, e = .eval d := by
  rw [outcome_expand_of_ok x ht] at he
  cases h : (x.evaluateNodes t.nodes).outcome with
  | ok value => simp [h] at he
  | error d => exact ⟨d, by simpa [h] using he.symm⟩

/-- Expanding a text line by line agrees with expanding it as a whole. The text forms a template if
and only if all its lines do, and otherwise its error is that of the first line that does not. If all
lines form templates, the expansion of the text is that of the lines, one after the other, and
otherwise its error is that of the first line that has no expansion. Errors lie as many lines further
on as there are lines before. -/
theorem expand_lines (text : String) :
    ((∃ t, Template.ofString text = .ok t) ↔
      ∀ l ∈ lines text, ∃ t, Template.ofString l = .ok t) ∧
    (∀ before l after e, lines text = before ++ l :: after →
      (∀ b ∈ before, ∃ t, Template.ofString b = .ok t) → Template.ofString l = .error e →
      ∃ e', Template.ofString text = .error e' ∧ e'.message = e.message ∧
        e'.position.col = e.position.col ∧ e'.position.line = e.position.line + before.length) ∧
    ∀ x : Expander, (∀ l ∈ lines text, ∃ t, Template.ofString l = .ok t) →
      (∀ values : List String,
        (lines text).map (fun l => (x.expand l).outcome) = values.map .ok →
        (x.expand text).outcome = .ok (String.join values)) ∧
      ∀ before l after e, lines text = before ++ l :: after →
        (∀ b ∈ before, ∃ value, (x.expand b).outcome = .ok value) →
        (x.expand l).outcome = .error e →
        ∃ d d', e = .eval d ∧ (x.expand text).outcome = .error (.eval d') ∧
          d'.message = d.message ∧ d'.position.col = d.position.col ∧
          d'.position.line = d.position.line + before.length := by
  -- Everything follows from the text being cut into its lines, by induction on the cut.
  have hcut := isCut_lines text
  refine ⟨Template.exists_ok_iff_of_isCut hcut, ?_, ?_⟩
  · intro before l after e hl hbefore he
    exact ⟨_, Template.ofString_error_of_isCut hcut hl hbefore he, rfl, rfl, rfl⟩
  · intro x hls
    refine ⟨fun values hv => x.outcome_expand_of_isCut hcut hls hv, ?_⟩
    intro before l after e hl hbefore he
    have hmem : l ∈ lines text := by simp [hl]
    obtain ⟨t, ht⟩ := hls l hmem
    obtain ⟨d, rfl⟩ := x.exists_eval_of_outcome_expand ht he
    exact ⟨d, _, rfl, x.outcome_expand_error_of_isCut hcut hls hl hbefore he, rfl, rfl, rfl⟩

/-- A brace that is open at the end of the second line. -/
theorem expand_lines_openBrace :
    ∃ e, Template.ofString "a\n$\x7b" = .error e ∧ e.message = "Expected param, found EOF" ∧
      e.position.line = 2 := by
  have hfirst : tokenize "a\n" = [⟨.text "a\n", .start, ⟨2, 2, 1⟩⟩] := by
    rw [tokenize, Lexer.tokens_of_some rfl, Lexer.tokens_of_none rfl]
    rfl
  have hsecond : tokenize "$\x7b" =
      [⟨.mark .dollar, .start, ⟨1, 1, 2⟩⟩, ⟨.mark .openBrace, ⟨1, 1, 2⟩, ⟨2, 1, 3⟩⟩] := by
    rw [tokenize, Lexer.tokens_of_some rfl, Lexer.tokens_of_some rfl, Lexer.tokens_of_none rfl]
    rfl
  -- The first line is a sentence, and the second one ends behind an opening brace.
  have hyield : Token.kinds (tokenize "a\n") = Derivation.yields [.text "a\n"] :=
    congrArg Token.kinds hfirst
  obtain ⟨t, ht, -⟩ := Template.ofSource_of_sentence (by decide) hyield
  have hnone : Token.kinds [] = Derivation.yields [] := rfl
  have hp := Template.ofSource_of_blocked (by simp) hnone []
    .missingContent (congrArg Token.kinds hsecond) (by simp [hsecond])
  rw [List.nil_append, List.append_nil, ← Template.ofString_eq_ofSource_tokenize] at hp
  rw [← Template.ofString_eq_ofSource_tokenize] at ht
  obtain ⟨e, he, hm, -, hl⟩ := (expand_lines "a\n$\x7b").2.1 ["a\n"] "$\x7b" [] _ rfl
    (by simpa using ⟨t, ht⟩) hp
  exact ⟨e, he, hm, by rw [hl, hsecond]; rfl⟩

end Expander

end ParamExpansion
