import ParamExpansion.Proofs.Continuation
import ParamExpansion.Proofs.Scanning

/-!
# Doubled dollar signs

Whatever a text is, with each dollar sign in it doubled it stands for itself, and so it does in front
of any other text. No dollar sign of the other one is taken as the second half of a pair, since the
pairs are taken from left to right and those of the first text are complete.
-/

namespace ParamExpansion

theorem count_newline_escape (cs : List Char) : (escape cs).count '\n' = cs.count '\n' := by
  induction cs with
  | nil => rfl
  | cons c cs ih =>
    rw [escape_cons, List.count_append, ih]
    split
    · next hc => simp [hc]
    · rw [← List.count_append, List.singleton_append]

theorem escape_of_not_mem {cs : List Char} (h : '$' ∉ cs) : escape cs = cs := by
  induction cs with
  | nil => rfl
  | cons c cs ih =>
    obtain ⟨hc, hcs⟩ := List.ne_and_not_mem_of_not_mem_cons h
    rw [escape_cons, if_neg (Ne.symm hc), ih hcs, List.singleton_append]

/-- The text that stands for a text in every template. -/
def escaped (s : String) : String := .ofList (escape s.toList)

/-- The tokens of escaped text and of what follows: the text is not split, and a text at the front of
the other tokens is joined with it. -/
theorem tokenize_escaped_append {s : String} (hs : s ≠ "") (text : String) :
    tokenize (escaped s ++ text) =
      Token.joinText s .start (Position.start.steps (escape s.toList))
        ((tokenize text).map (Token.relocate (Position.after (escape s.toList)))) := by
  have hrest : (Lexer.ofString (escaped s ++ text)).cursor.rest =
      escape s.toList ++ text.toList := by simp [Lexer.ofString, Cursor.ofString, escaped]
  have hjoin := Lexer.tokens_of_textRun_append rfl hrest (by simpa using hs) (Lexeme.textRun_escape_append _ _)
    (by rw [unescape_escape_append, unescape_escape])
  rw [unescape_escape, String.ofList_toList] at hjoin
  rw [← Lexer.tokens_inFrontOf_after]
  exact hjoin

namespace Template

/-- Escaped text is one text, and what follows it keeps its nodes or its error. -/
theorem ofString_escaped_append {s : String} (hs : s ≠ "") (text : String) :
    ofString (escaped s ++ text) = ((ofString text).map fun t =>
        ⟨Node.joinText s (t.relocate (Position.after (escape s.toList))).nodes⟩).mapError
      (ParseError.relocate (Position.after (escape s.toList))) := by
  rw [ofString_eq_ofSource_tokenize, ofString_eq_ofSource_tokenize, tokenize_escaped_append hs]
  exact ofSource_append_joinText_relocate [] [] [] _ s _ _ rfl (by simp) rfl rfl
    fun _ => head_tokenize

end Template

namespace Expander

variable (x : Expander)

/-- Escaped text stands for itself in front of what the text behind it stands for. -/
theorem outcome_expand_escaped_append (s text : String) :
    (x.expand (escaped s ++ text)).outcome = ((x.expand text).outcome.map (s ++ ·)).mapError
      (ExpansionError.relocate (Position.after (escape s.toList))) := by
  by_cases hs : s = ""
  · subst hs
    have hnone : escaped "" ++ text = text := String.empty_append
    have hplace : Position.after (escape "".toList) = fun p => p := funext Position.after_nil
    rw [hnone, hplace]
    cases (x.expand text).outcome <;> simp [Except.map]
  · -- The text is joined with the nodes of what follows, or that one's syntax error remains.
    have htext := Template.ofString_escaped_append hs text
    cases h : Template.ofString text with
    | error e =>
      rw [h] at htext
      rw [x.outcome_expand_of_error h, x.outcome_expand_of_error htext]
      rfl
    | ok t =>
      rw [h] at htext
      rw [outcome_expand_of_ok x h, outcome_expand_of_ok x htext, outcome_evaluateNodes_joinText,
        Template.relocate, outcome_evaluateNodes_relocate]
      cases (x.evaluateNodes t.nodes).outcome <;> rfl

/-- Doubling the dollar signs of a text makes it stand for itself, whatever follows it. In front of
another text it comes before what that text expands to, and an error of that text stays what it is: it
lies as many characters and lines further on, and on the first line so many columns as there are
characters behind the last line feed of the escaped text. A text without dollar signs needs no
escape. -/
theorem expand_escaped (s : String) :
    (∀ text value, (x.expand text).outcome = .ok value →
      (x.expand (escaped s ++ text)).outcome = .ok (s ++ value)) ∧
    (∀ text e, (x.expand text).outcome = .error e → ∃ p,
      (x.expand (escaped s ++ text)).outcome = .error (e.relocate fun _ => p) ∧
      (e.relocate fun _ => p).message = e.message ∧
      p.index = e.position.index + (escaped s).length ∧
      p.line = e.position.line + s.toList.count '\n' ∧
      p.col = if e.position.line = 1 then
          e.position.col + ((escaped s).toList.reverse.takeWhile (· ≠ '\n')).length
        else e.position.col) ∧
    (x.expand (escaped s)).outcome = .ok s ∧
    ('$' ∉ s.toList → (x.expand s).outcome = .ok s) := by
  -- A text alone is the text in front of nothing.
  have hself : (x.expand (escaped s)).outcome = .ok s := by
    have hempty := x.outcome_expand_escaped_append s ""
    rw [outcome_expand_of_ok x Template.ofString_empty, String.append_empty] at hempty
    exact hempty.trans (by simp [evaluateNodes, Except.map])
  refine ⟨?_, ?_, hself, ?_⟩
  · intro text value h
    rw [outcome_expand_escaped_append, h]
    rfl
  · -- An error is moved as far as the escaped text reaches.
    intro text e h
    have hmoved := x.outcome_expand_escaped_append s text
    rw [h] at hmoved
    refine ⟨e.position.after (escape s.toList), ?_, e.message_relocate _, ?_, ?_, ?_⟩
    · rw [← e.relocate_eq]
      exact hmoved
    · simp [Position.after, escaped]
    · simp [Position.after, count_newline_escape]
    · simp [Position.after, escaped]
  · -- Without a dollar sign the text is its own escaped form.
    intro hs
    have hsame : escaped s = s := by rw [escaped, escape_of_not_mem hs, String.ofList_toList]
    rwa [hsame] at hself

/-- A line feed and a dollar sign in front of a parameter, with a value and without one. -/
theorem expand_escaped_dollar :
    let x : Expander := { values := { named := (∅ : Bindings).insert "a" "b" } }
    let strict : Expander := { values := { strict := true } }
    (x.expand "\n$$$a").outcome = .ok "\n$b" ∧
    (∃ p, (strict.expand "\n$$$a").outcome = .error (.eval ⟨.unset (.named "a") false, p⟩) ∧
      p.index = 3 ∧ p.line = 2 ∧ p.col = 3) ∧
    (x.expand "\x7d").outcome = .ok "\x7d" := by
  intro x strict
  have htokens : tokenize "$a" =
      [⟨.mark .dollar, .start, ⟨1, 1, 2⟩⟩, ⟨.name "a", ⟨1, 1, 2⟩, ⟨2, 1, 3⟩⟩] := by
    rw [tokenize, Lexer.tokens_of_some rfl, Lexer.tokens_of_some rfl, Lexer.tokens_of_none rfl]
    rfl
  -- The general theorem is applied to the expansion of the parameter alone.
  have hnodes : Template.ofString "$a" = .ok ⟨[.simple (.named "a") none .start]⟩ := by
    rw [Template.ofString_eq_ofSource_tokenize, htokens]
    exact Template.ofSource_eq_of_sentence [.plain (.named "a")] (by decide) rfl rfl rfl
  have hvalue : (x.expand "$a").outcome = .ok "b" := outcome_expand_of_ok x hnodes
  have herror : (strict.expand "$a").outcome = .error (.eval ⟨.unset (.named "a") false, .start⟩) :=
    outcome_expand_of_ok strict hnodes
  refine ⟨(x.expand_escaped "\n$").1 "$a" "b" hvalue, ?_,
    (x.expand_escaped "\x7d").2.2.2 (by decide)⟩
  obtain ⟨p, hout, -, hindex, hline, hcol⟩ := (strict.expand_escaped "\n$").2.1 "$a" _ herror
  exact ⟨p, hout, hindex, hline, hcol⟩

end Expander

end ParamExpansion
