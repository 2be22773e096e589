import ParamExpansion.Proofs.Continuation
import ParamExpansion.Proofs.Rendering
import ParamExpansion.Proofs.Tiling

/-!
# Parameters with braces and without

A parameter that only stands for a value can be written with braces or without. The lexer leaves it
by way of the closing brace or by way of its identifier, and stands outside parameters then, where the
token before does not matter. So what follows is read in the same way, up to the places.
-/

namespace ParamExpansion

open Token (Kind kinds nestings)

/-! ## Behind a parameter -/

/-- Once some characters are read that leave the lexer outside parameters, the tokens of what follows
are its own, further on. -/
theorem tokenize_of_scans {cs : List Char} {ks : List Kind} {text : String}
    (h : Scans none 0 cs ks text.toList) (hn : nestings ks 0 = 0)
    (hl : ks.getLast? ≠ some (.mark .dollar)) :
    ∃ ts, kinds ts = ks ∧ Token.Tile .start ts (Position.start.steps cs) ∧
      tokenize (.ofList cs ++ text) =
        ts ++ (tokenize text).map (Token.relocate (Position.after cs)) := by
  obtain ⟨ts, p, hr, hk⟩ := h .start
  obtain ⟨slice, hrest, hp⟩ := hr.covers
  obtain rfl : cs = slice := List.append_cancel_right hrest
  obtain rfl : p = Position.start.steps cs := hp
  refine ⟨ts, hk, hr.tile, ?_⟩
  have hstart : Lexer.ofString (.ofList cs ++ text) = ⟨⟨cs ++ text.toList, .start⟩, none, 0⟩ := by
    simp [Lexer.ofString, Cursor.ofString]
  -- Behind the form the lexer is outside again, so the rest is read like a text of its own.
  rw [tokenize, hstart, hr.tokens_eq, hn, Option.or_none, Lexer.tokens_outside _ hl]
  exact congrArg _ (Lexer.tokens_inFrontOf_after cs text)

/-- A text that starts with no dollar sign has a text as its first token, whatever it starts with. -/
theorem exists_text_of_head_ne {text : String} {c : Char} (hc : c ∈ text.toList.head?)
    (h : c ≠ '$') : ∃ value more, value.toList.head? = some c ∧
      kinds (tokenize text) = .text value :: more := by
  obtain ⟨r, hr⟩ := List.head?_eq_some_iff.1 hc
  have hrest : (Lexer.ofString text).cursor.rest = c :: r := hr
  have ho := Lexeme.opensParam_of_ne h r
  -- The run of text begins with the character.
  have hrun : Lexeme.textRun (c :: r) = c :: Lexeme.textRun r := by
    rw [Lexeme.textRun_cons (by simp [h]), if_neg (by simp [ho])]
  have htokens := Lexer.tokens_of_textRun (l := .ofString text) rfl (hrest ▸ ho)
    (hrest ▸ hrun) (List.cons_ne_nil _ _)
  rw [unescape_cons_of_ne h] at htokens
  exact ⟨_, _, by simp, congrArg kinds htokens⟩

/-- A derivation whose only dollar sign is its first token. -/
def Derivation.IsSimple (d : Derivation) : Prop :=
  ∃ ks, d.yield = .mark .dollar :: ks ∧ .mark .dollar ∉ ks

namespace Template

open ParamExpansion.Derivation ParamExpansion.Parser

/-- A simple parameter at the beginning of a text comes before the nodes of what follows. -/
theorem ofString_append_of_scans {cs : List Char} {d : Derivation} {n : Node} {text : String}
    (hd : d.IsSimple) (hheight : d.height ≤ maxNesting) (hn : n.unplaced = d.node)
    (hp : n.positions = [.start]) (h : Scans none 0 cs d.yield text.toList) :
    ofString (.ofList cs ++ text) =
      ((ofString text).map fun t => ⟨n :: (t.relocate (Position.after cs)).nodes⟩).mapError
        (ParseError.relocate (Position.after cs)) := by
  obtain ⟨ks, hyield, hks⟩ := hd
  have hlast : d.yield.getLast? ≠ some (.mark .dollar) := by
    rcases d.getLast?_yield with ⟨value, rfl⟩ | ⟨id, hid⟩ | hc
    · cases hyield
    · simp [hid]
    · simp [hc]
  obtain ⟨ts, hkinds, htile, htokens⟩ := tokenize_of_scans h (nestings_yield d 0) hlast
  -- The dollar sign of the parameter is the first token, and the only dollar sign.
  have hdollars : [n].flatMap Node.positions = Token.dollars ts := by
    obtain ⟨t, us, rfl, ht, hus⟩ := Token.exists_of_kinds_eq_cons (hkinds.trans hyield)
    rw [Token.dollars_cons, if_pos ht, Token.dollars_eq_nil (hus ▸ hks), htile.1]
    simpa using hp
  rw [ofString_eq_ofSource_tokenize, ofString_eq_ofSource_tokenize, htokens]
  exact ofSource_append [d] [n] _ (hkinds.trans (by simp)) (by simpa using hheight)
    (by simpa using hn) hdollars fun _ => head_tokenize

end Template

namespace Expander

variable (x : Expander)

/-- A node in front of a text: the syntax error of the text comes first, then the error of the node,
and then that of the text. -/
theorem outcome_expand_cons {f : Position → Position} {n : Node} {whole text : String}
    (h : Template.ofString whole =
      ((Template.ofString text).map fun t => ⟨n :: (t.relocate f).nodes⟩).mapError
        (ParseError.relocate f)) :
    (x.expand whole).outcome = (do
      let t ← (Template.ofString text).mapError fun e => .parse (e.relocate f)
      let value ← (x.evaluateNode n).outcome.mapError .eval
      let more ← (x.evaluateNodes t.nodes).outcome.mapError fun e => .eval (e.relocate f)
      return value ++ more) := by
  -- A syntax error behind the parameter is found first, before anything is evaluated.
  cases ht : Template.ofString text with
  | error e =>
    rw [ht] at h
    exact x.outcome_expand_of_error h
  | ok t =>
    rw [ht] at h
    rw [x.outcome_expand_of_ok h, evaluateNodes, Traced.outcome_bind]
    simp only [Traced.outcome_bind, Template.relocate, outcome_evaluateNodes_relocate, mapError_ok,
      ok_bind]
    cases (x.evaluateNode n).outcome with
    | error e => rfl
    | ok value => cases (x.evaluateNodes t.nodes).outcome <;> rfl

end Expander

/-! ## The two forms -/

/-- The parameter without braces around its name or index. -/
def plainForm (run : List Char) : List Char := '$' :: run

section

variable {run : List Char} {continues : Char → Bool} {id : Identifier}
  (h : id.ReadFrom run continues) {text : String}

include h

theorem Identifier.ReadFrom.scans_plainForm (ht : ∀ c ∈ text.toList.head?, continues c = false) :
    Scans none 0 (plainForm run) (Derivation.plain id).yield text.toList := by
  have hopens : Lexeme.opensParam ('$' :: (run ++ text.toList)) = true := by
    obtain ⟨c, cs, rfl⟩ := List.exists_cons_of_ne_nil h.ne_nil
    have hc := h.isNameChar_of_mem c (List.mem_cons_self ..)
    -- No character of a name is a dollar sign or ends a line.
    have hne {e : Char} (he : isNameChar e = false) : c ≠ e := by
      rintro rfl
      rw [hc] at he
      cases he
    exact Lexeme.opensParam_iff.2 ⟨c, _, rfl, hne (by decide), hne (by decide), hne (by decide)⟩
  exact (Scans.dollar hopens).cons (Scans.run h (.inr rfl) rfl ht)

theorem Identifier.ReadFrom.scans_enclose :
    Scans none 0 (Node.enclose run) (Derivation.braced id).yield text.toList := by
  have hinside : Scans (some (.mark .openBrace)) 1 run [id.token] ('}' :: text.toList) :=
    Scans.run h (.inl Nat.one_pos) rfl fun e he => by
      obtain rfl : '}' = e := by simpa using he
      exact h.continues_eq_false (by decide)
  exact Scans.enclosed hinside (by simp)

end

namespace Position

/-- A position behind a parameter with braces, for one behind the parameter without them. The beginning
of the parameter stays where it is. -/
def pastBraces (p : Position) : Position :=
  if p.index = 0 then p
  else { p with index := p.index + 2, col := if p.line = 1 then p.col + 2 else p.col }

/-- Characters on one line. -/
theorem after_of_not_mem {cs : List Char} (h : '\n' ∉ cs) (p : Position) :
    p.after cs = ⟨p.index + cs.length, p.line, if p.line = 1 then p.col + cs.length else p.col⟩ := by
  rw [after, takeWhile_reverse_of_not_mem h, List.count_eq_zero.2 h, List.length_reverse]
  rfl

theorem pastBraces_after {run : List Char} (h : '\n' ∉ run) (p : Position) :
    (p.after (plainForm run)).pastBraces = p.after (Node.enclose run) := by
  have hplain : '\n' ∉ plainForm run := by simpa [plainForm] using h
  have hbraced : '\n' ∉ Node.enclose run := by simpa [Node.enclose] using h
  rw [after_of_not_mem hplain, after_of_not_mem hbraced, pastBraces, if_neg (by simp [plainForm])]
  by_cases hline : p.line = 1 <;> simp [hline, plainForm, Node.enclose, Nat.add_assoc]

end Position

namespace Expander

variable (x : Expander) {continues : Char → Bool} {id : Identifier} {text : String}

section

variable {run : List Char} (h : id.ReadFrom run continues)

include h

/-- With braces the result is the same one. An error of the parameter itself lies at its beginning in
both forms, and any other one behind it. -/
theorem outcome_expand_enclose (ht : ∀ c ∈ text.toList.head?, continues c = false) :
    (x.expand (.ofList (Node.enclose run) ++ text)).outcome =
      (x.expand (.ofList (plainForm run) ++ text)).outcome.mapError
        (ExpansionError.relocate Position.pastBraces) := by
  have hnewline : '\n' ∉ run := fun hmem => by
    have hname := h.isNameChar_of_mem _ hmem
    exact absurd hname (by decide)
  let n : Node := .simple id none .start
  have hscans : Scans none 0 (Node.enclose run) (Derivation.braced id).yield text.toList :=
    h.scans_enclose
  have hplain := Template.ofString_append_of_scans (n := n) (d := .plain id)
    ⟨[id.token], rfl, by simp⟩ (Nat.zero_le _) rfl rfl (h.scans_plainForm ht)
  have hbraced := Template.ofString_append_of_scans (n := n) (d := .braced id)
    ⟨[.mark .openBrace, id.token, .mark .closeBrace], rfl, by simp⟩
    (by decide : 1 ≤ Parser.maxNesting) rfl rfl hscans
  rw [x.outcome_expand_cons hplain, x.outcome_expand_cons hbraced]
  have hplace : Position.after (Node.enclose run) =
      fun p => (p.after (plainForm run)).pastBraces :=
    funext fun p => (Position.pastBraces_after hnewline p).symm
  rw [hplace]
  -- What comes first, a syntax error, the error of the parameter or one behind it, is the same in
  -- both forms.
  cases Template.ofString text with
  | error e => rfl
  | ok t =>
    simp only [mapError_ok, ok_bind]
    cases hvalue : (x.evaluateNode n).outcome with
    | error e =>
      have hsame : e.relocate Position.pastBraces = e := by
        have hstart : e.position = .start := by
          simpa [n, Node.positions] using position_mem_of_evaluateNode hvalue
        obtain ⟨cause, p⟩ := e
        obtain rfl : p = .start := hstart
        rfl
      exact congrArg (fun d : EvalError => Except.error (ExpansionError.eval d)) hsame.symm
    | ok value =>
      cases (x.evaluateNodes t.nodes).outcome with
      | error e => rfl
      | ok more => rfl

end

/-- Parameters with braces and without. The one without them ends where the text behind it does not
continue the name or the index. Then both forms expand to the same text, or to the same error, which
lies on the same line: at the beginning of the parameter, or behind it, two characters further on with
braces. Unless the text behind starts with a dollar sign, its first character is text in both forms,
be it an operator or not. -/
theorem expand_braced (run text : String) (h : id.ReadFrom run.toList continues)
    (ht : ∀ c ∈ text.toList.head?, continues c = false) :
    let plain := "$" ++ run ++ text
    let braced := "$\x7b" ++ run ++ "\x7d" ++ text
    (∀ value, (x.expand plain).outcome = .ok value → (x.expand braced).outcome = .ok value) ∧
    (∀ e, (x.expand plain).outcome = .error e → ∃ p,
      (x.expand braced).outcome = .error (e.relocate fun _ => p) ∧
      (e.relocate fun _ => p).message = e.message ∧
      p.line = e.position.line ∧
      if e.position.index = 0 then p = e.position
      else p.index = e.position.index + 2 ∧
        p.col = if e.position.line = 1 then e.position.col + 2 else e.position.col) ∧
    ∀ c ∈ text.toList.head?, c ≠ '$' → ∃ value more, value.toList.head? = some c ∧
      kinds (tokenize plain) = .mark .dollar :: id.token :: .text value :: more ∧
      kinds (tokenize braced) =
        .mark .dollar :: .mark .openBrace :: id.token :: .mark .closeBrace :: .text value :: more := by
  intro plain braced
  have hplain : plain = .ofList (plainForm run.toList) ++ text := by
    apply String.toList_injective
    simp [plain, plainForm]
  have hbraced : braced = .ofList (Node.enclose run.toList) ++ text := by
    apply String.toList_injective
    simp [braced, Node.enclose]
  -- Both forms have the same outcome, up to the place of an error.
  have hsame := x.outcome_expand_enclose h ht
  rw [← hplain, ← hbraced] at hsame
  refine ⟨?_, ?_, ?_⟩
  · intro value hvalue
    rw [hsame, hvalue]
    rfl
  · intro e he
    rw [he] at hsame
    refine ⟨e.position.pastBraces, ?_, e.message_relocate _, ?_, ?_⟩
    · rw [← e.relocate_eq]
      exact hsame
    · unfold Position.pastBraces
      split <;> rfl
    · -- An error of the parameter itself stays at the beginning of the text, and one behind it is
      -- moved by the two braces.
      unfold Position.pastBraces
      split
      · rfl
      · exact ⟨rfl, rfl⟩
  · -- In both forms the lexer leaves the parameter, so that what follows is text from its first
    -- character on.
    intro c hc hdollar
    obtain ⟨value, more, hvalue, hkinds⟩ := exists_text_of_head_ne hc hdollar
    have hfollows {cs : List Char} {ks : List Kind} (hscans : Scans none 0 cs ks text.toList)
        (hn : nestings ks 0 = 0) (hl : ks.getLast? ≠ some (.mark .dollar)) :
        kinds (tokenize (.ofList cs ++ text)) = ks ++ .text value :: more := by
      obtain ⟨ts, rfl, -, htokens⟩ := tokenize_of_scans hscans hn hl
      rw [htokens, Token.kinds_append, Token.kinds_relocate, hkinds]
    refine ⟨value, more, hvalue, ?_, ?_⟩
    · rw [hplain]
      exact hfollows (h.scans_plainForm ht) (Derivation.nestings_yield _ 0)
        (by simp [Derivation.yield])
    · rw [hbraced]
      exact hfollows h.scans_enclose (Derivation.nestings_yield _ 0)
        (by simp [Derivation.yield, Derivation.enclosed, Derivation.opened])

/-- An operator and a parameter without a value behind a name. -/
theorem expand_braced_dash :
    let x : Expander := { values := { named := (∅ : Bindings).insert "a" "v", strict := true } }
    (x.expand "$\x7ba\x7d-$b").outcome = .error (.eval ⟨.unset (.named "b") false, ⟨5, 1, 6⟩⟩) ∧
    ∃ value more, value.toList.head? = some '-' ∧
      kinds (tokenize "$a-$b") = .mark .dollar :: .name "a" :: .text value :: more := by
  intro x
  have ha : (Identifier.named "a").WellFormed := ⟨'a', [], rfl, rfl, List.forall_mem_singleton.2 rfl⟩
  have htokens : tokenize "$a-$b" =
      [⟨.mark .dollar, .start, ⟨1, 1, 2⟩⟩, ⟨.name "a", ⟨1, 1, 2⟩, ⟨2, 1, 3⟩⟩,
       ⟨.text "-", ⟨2, 1, 3⟩, ⟨3, 1, 4⟩⟩, ⟨.mark .dollar, ⟨3, 1, 4⟩, ⟨4, 1, 5⟩⟩,
       ⟨.name "b", ⟨4, 1, 5⟩, ⟨5, 1, 6⟩⟩] := by
    have hrest : (⟨⟨"$b".toList, ⟨3, 1, 4⟩⟩, some (.text "-"), 0⟩ : Lexer).tokens =
        [⟨.mark .dollar, ⟨3, 1, 4⟩, ⟨4, 1, 5⟩⟩, ⟨.name "b", ⟨4, 1, 5⟩, ⟨5, 1, 6⟩⟩] := by
      rw [Lexer.tokens_of_some rfl, Lexer.tokens_of_some rfl, Lexer.tokens_of_none rfl]
      rfl
    rw [tokenize, Lexer.tokens_of_some rfl, Lexer.tokens_of_some rfl,
      Lexer.tokens_of_some (show Lexer.next? _ =
        some (_, ⟨⟨"$b".toList, ⟨3, 1, 4⟩⟩, some (.text "-"), 0⟩) from rfl), hrest]
    rfl
  have hnodes : Template.ofString "$a-$b" = .ok ⟨[.simple (.named "a") none .start, .text "-",
      .simple (.named "b") none ⟨3, 1, 4⟩]⟩ := by
    rw [Template.ofString_eq_ofSource_tokenize, htokens]
    exact Template.ofSource_eq_of_sentence
      [.plain (.named "a"), .text "-", .plain (.named "b")]
      (by simp [Derivation.height]) rfl rfl rfl
  have herror : (x.expand "$a-$b").outcome =
      .error (.eval ⟨.unset (.named "b") false, ⟨3, 1, 4⟩⟩) := by
    rw [outcome_expand_of_ok x hnodes]
    rfl
  have hforms := x.expand_braced "a" "-$b" (.name ha) (by rintro c ⟨⟩; decide)
  have hplain : "$" ++ "a" ++ "-$b" = "$a-$b" := rfl
  have hbraced : "$\x7b" ++ "a" ++ "\x7d" ++ "-$b" = "$\x7ba\x7d-$b" := rfl
  simp only [hplain, hbraced] at hforms
  -- The error of the plain form lies behind its parameter, so the braces move it.
  obtain ⟨-, hfails, htext⟩ := hforms
  obtain ⟨⟨index, line, col⟩, hout, -, hline, hplace⟩ := hfails _ herror
  obtain ⟨value, more, hvalue, hkinds, -⟩ := htext '-' rfl (by decide)
  refine ⟨?_, value, more, hvalue, hkinds⟩
  obtain ⟨hindex, hcol⟩ : index = 5 ∧ col = 6 := hplace
  obtain rfl : line = 1 := hline
  rw [hindex, hcol] at hout
  exact hout

end Expander

end ParamExpansion
