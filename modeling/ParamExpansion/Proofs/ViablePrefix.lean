import ParamExpansion.Proofs.Consumption
import ParamExpansion.Proofs.Cut

/-!
# Syntax errors are found at the first possible token

Some tokens are viable when they are the beginning of a sentence of the grammar. The tokens in front
of a syntax error are viable, and with the token at which it arises they are not. The error lies where
the last token stops that has been taken, which is the offending one where an identifier or a closing
brace is required and at a brace too many, and the one before it in all other cases.
-/

namespace ParamExpansion

open Token (Kind kinds nestings)

namespace Derivation

/-- Whether some tokens are the beginning of a sentence. -/
def Viable (room : Nat) (ks : List Kind) : Prop := ∃ more, Sentence room (ks ++ more)

end Derivation

/-! ## What is blocked -/

namespace Blocked

open ParamExpansion.Derivation

variable {room : Nat} {us : List Kind} {found : Option Kind} {k : Kind} {cause : ParseError.Cause}

theorem opened_isPrefix_enclosed {us inside : List Kind} (h : us <+: inside) :
    opened us <+: enclosed inside := by
  obtain ⟨more, rfl⟩ := h
  exact ⟨more ++ [.mark .closeBrace], by simp [opened, enclosed]⟩

/-- The tokens up to the point where a node is blocked are the beginning of another node. -/
theorem exists_yield (h : Blocked room us found cause) :
    ∃ d : Derivation, d.height ≤ room ∧ us <+: d.yield := by
  have hpos {n : Nat} : 1 ≤ n + 1 := Nat.le_add_left 1 n
  -- The induction is on the way the tokens are blocked, since a payload has to be completed first.
  induction h with
  | missingNode | unexpectedToken => exact ⟨.text "", Nat.zero_le _, List.nil_prefix⟩
  | missingParam | nestingTooDeep => exact ⟨.plain (.index 0), Nat.zero_le _, ⟨[_], rfl⟩⟩
  | missingContent | missingIdentifier =>
    exact ⟨.arity, hpos, opened_isPrefix_enclosed List.nil_prefix⟩
  | missingLengthOperand | lengthOperand =>
    exact ⟨.arity, hpos, opened_isPrefix_enclosed (List.prefix_refl _)⟩
  | indirectOperand =>
    exact ⟨.indirect (.index 0), hpos, opened_isPrefix_enclosed ⟨[_], rfl⟩⟩
  | unterminated id colon | @misplacedToken _ id colon =>
    exact ⟨.withError id colon none, hpos, opened_isPrefix_enclosed ⟨[.mark .question], rfl⟩⟩
  | payload id colon hm h ih =>
    obtain ⟨d, hd, more, hy⟩ := ih
    have hp {m : Mark} : guarded id colon m _ <+: guarded id colon m d.yield :=
      ⟨more, by rw [guarded_append, hy]⟩
    rcases hm with rfl | rfl
    · exact ⟨.withDefault id colon d, Nat.succ_le_succ hd, opened_isPrefix_enclosed hp⟩
    · exact ⟨.withAlternative id colon d, Nat.succ_le_succ hd, opened_isPrefix_enclosed hp⟩
  | unclosed hd hy hf =>
    exact ⟨_, hd, hy ▸ opened_isPrefix_enclosed (List.prefix_refl _)⟩

/-- At the end of the text the message speaks of it. -/
theorem message_eq_append (h : Blocked room us none cause) (p : Position) :
    ∃ s, (ParseError.mk cause p).message = s ++ "EOF" := by
  generalize hf : (none : Option Kind) = found at h
  -- Every cause at the end of the text has a message of its own.
  induction h with
  | missingNode => exact ⟨"Unexpected ", rfl⟩
  | missingParam | indirectOperand => exact ⟨"Expected identifier, found ", hf ▸ rfl⟩
  | missingContent => exact ⟨"Expected param, found ", rfl⟩
  | missingLengthOperand => exact ⟨"Expected identifier or close brace, found ", rfl⟩
  | unterminated => exact ⟨"Invalid param, unexpected ", rfl⟩
  | payload _ _ _ _ ih => exact ih hf
  | unclosed => exact ⟨"Expected '\x7d', found ", hf ▸ rfl⟩
  | _ => cases hf

/-- A brace is only one too many where as many as possible are open. -/
theorem nestings_of_nestingTooDeep (h : Blocked room us found .nestingTooDeep) (n : Nat) :
    found = some (.mark .openBrace) ∧ nestings us n = n + room := by
  generalize hc : ParseError.Cause.nestingTooDeep = cause at h
  induction h generalizing n with
  | nestingTooDeep => exact ⟨rfl, rfl⟩
  -- The brace around the payload takes one of the room and opens one.
  | @payload room id colon m hm us found cause h ih =>
    obtain ⟨hf, hn⟩ := ih (n + 1) hc
    refine ⟨hf, ?_⟩
    calc nestings (opened (guarded id colon m us)) n
        = nestings us (n + 1) := nestings_guarded id colon (by rcases hm with rfl | rfl <;> decide) us _
      _ = n + (room + 1) := by rw [hn]; omega
  | _ => cases hc

/-- The causes of errors at a token. -/
theorem cause_eq (h : Blocked room us (some k) cause) :
    (cause = .expectedIdentifier (some k) ∨ cause = .expected (.mark .closeBrace) (some k) ∨
      cause = .nestingTooDeep) ∨ cause = .unexpectedToken k ∨ cause = .misplacedToken k := by
  generalize hf : some k = found at h
  induction h with
  | payload _ _ _ _ ih => exact ih hf
  | missingNode | missingContent | missingLengthOperand | unterminated => cases hf
  | nestingTooDeep => exact .inl (.inr (.inr rfl))
  | missingParam | indirectOperand | missingIdentifier | lengthOperand =>
    cases hf; exact .inl (.inl rfl)
  | unclosed => cases hf; exact .inl (.inr (.inl rfl))
  | unexpectedToken => cases hf; exact .inr (.inl rfl)
  | misplacedToken => cases hf; exact .inr (.inr rfl)

end Blocked

/-! ## Errors and tokens -/

namespace ParseError.Cause

/-- Whether an error arises at a token that has been taken: an identifier or a closing brace is
required in its place, or it is a brace and as many as possible are open before it. -/
def Takes (cause : Cause) (before : List Kind) (k : Kind) : Prop :=
  cause = .expectedIdentifier (some k) ∨ cause = .expected (.mark .closeBrace) (some k) ∨
    cause = .nestingTooDeep ∧ k = .mark .openBrace ∧ nestings before 0 = Parser.maxNesting

/-- Whether an error arises at a token that has only been looked at. -/
def LooksAt (cause : Cause) (k : Kind) : Prop :=
  cause = .unexpectedToken k ∨ cause = .misplacedToken k

end ParseError.Cause

namespace Parser

theorem exists_mem_behind_eq {ts : List Token} (h : ts ≠ []) :
    ∃ t ∈ ts, behind none ts = some t.stop := by
  rw [behind_eq_getLast?, List.getLast?_eq_some_getLast h]
  exact ⟨_, List.getLast_mem h, rfl⟩

theorem offending_isPrefix (cause : ParseError.Cause) (ts : List Token) :
    offending cause ts <+: ts := by
  cases cause <;> simp [offending, List.take_prefix]

end Parser

namespace Template

open ParamExpansion.Derivation Token ParamExpansion.Parser

/-- The tokens of a text that forms no template are blocked, but not before the first one. -/
theorem exists_blocked_of_error {text : String} {e : ParseError} (h : ofString text = .error e) :
    ∃ ds vs us rest, tokenize text = vs ++ (us ++ rest) ∧ kinds vs = yields ds ∧
      (∀ d ∈ ds, d.height ≤ maxNesting) ∧ vs ++ us ≠ [] ∧
      Blocked maxNesting (kinds us) (rest.head?.map Token.kind) e.cause ∧
      e.position = (behind none (vs ++ us ++ offending e.cause rest)).getD .start := by
  rw [ofString_eq_ofSource_tokenize] at h
  rcases ofSource_cases (tokenize text) with
    ⟨ds, t, -, -, ht, -⟩ | ⟨ds, vs, us, rest, cause, hts, hv, hd, hne, hb, he⟩
  · cases ht.symm.trans h
  · cases he.symm.trans h
    refine ⟨ds, vs, us, rest, hts, hv, hd, ?_, hb, rfl⟩
    rintro hnil
    obtain ⟨rfl, rfl⟩ := List.append_eq_nil_iff.1 hnil
    -- The first token is a text or a dollar sign, and either starts a node.
    have hhead := hb.head?_eq_dollar hne fun t ht => by
      have hfirst : (tokenize text).head? = some t := by
        rw [hts]
        exact ht
      exact head_tokenize hfirst
    cases hhead

/-- A syntax error lies where a token of the text stops. -/
theorem exists_stop_of_error {text : String} {e : ParseError} (h : ofString text = .error e) :
    ∃ t ∈ tokenize text, e.position = t.stop := by
  obtain ⟨ds, vs, us, rest, hts, -, -, hne, -, hp⟩ := exists_blocked_of_error h
  have hprefix : vs ++ us ++ offending e.cause rest <+: tokenize text := by
    rw [hts, ← List.append_assoc]
    exact (List.prefix_append_right_inj _).2 (offending_isPrefix e.cause rest)
  have hread : vs ++ us ++ offending e.cause rest ≠ [] := List.append_ne_nil_of_left_ne_nil hne _
  obtain ⟨t, ht, hstop⟩ := exists_mem_behind_eq hread
  refine ⟨t, hprefix.subset ht, ?_⟩
  rw [hp, hstop]
  rfl

/-- A list of tokens with the given kinds. -/
theorem exists_kinds_eq (ks : List Kind) : ∃ ts : List Token, kinds ts = ks :=
  ⟨ks.map fun k => ⟨k, .start, .start⟩, by simp [kinds, Function.comp_def]⟩

/-- With what is found, the tokens of a blocked node are not the beginning of a sentence. -/
theorem not_viable_of_blocked {ds : List Derivation} (hd : ∀ d ∈ ds, d.height ≤ maxNesting)
    {vs us : List Token} (hv : kinds vs = yields ds) {t : Token} {cause : ParseError.Cause}
    (h : Blocked maxNesting (kinds us) (some t.kind) cause) :
    ¬ Viable maxNesting (kinds (vs ++ us ++ [t])) := by
  rintro ⟨more, es, hy, he⟩
  obtain ⟨ts, rfl⟩ := exists_kinds_eq more
  -- The parser would succeed on the sentence, but it stops where the tokens are blocked.
  have hk : kinds (vs ++ (us ++ t :: ts)) = yields es := by simp [hy]
  obtain ⟨u, hu, -⟩ := ofSource_of_sentence he hk
  cases (ofSource_of_blocked hd hv (t :: ts) h rfl (by simp)).symm.trans hu

/-- The tokens up to the point where a node is blocked are the beginning of a sentence. -/
theorem viable_of_blocked {ds : List Derivation} (hd : ∀ d ∈ ds, d.height ≤ maxNesting)
    {vs us : List Token} (hv : kinds vs = yields ds) {found : Option Kind}
    {cause : ParseError.Cause} (h : Blocked maxNesting (kinds us) found cause) :
    Viable maxNesting (kinds (vs ++ us)) := by
  obtain ⟨d, hheight, more, hy⟩ := h.exists_yield
  refine ⟨more, ds ++ [d], by simp [hv, hy], ?_⟩
  simpa [or_imp, forall_and] using ⟨hd, hheight⟩

/-- A parameter that begins with a colon. -/
theorem ofString_openBrace_colon :
    ofString "$\x7b:" = .error ⟨.expectedIdentifier (some (.mark .colon)), ⟨3, 1, 4⟩⟩ := by
  have hts : tokenize "$\x7b:" = [⟨.mark .dollar, .start, ⟨1, 1, 2⟩⟩,
      ⟨.mark .openBrace, ⟨1, 1, 2⟩, ⟨2, 1, 3⟩⟩, ⟨.mark .colon, ⟨2, 1, 3⟩, ⟨3, 1, 4⟩⟩] := by
    rw [tokenize, Lexer.tokens_of_some rfl, Lexer.tokens_of_some rfl, Lexer.tokens_of_some rfl,
      Lexer.tokens_of_none rfl]
    rfl
  -- No identifier follows the brace, and a colon starts no other form.
  have hb : Blocked maxNesting (kinds [⟨.mark .dollar, .start, ⟨1, 1, 2⟩⟩,
      ⟨.mark .openBrace, ⟨1, 1, 2⟩, ⟨2, 1, 3⟩⟩]) (some (.mark .colon)) _ :=
    .missingIdentifier (by decide) (by decide) (by simp)
  rw [ofString_eq_ofSource_tokenize, hts]
  have hnone : kinds [] = yields [] := rfl
  exact ofSource_of_blocked (by simp) hnone [⟨.mark .colon, ⟨2, 1, 3⟩, ⟨3, 1, 4⟩⟩] hb rfl (by simp)

/-- A syntax error is found as early as possible: the tokens before it are the beginning of a
sentence, and either they are all tokens and no sentence, and the message speaks of the end of the
text, or with one token more they are not the beginning of a sentence. The error lies where the last
of these tokens stops, unless the one token more has been taken too. -/
theorem error_at_first_token {text : String} {e : ParseError} (h : ofString text = .error e) :
    let ts := tokenize text
    ∃ k, 0 < k ∧ k ≤ ts.length ∧ Viable maxNesting (kinds (ts.take k)) ∧
      ((k = ts.length ∧ ¬ Sentence maxNesting (kinds ts) ∧ (∃ s, e.message = s ++ "EOF") ∧
          ts[k - 1]?.map Token.stop = some e.position) ∨
        ∃ t, ts[k]? = some t ∧ ¬ Viable maxNesting (kinds (ts.take (k + 1))) ∧
          (e.cause.Takes (kinds (ts.take k)) t.kind ∧ e.position = t.stop ∨
            e.cause.LooksAt t.kind ∧ ts[k - 1]?.map Token.stop = some e.position)) := by
  intro ts
  obtain ⟨ds, vs, us, rest, hts, hv, hd, hne, hb, hp⟩ := exists_blocked_of_error h
  have hts : ts = vs ++ us ++ rest := by rw [List.append_assoc]; exact hts
  have htake : ts.take (vs ++ us).length = vs ++ us := by rw [hts, List.take_left]
  have hlast : ts[(vs ++ us).length - 1]? = (vs ++ us).getLast? := by
    have hlt := List.length_pos_iff.2 hne
    rw [hts, List.getElem?_append_left (by omega), List.getLast?_eq_getElem?]
  refine ⟨(vs ++ us).length, List.length_pos_iff.2 hne, ?_, ?_, ?_⟩
  · exact (hts ▸ List.prefix_append _ rest).length_le
  · rw [htake]
    exact viable_of_blocked hd hv hb
  · rw [hlast, htake]
    have hstop (hoff : offending e.cause rest = []) :
        (vs ++ us).getLast?.map Token.stop = some e.position := by
      rw [hp, hoff, List.append_nil, behind_eq_getLast?]
      cases hl : (vs ++ us).getLast? with
      | none => exact absurd (List.getLast?_eq_none_iff.1 hl) hne
      | some t => rfl
    cases rest with
    | nil =>
      refine .inl ⟨by rw [hts, List.append_nil], ?_, hb.message_eq_append e.position, hstop ?_⟩
      · rintro ⟨es, hes, hh⟩
        obtain ⟨t, ht, -⟩ := ofSource_of_sentence hh hes.symm
        rw [← ofString_eq_ofSource_tokenize] at ht
        cases h.symm.trans ht
      · exact List.prefix_nil.1 (offending_isPrefix e.cause [])
    | cons t more =>
      refine .inr ⟨t, ?_, ?_, ?_⟩
      · rw [hts, List.getElem?_append_right (Nat.le_refl _), Nat.sub_self]
        rfl
      · have hmore : ts.take ((vs ++ us).length + 1) = vs ++ us ++ [t] := by
          rw [hts, List.append_cons]
          exact List.take_left' List.length_append
        rw [hmore]
        exact not_viable_of_blocked hd hv hb
      -- The cause tells whether the token has been taken.
      · have htaken (hoff : offending e.cause (t :: more) = [t]) : e.position = t.stop := by
          rw [hp, hoff, behind_append]
          rfl
        rcases hb.cause_eq with (hc | hc | hc) | hc
        · exact .inl ⟨.inl hc, htaken (by rw [hc]; rfl)⟩
        · exact .inl ⟨.inr (.inl hc), htaken (by rw [hc]; rfl)⟩
        · have hb' : Blocked maxNesting (kinds us) (some t.kind) .nestingTooDeep := hc ▸ hb
          obtain ⟨hk, hn⟩ := hb'.nestings_of_nestingTooDeep 0
          refine .inl ⟨.inr (.inr ⟨hc, by simpa using hk, ?_⟩), htaken (by rw [hc]; rfl)⟩
          rw [kinds_append, nestings_append, hv, nestings_yields, hn, Nat.zero_add]
        · exact .inr ⟨hc, hstop (by rcases hc with hc | hc <;> rw [hc] <;> rfl)⟩

/-- A colon stands where an identifier is required. -/
theorem error_at_first_token_colon :
    ∃ e, ofString "$\x7b:" = .error e ∧ ∃ k, 0 < k ∧ k ≤ (tokenize "$\x7b:").length ∧
      Viable maxNesting (kinds ((tokenize "$\x7b:").take k)) := by
  obtain ⟨k, hpos, hle, hviable, -⟩ := error_at_first_token ofString_openBrace_colon
  exact ⟨_, ofString_openBrace_colon, k, hpos, hle, hviable⟩

end Template

end ParamExpansion
