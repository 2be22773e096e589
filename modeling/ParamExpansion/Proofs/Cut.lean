import ParamExpansion.Proofs.Consumption
import ParamExpansion.Proofs.Translation

/-!
# A text cut behind the end of a line

A text that ends with the end of a line, followed by another text, forms a template if and only if
both do. Its nodes are those of both, a text at the end of the first one joined with a text at the
beginning of the second one. Its error is that of the first text, or else that of the second one,
further on.
-/

namespace ParamExpansion

open Token (Kind kinds nestings)

/-! ## Texts at the ends -/

namespace Derivation

theorem eq_text_of_getLast?_yield {d : Derivation} {value : String}
    (h : d.yield.getLast? = some (.text value)) : d = .text value := by
  rcases d.getLast?_yield with ⟨w, rfl⟩ | ⟨id, hid⟩ | hc
  · obtain rfl : w = value := by simpa [yield] using h
    rfl
  · simp [hid] at h
  · simp [hc] at h

/-- A text at the end is a node. -/
theorem exists_of_yields_eq_concat {ds : List Derivation} {ks : List Kind} {value : String}
    (h : yields ds = ks ++ [.text value]) :
    ∃ es, ds = es ++ [.text value] ∧ yields es = ks := by
  rcases List.eq_nil_or_concat ds with rfl | ⟨es, d, rfl⟩
  · simp at h
  · obtain ⟨init, last, hy⟩ : ∃ init last, d.yield = init ++ [last] := by
      rcases List.eq_nil_or_concat d.yield with hy | ⟨init, last, hy⟩
      · exact absurd hy d.yield_ne_nil
      · exact ⟨init, last, by rw [hy, List.concat_eq_append]⟩
    -- The last token belongs to the last node, and no node but a text ends with a text.
    have hks : yields es ++ init ++ [last] = ks ++ [.text value] := by
      simpa [hy, List.append_assoc] using h
    obtain ⟨hks, hlast⟩ := List.append_inj' hks rfl
    obtain rfl : last = .text value := by simpa using hlast
    obtain rfl := eq_text_of_getLast?_yield (by rw [hy]; exact List.getLast?_concat)
    obtain rfl : init = [] := by simpa [yield] using hy
    exact ⟨es, by simp, by simpa using hks⟩

end Derivation

/-! ## Errors -/

/-- A node is blocked behind its dollar sign, or it does not start. -/
theorem Blocked.head? {room : Nat} {us : List Kind} {found : Option Kind}
    {cause : ParseError.Cause} (h : Blocked room us found cause) :
    us.head? = some (.mark .dollar) ∨
      us = [] ∧ found ≠ some (.mark .dollar) ∧ ∀ value, found ≠ some (.text value) := by
  cases h with
  | missingNode => exact .inr ⟨rfl, by simp, by simp⟩
  | unexpectedToken hd ht => exact .inr ⟨rfl, by simpa using hd, by simpa using ht⟩
  | _ => exact .inl rfl

/-- Outside parameters a node can only be blocked at its start, and not in front of a text. -/
theorem Blocked.eq_nil {room : Nat} {us : List Kind} {found : Option Kind}
    {cause : ParseError.Cause} (h : Blocked room us found cause) (hn : nestings us 0 = 0)
    (hd : us.getLast? ≠ some (.mark .dollar)) :
    us = [] ∧ ∀ value, found ≠ some (.text value) := by
  rcases h.nestings_lt 0 with rfl | rfl | hlt
  · cases h with
    | missingNode => simp
    | unexpectedToken hd ht => simpa using ht
  · exact absurd rfl hd
  · omega

/-- Tokens that start with a dollar sign or a text are only blocked behind a dollar sign. -/
theorem Blocked.head?_eq_dollar {room : Nat} {us rest : List Token} {cause : ParseError.Cause}
    (h : Blocked room (kinds us) (rest.head?.map Token.kind) cause) (hne : us ++ rest ≠ [])
    (hhead : ∀ t, (us ++ rest).head? = some t →
      t.kind = .mark .dollar ∨ ∃ value, t.kind = .text value) :
    (kinds us).head? = some (.mark .dollar) := by
  rcases h.head? with hd | ⟨hu, hdollar, htext⟩
  · exact hd
  · -- Nothing has been read, so the token that is found comes first.
    obtain rfl := Token.eq_nil_of_kinds_eq_nil hu
    obtain ⟨t, rest, rfl⟩ := List.exists_cons_of_ne_nil hne
    rcases hhead t rfl with hk | ⟨value, hk⟩
    · exact absurd (congrArg some hk) hdollar
    · exact absurd (congrArg some hk) (htext value)

/-- Where some tokens outside parameters are blocked that end with a text, the text is neither read
nor found. -/
theorem Blocked.exists_of_concat_text {room : Nat} {ts vs us rest : List Token} {t : Token}
    {value : String} {cause : ParseError.Cause}
    (h : Blocked room (kinds us) (rest.head?.map Token.kind) cause) (hne : us ++ rest ≠ [])
    (hts : ts ++ [t] = vs ++ (us ++ rest)) (ht : t.kind = .text value)
    (hv : nestings (kinds vs) 0 = 0) (hn : nestings (kinds ts) 0 = 0)
    (hdollar : (kinds ts).getLast? ≠ some (.mark .dollar)) :
    ∃ r more, rest = r :: (more ++ [t]) ∧ ts = vs ++ (us ++ r :: more) := by
  have hout {ks : List Kind} (hk : kinds vs ++ kinds us = ks) (h0 : nestings ks 0 = 0)
      (hl : ks.getLast? ≠ some (.mark .dollar)) :
      us = [] ∧ ∀ value, rest.head?.map Token.kind ≠ some (.text value) := by
    subst hk
    rw [Token.nestings_append, hv] at h0
    obtain ⟨hus, hf⟩ := h.eq_nil h0 (fun hd => hl (by rw [List.getLast?_append, hd]; rfl))
    exact ⟨Token.eq_nil_of_kinds_eq_nil hus, hf⟩
  rcases List.eq_nil_or_concat rest with rfl | ⟨init, last, rfl⟩
  · -- All tokens would have been read, the text too.
    have hk : kinds vs ++ kinds us = kinds ts ++ [.text value] := by
      simpa [ht] using (congrArg kinds hts).symm
    obtain ⟨rfl, -⟩ := hout hk (by rw [Token.nestings_append, hn]; rfl) (by simp)
    exact absurd rfl hne
  · rw [List.concat_eq_append, ← List.append_assoc, ← List.append_assoc] at hts
    obtain ⟨rfl, hlast⟩ := List.append_inj' hts rfl
    obtain rfl : t = last := by simpa using hlast
    cases init with
    | nil =>
      -- The text would be what is found.
      obtain ⟨-, hf⟩ := hout (by simp) hn hdollar
      exact absurd (by simp [ht]) (hf value)
    | cons r init => exact ⟨r, init, by simp, by simp⟩

/-- The error so many characters and lines further on. -/
def ParseError.shift (chars lines : Nat) (e : ParseError) : ParseError :=
  { e with position := e.position.shift chars lines }

/-- The error at another place. -/
def ParseError.relocate (f : Position → Position) (e : ParseError) : ParseError :=
  { e with position := f e.position }

namespace Parser

theorem behind_relocate (f : Position → Position) (pos : Option Position) (ts : List Token) :
    behind (pos.map f) (ts.map (Token.relocate f)) = (behind pos ts).map f := by
  induction ts generalizing pos with
  | nil => rfl
  | cons t ts ih => exact ih (some t.stop)

/-- Where the last of some tokens stops does not depend on what is before them. -/
theorem behind_eq_of_ne_nil {ts : List Token} (h : ts ≠ []) (p q : Option Position) :
    behind p ts = behind q ts := by
  obtain ⟨t, ts, rfl⟩ := List.exists_cons_of_ne_nil h
  rfl

theorem exists_behind {ts : List Token} (h : ts ≠ []) (pos : Option Position) :
    ∃ p, behind pos ts = some p := by
  rcases List.eq_nil_or_concat ts with rfl | ⟨init, t, rfl⟩
  · exact absurd rfl h
  · exact ⟨t.stop, by simp⟩

theorem offending_cons (cause : ParseError.Cause) (t : Token) (ts us : List Token) :
    offending cause (t :: ts) = offending cause (t :: us) := by
  cases cause <;> rfl

theorem offending_relocate (f : Position → Position) (cause : ParseError.Cause) (ts : List Token) :
    offending cause (ts.map (Token.relocate f)) = (offending cause ts).map (Token.relocate f) := by
  cases cause <;> simp [offending]

end Parser

namespace Template

open ParamExpansion.Derivation Token ParamExpansion.Parser Lexer

theorem ofString_append (text more : String) :
    Lexer.ofString (text ++ more) = (Lexer.ofString text).extend more.toList := by
  simp [Lexer.ofString, Cursor.ofString, extend]

theorem ofString_empty : ofString "" = .ok ⟨[]⟩ := by
  rw [ofString_eq_ofSource_tokenize, tokenize, Lexer.tokens_of_none rfl, ofSource_eq_nodes,
    Parser.nodes_of_end Parser.peek_before_nil]

/-- The tokens of a line and what follows it. Either the lexer stops inside the line, which is no
template then, or the last token of the line is text outside parameters and goes on behind it. -/
theorem tokenize_append {text : String} (hline : EndsLine text.toList) (more : String) :
    ((∀ t, ofString text ≠ .ok t) ∧ tokenize (text ++ more) = tokenize text) ∨
      ∃ ts value start stop, tokenize text = ts ++ [⟨.text value, start, stop⟩] ∧
        nestings (kinds ts) 0 = 0 ∧ (kinds ts).getLast? ≠ some (.mark .dollar) ∧
        tokenize (text ++ more) = ts ++ joinText value start stop ((tokenize more).map
          (Token.relocate (Position.shift text.length (text.toList.count '\n')))) := by
  rw [tokenize, ofString_append]
  rcases tokens_extend (l := Lexer.ofString text) more.toList hline with
    ⟨hne, heq⟩ | ⟨ts, m, hr, hr', hi, hm, hrun⟩
  · -- The lexer has stopped before the end of the line, so a brace is open.
    refine .inl ⟨?_, heq⟩
    intro t ht
    obtain ⟨hr, hn⟩ := runs_exhausted (Lexer.ofString text)
    rcases (hr.coherent (coherent_ofString text)).stopped hn with h | ⟨hpos, -⟩
    · exact hne h
    · exact absurd (nesting_exhausted_of_ok ht) (Nat.ne_of_gt hpos)
  · obtain ⟨hlast, hjoin⟩ := tokens_extend_of_textRun more.toList hm hi hrun
    -- What has been read up to the end of the line is all of it.
    have hstop : m.cursor.position.steps m.cursor.rest =
        Position.start.shift text.length (text.toList.count '\n') := by
      obtain ⟨cs, hc, hp⟩ := hr.covers
      have hc' : cs ++ m.cursor.rest = text.toList := hc.symm
      rw [hp, ← Position.steps_append, hc', ← String.length_toList]
      exact Position.start_steps hline
    refine .inr ⟨ts, String.ofList (unescape m.cursor.rest), m.cursor.position,
      m.cursor.position.steps m.cursor.rest, ?_, ?_, ?_, ?_⟩
    · rw [tokenize, hr.tokens_eq, hlast]
    · exact hr.nesting_eq.symm.trans (nesting_of_inParam_eq_false hi)
    · intro hd
      have hprev : m.previous = some (.mark .dollar) := by rw [hr.previous_eq, hd]; rfl
      simp [inParam, hprev] at hi
    -- Behind the run the lexer begins anew, in the same state as at the start of `more`.
    · rw [hr'.tokens_eq, hjoin, hstop, tokens_inFrontOf_shift]
      rfl

/-- What follows a line does not change its error. -/
theorem ofString_append_of_error {text : String} (hline : EndsLine text.toList) {e : ParseError}
    (h : ofString text = .error e) (more : String) : ofString (text ++ more) = .error e := by
  rw [ofString_eq_ofSource_tokenize] at h ⊢
  rcases tokenize_append hline more with ⟨-, heq⟩ | ⟨ts, value, start, stop, heq, hn, hdollar, hjoin⟩
  · rw [heq, h]
  rw [heq] at h
  rw [hjoin]
  rcases ofSource_cases (ts ++ [⟨.text value, start, stop⟩]) with
    ⟨ds, t, -, -, ht, -⟩ | ⟨ds, vs, us, rest, cause, hts, hv, hd, hne, hb, he⟩
  · cases ht.symm.trans h
  have hvs : nestings (kinds vs) 0 = 0 := by rw [hv, nestings_yields]
  obtain ⟨r, rest, rfl, rfl⟩ := hb.exists_of_concat_text hne hts rfl hvs hn hdollar
  -- The tokens are blocked at the same place with more of them behind `r`.
  have hcut := ofSource_of_blocked hd hv (r :: (rest ++ joinText value start stop
    ((tokenize more).map (Token.relocate (Position.shift text.length (text.toList.count '\n'))))))
    hb rfl (by simp)
  rw [offending_cons cause r _ (rest ++ [⟨.text value, start, stop⟩]), ← he, h] at hcut
  simpa using hcut

end Template

/-! ## Joined texts -/

/-- Some text in front of some derivations. A text among them goes on with it. -/
def Derivation.joinText (value : String) : List Derivation → List Derivation
  | .text more :: ds => .text (value ++ more) :: ds
  | ds => .text value :: ds

/-- Some text in front of some nodes. A text among them goes on with it. -/
def Node.joinText (value : String) : List Node → List Node
  | .text more :: ns => .text (value ++ more) :: ns
  | ns => .text value :: ns

section

open ParamExpansion.Derivation Token

variable (value : String) (start stop : Position)

theorem kinds_joinText {ts : List Token} {ds : List Derivation} (h : kinds ts = yields ds) :
    kinds (Token.joinText value start stop ts) = yields (Derivation.joinText value ds) := by
  cases ds with
  | nil =>
    obtain rfl := eq_nil_of_kinds_eq_nil h
    rfl
  | cons d ds =>
    -- Only in front of a text do the two texts become one token, and one derivation.
    rcases head?_yield d with ⟨w, rfl⟩ | hd
    · obtain ⟨⟨kind, p, q⟩, ts, rfl, rfl, ht⟩ := exists_of_kinds_eq_cons h
      exact congrArg (Kind.text (value ++ w) :: ·) ht
    · have hhead : (yields (d :: ds)).head? = some (.mark .dollar) := by
        rw [yields_cons, List.head?_append, hd]
        rfl
      rw [← h, head?_kinds] at hhead
      rw [Token.joinText_of_ne_text value start stop (by simp [hhead]), kinds_cons, h]
      cases d with
      | text w => cases hd
      | _ => rfl

@[simp] theorem dollars_joinText (ts : List Token) :
    dollars (Token.joinText value start stop ts) = dollars ts := by
  unfold Token.joinText
  split <;> simp [dollars_cons]

@[simp] theorem flatMap_positions_joinText (ns : List Node) :
    (Node.joinText value ns).flatMap Node.positions = ns.flatMap Node.positions := by
  unfold Node.joinText
  split <;> simp [Node.positions]

theorem map_unplaced_joinText {ns : List Node} {ds : List Derivation}
    (h : ns.map Node.unplaced = ds.map Derivation.node) :
    (Node.joinText value ns).map Node.unplaced =
      (Derivation.joinText value ds).map Derivation.node := by
  cases ns with
  | nil =>
    obtain rfl : ds = [] := by simpa using h.symm
    rfl
  | cons n ns =>
    obtain ⟨d, ds, rfl⟩ : ∃ d ds', ds = d :: ds' := by
      cases ds with
      | nil => cases h
      | cons d ds => exact ⟨d, ds, rfl⟩
    obtain ⟨hn, hns⟩ : n.unplaced = d.node ∧ ns.map Node.unplaced = ds.map Derivation.node := by
      simpa using h
    cases n with
    | text w =>
      obtain rfl := eq_text_of_node hn.symm
      simp [Node.joinText, Derivation.joinText, Node.unplaced, Derivation.node, hns]
    -- Neither of them is a text, so nothing is joined.
    | _ =>
      cases d with
      | text w => cases hn
      | _ => exact congrArg (Node.text value :: ·) h

theorem joinText_append {ts : List Token} (us : List Token)
    (h : ts = [] → ∀ w, us.head?.map Token.kind ≠ some (.text w)) :
    Token.joinText value start stop (ts ++ us) = Token.joinText value start stop ts ++ us := by
  cases ts with
  | nil => exact Token.joinText_of_ne_text value start stop (h rfl)
  | cons t ts =>
    obtain ⟨kind, p, q⟩ := t
    cases kind <;> rfl

/-- Joined texts stop where the second one stops. -/
theorem behind_joinText {ts us : List Token} (h : ts ++ us ≠ []) (p q : Option Position) :
    Parser.behind p (Token.joinText value start stop ts ++ us) = Parser.behind q (ts ++ us) := by
  cases ts with
  | nil => exact Parser.behind_eq_of_ne_nil h _ q
  | cons t ts =>
    obtain ⟨kind, _, _⟩ := t
    cases kind <;> rfl

/-- Moved elsewhere and joined with a text, the tokens taken in front of `rest` stop where they did
before, moved too. -/
theorem behind_joinText_relocate (f : Position → Position) {ts us vs rest : List Token}
    {cause : ParseError.Cause} (h : us ++ vs ++ Parser.offending cause rest ≠ []) :
    Parser.behind none (ts ++ Token.joinText value start stop (us.map (Token.relocate f)) ++
        vs.map (Token.relocate f) ++ Parser.offending cause (rest.map (Token.relocate f))) =
      (Parser.behind none (us ++ vs ++ Parser.offending cause rest)).map f := by
  have hmap : us.map (Token.relocate f) ++ (vs.map (Token.relocate f) ++
      (Parser.offending cause rest).map (Token.relocate f)) =
        (us ++ vs ++ Parser.offending cause rest).map (Token.relocate f) := by simp
  rw [Parser.offending_relocate, List.append_assoc, List.append_assoc, Parser.behind_append,
    behind_joinText value start stop (by rw [hmap]; simpa using h) _ none, hmap]
  exact Parser.behind_relocate f none _

theorem height_joinText {ds : List Derivation} {room : Nat} (h : ∀ d ∈ ds, d.height ≤ room) :
    ∀ d ∈ Derivation.joinText value ds, d.height ≤ room := by
  have htext (w : String) : (Derivation.text w).height ≤ room := Nat.zero_le room
  unfold Derivation.joinText
  split
  · intro d hd
    rcases List.mem_cons.1 hd with rfl | hd
    · exact htext _
    · exact h d (List.mem_cons_of_mem _ hd)
  · intro d hd
    rcases List.mem_cons.1 hd with rfl | hd
    · exact htext _
    · exact h d hd

end

namespace Template

open ParamExpansion.Derivation Token ParamExpansion.Parser Lexer

/-- A line that forms a template ends with a text. -/
theorem exists_of_concat_text {ts : List Token} {value : String} {start stop : Position}
    {t : Template} (h : ofSource (ts ++ [⟨.text value, start, stop⟩]) = .ok t) :
    ∃ ds ns, kinds ts = yields ds ∧ (∀ d ∈ ds, d.height ≤ maxNesting) ∧
      t.nodes = ns ++ [.text value] ∧ ns.map Node.unplaced = ds.map Derivation.node ∧
      ns.flatMap Node.positions = dollars ts := by
  rcases ofSource_cases (ts ++ [⟨.text value, start, stop⟩]) with
    ⟨ds, t', hk, hd, ht, hs, hp⟩ | ⟨_, _, _, _, _, _, _, _, _, _, he⟩
  · obtain rfl : t' = t := by simpa using ht.symm.trans h
    -- The last token is a text, so it is the last derivation alone, and the last node.
    obtain ⟨ds, rfl, hds⟩ := exists_of_yields_eq_concat (hk.symm.trans (kinds_append ts _))
    obtain ⟨ns, ms, hnodes, hns, hms⟩ : ∃ ns ms, t'.nodes = ns ++ ms ∧
        ns.map Node.unplaced = ds.map Derivation.node ∧ ms.map Node.unplaced = [.text value] :=
      List.map_eq_append_iff.1 ((congrArg Template.nodes hs).trans List.map_append)
    obtain ⟨n, rfl, hn⟩ : ∃ n, ms = [n] ∧ n.unplaced = .text value := by simpa using hms
    obtain rfl : n = .text value := by cases n <;> simp_all [Node.unplaced]
    refine ⟨ds, ns, hds.symm, fun d h => hd d (List.mem_append_left _ h), hnodes, hns, ?_⟩
    simpa [positions, hnodes, Node.positions, dollars_cons] using hp
  · cases he.symm.trans h

/-- What two lists of tokens form, with a text between them. -/
theorem ofSource_append_joinText {ts us : List Token} {ds es : List Derivation} {ns ms : List Node}
    (value : String) (start stop : Position) (hts : kinds ts = yields ds)
    (hds : ∀ d ∈ ds, d.height ≤ maxNesting) (hns : ns.map Node.unplaced = ds.map Derivation.node)
    (hnp : ns.flatMap Node.positions = dollars ts) (hus : kinds us = yields es)
    (hes : ∀ d ∈ es, d.height ≤ maxNesting) (hms : ms.map Node.unplaced = es.map Derivation.node)
    (hmp : ms.flatMap Node.positions = dollars us) :
    ofSource (ts ++ Token.joinText value start stop us) = .ok ⟨ns ++ Node.joinText value ms⟩ := by
  -- Joining two texts opens no braces, and it keeps kinds, shapes and positions in step.
  have hheight : ∀ d ∈ ds ++ Derivation.joinText value es, d.height ≤ maxNesting := fun d hd =>
    (List.mem_append.1 hd).elim (hds d) (height_joinText value hes d)
  have hkinds : kinds (ts ++ Token.joinText value start stop us) =
      yields (ds ++ Derivation.joinText value es) := by
    rw [kinds_append, yields_append, hts, kinds_joinText value start stop hus]
  apply ofSource_eq_of_sentence _ hheight hkinds
  · rw [List.map_append, hns, map_unplaced_joinText value hms, ← List.map_append]
  · rw [List.flatMap_append, hnp, flatMap_positions_joinText, hmp, dollars_append,
      dollars_joinText]

/-- Tokens that start with a dollar sign or a text are blocked behind the first one of them. -/
theorem taken_of_blocked {vs ws rest : List Token} {cause : ParseError.Cause}
    (hhead : ∀ t, (vs ++ (ws ++ rest)).head? = some t →
      t.kind = .mark .dollar ∨ ∃ value, t.kind = .text value)
    (hne : ws ++ rest ≠ []) (hb : Blocked maxNesting (kinds ws) (rest.head?.map Token.kind) cause) :
    (vs = [] → (kinds ws).head? = some (.mark .dollar)) ∧
      vs ++ ws ++ offending cause rest ≠ [] := by
  -- A run of tokens that starts with a text is not blocked, so the first one is a dollar sign.
  have hstart : vs = [] → (kinds ws).head? = some (.mark .dollar) := by
    rintro rfl
    exact hb.head?_eq_dollar hne hhead
  refine ⟨hstart, fun h0 => ?_⟩
  simp only [List.append_eq_nil_iff] at h0
  have := hstart h0.1.1
  simp [h0.1.2] at this

/-- The error of some tokens at another place, provided that the tokens that have been taken stop
there. -/
theorem ofSource_of_blocked_relocate {f : Position → Position} {ts vs ws rest : List Token}
    {ds : List Derivation} {cause : ParseError.Cause} (hts : kinds ts = yields ds)
    (hds : ∀ d ∈ ds, d.height ≤ maxNesting)
    (hb : Blocked maxNesting (kinds ws) (rest.head?.map Token.kind) cause) (hne : ws ++ rest ≠ [])
    (htaken : vs ++ ws ++ offending cause rest ≠ [])
    (hbehind : behind none (ts ++ ws.map (Token.relocate f) ++
        offending cause (rest.map (Token.relocate f))) =
      (behind none (vs ++ ws ++ offending cause rest)).map f)
    {e : ParseError}
    (he : e = ⟨cause, (behind none (vs ++ ws ++ offending cause rest)).getD .start⟩) :
    ofSource (ts ++ (ws.map (Token.relocate f) ++ rest.map (Token.relocate f))) =
      .error (e.relocate f) := by
  have hb' : Blocked maxNesting (kinds ws)
      ((rest.map (Token.relocate f)).head?.map Token.kind) cause := by
    cases rest <;> exact hb
  -- The run over both parts ends where that over the second one does, on tokens that lie elsewhere.
  have hcut := ofSource_of_blocked hds hts (rest.map (Token.relocate f)) hb'
    (kinds_relocate f ws) (by simpa using hne)
  -- Some token has been taken, so the error lies behind a token and not at the start of the text.
  obtain ⟨p, hp⟩ := exists_behind htaken none
  rw [hcut, hbehind, he, hp]
  rfl

/-- The error of some tokens at another place, behind others and a text. -/
theorem ofSource_append_joinText_of_error {ts us : List Token} {ds : List Derivation}
    (f : Position → Position) (value : String) (start stop : Position) (hts : kinds ts = yields ds)
    (hds : ∀ d ∈ ds, d.height ≤ maxNesting)
    (hhead : ∀ t, us.head? = some t → t.kind = .mark .dollar ∨ ∃ value, t.kind = .text value)
    {e : ParseError} (h : ofSource us = .error e) :
    ofSource (ts ++ Token.joinText value start stop (us.map (Token.relocate f))) =
      .error (e.relocate f) := by
  rcases ofSource_cases us with
    ⟨_, _, _, _, ht, -⟩ | ⟨es, vs, ws, rest, cause, rfl, hvs, hes, hne, hb, he⟩
  · cases ht.symm.trans h
  -- The tokens behind the last node start with a dollar sign, or there is a node.
  obtain ⟨hstart, htaken⟩ := taken_of_blocked hhead hne hb
  have hjoin : Token.joinText value start stop ((vs ++ (ws ++ rest)).map (Token.relocate f)) =
      Token.joinText value start stop (vs.map (Token.relocate f)) ++
        (ws.map (Token.relocate f) ++ rest.map (Token.relocate f)) := by
    rw [List.map_append, List.map_append]
    apply joinText_append value start stop _
    intro hv w
    have hw := hstart (List.map_eq_nil_iff.1 hv)
    rw [head?_kinds] at hw
    obtain ⟨t, ws, rfl, hk⟩ := exists_of_head?_kind hw
    simp [hk]
  have hheight : ∀ d ∈ ds ++ Derivation.joinText value es, d.height ≤ maxNesting := fun d hd =>
    (List.mem_append.1 hd).elim (hds d) (height_joinText value hes d)
  have hkinds : kinds (ts ++ Token.joinText value start stop (vs.map (Token.relocate f))) =
      yields (ds ++ Derivation.joinText value es) := by
    rw [kinds_append, yields_append, hts, kinds_joinText value start stop (by simpa using hvs)]
  rw [hjoin, ← List.append_assoc]
  exact ofSource_of_blocked_relocate hkinds hheight hb hne htaken
    (behind_joinText_relocate value start stop f htaken) (Except.error.inj (h.symm.trans he))

/-- What some tokens form at another place, behind others and a text. -/
theorem ofSource_append_joinText_relocate (ts : List Token) {us : List Token}
    (ds : List Derivation) (ns : List Node) (f : Position → Position) (value : String)
    (start stop : Position)
    (hts : kinds ts = yields ds) (hds : ∀ d ∈ ds, d.height ≤ maxNesting)
    (hns : ns.map Node.unplaced = ds.map Derivation.node)
    (hnp : ns.flatMap Node.positions = dollars ts)
    (hhead : ∀ t, us.head? = some t → t.kind = .mark .dollar ∨ ∃ value, t.kind = .text value) :
    ofSource (ts ++ Token.joinText value start stop (us.map (Token.relocate f))) =
      ((ofSource us).map fun t => ⟨ns ++ Node.joinText value (t.relocate f).nodes⟩).mapError
        (ParseError.relocate f) := by
  cases hus : ofSource us with
  -- The tokens are those of a template, or they are cut where no node can go on.
  | error e =>
    rw [ofSource_append_joinText_of_error f value start stop hts hds hhead hus]
    rfl
  | ok t =>
    rcases ofSource_cases us with
      ⟨es, t', hk, hes, ht, hms, hmp⟩ | ⟨_, _, _, _, _, _, _, _, _, _, he⟩
    · obtain rfl : t' = t := by simpa using ht.symm.trans hus
      refine ofSource_append_joinText value start stop hts hds hns hnp (by simpa using hk) hes ?_ ?_
      · exact (congrArg Template.nodes (unplaced_relocate f t')).trans (congrArg Template.nodes hms)
      · rw [dollars_relocate, ← hmp]
        exact positions_relocate f t'
    · cases he.symm.trans hus

/-- A line that forms a template is followed by the nodes of what comes behind it, or by its error. -/
theorem ofString_append_of_ok {text : String} (hline : EndsLine text.toList) {t : Template}
    (h : ofString text = .ok t) (more : String) :
    ∃ ns value, t.nodes = ns ++ [.text value] ∧
      (∀ u, ofString more = .ok u → ofString (text ++ more) = .ok ⟨ns ++ Node.joinText value
        (u.relocate (Position.shift text.length (text.toList.count '\n'))).nodes⟩) ∧
      (∀ e, ofString more = .error e →
        ofString (text ++ more) = .error (e.shift text.length (text.toList.count '\n'))) := by
  rcases tokenize_append hline more with ⟨hno, -⟩ | ⟨ts, value, start, stop, heq, -, -, hjoin⟩
  · exact absurd h (hno t)
  rw [ofString_eq_ofSource_tokenize, heq] at h
  obtain ⟨ds, ns, hts, hds, ht, hns, hnp⟩ := exists_of_concat_text h
  -- The two conclusions are the two outcomes of `ofSource` on the tokens of `more`.
  have hboth := ofSource_append_joinText_relocate ts ds ns
    (Position.shift text.length (text.toList.count '\n')) value start stop hts hds hns hnp
    fun t (ht : (tokenize more).head? = some t) => head_tokenize ht
  refine ⟨ns, value, ht, ?_, ?_⟩
  · intro u hu
    rw [ofString_eq_ofSource_tokenize] at hu ⊢
    rw [hjoin]
    exact hboth.trans (by rw [hu]; rfl)
  · intro e he
    rw [ofString_eq_ofSource_tokenize] at he ⊢
    rw [hjoin]
    exact hboth.trans (by rw [he]; rfl)

end Template

end ParamExpansion
