import ParamExpansion.Proofs.LineBreaks
import ParamExpansion.Proofs.Rendering

/-!
# Reading and writing templates are inverse

What the lexer reads fits its place: a name can be written, a text inside a parameter starts with no
operator, and text outside parameters reaches the next parameter. So the parser returns well-formed
templates only, and these are read back when they are written.
-/

namespace ParamExpansion

open Token (Kind kinds nestings)

/-! ## Tokens at their places -/

/-- Whether a token can be read behind `q`, inside `n` braces and in front of `next`. -/
def Token.Kind.Fits (q : Option Kind) (n : Nat) (next : Option Kind) : Kind → Prop
  | .text value =>
    if 0 < n ∨ q = some (.mark .dollar) then PayloadText value
    else value ≠ "" ∧ (next = none ∨ next = some (.mark .dollar))
  | .name x => (Identifier.named x).WellFormed
  | .index i => (Identifier.index i).WellFormed
  | .mark _ | .caseMark _ => True

/-- Whether each token fits its place, the first one behind `q` and inside `n` braces. -/
def Token.AllFit : Option Kind → Nat → List Kind → Prop
  | _, _, [] => True
  | q, n, k :: ks => k.Fits q n ks.head? ∧ AllFit (some k) (k.nesting n) ks

theorem mem_of_mem_unescape {c : Char} {cs : List Char} (h : c ∈ unescape cs) : c ∈ cs := by
  fun_induction unescape cs with
  | case1 cs ih =>
    rcases List.mem_cons.1 h with rfl | h
    · exact List.mem_cons_self ..
    · exact List.mem_cons_of_mem _ (List.mem_cons_of_mem _ (ih h))
  | case2 d cs hn ih =>
    rcases List.mem_cons.1 h with rfl | h
    · exact List.mem_cons_self ..
    · exact List.mem_cons_of_mem _ (ih h)
  | case3 => exact h

theorem head?_unescape (cs : List Char) : (unescape cs).head? = cs.head? := by
  fun_cases unescape cs <;> simp [*]

namespace Lexeme

/-- Text outside parameters reaches the next parameter. -/
theorem opensParam_of_textRun {cs ds : List Char} (h : cs = textRun cs ++ ds) :
    ds = [] ∨ opensParam ds = true := by
  fun_induction textRun cs with
  | case1 cs ih => exact ih (by simpa using h)
  | case2 c cs hn ho =>
    rw [List.nil_append] at h
    exact .inr (h ▸ ho)
  | case3 c cs hn ho ih => exact ih (by simpa using h)
  | case4 => exact .inl h.symm

/-- A character at which no operator is read is none of those at which one always is. -/
theorem not_mem_of_mark?_eq_none {c : Char} {cs : List Char} (h : mark? (c :: cs) = none) :
    c ∉ ['{', '}', ':', '-', '+', '?', '#', '!'] := by
  rw [mark?_cons] at h
  intro hc
  have hd : c ≠ '$' := by
    rintro rfl
    simp at hc
  rw [if_neg fun hcs => hd hcs.1] at h
  have hall : ∀ d ∈ ['{', '}', ':', '-', '+', '?', '#', '!'], d ∈ Mark.all.map Mark.char := by
    simp [Mark.all, Mark.char]
  obtain ⟨m, -, rfl⟩ := List.mem_map.1 (hall c hc)
  simp at h

theorem payloadText_of_paramTextRun {cs : List Char} (hm : mark? cs = none)
    (hne : paramTextRun cs ≠ []) : PayloadText (String.ofList (unescape (paramTextRun cs))) := by
  obtain ⟨c, run, hrun⟩ := List.exists_cons_of_ne_nil hne
  have hhead : (unescape (paramTextRun cs)).head? = some c := by
    rw [head?_unescape, hrun]
    rfl
  -- Undoubling keeps the first character, and it brings in no new ones.
  obtain ⟨run', hrun'⟩ := List.head?_eq_some_iff.1 hhead
  obtain ⟨ds, rfl⟩ : ∃ ds, cs = c :: ds := by
    obtain ⟨ds, hds⟩ := paramTextRun_isPrefix cs
    exact ⟨run ++ ds, by rw [← hds, hrun]; rfl⟩
  refine ⟨c, run', by rw [String.toList_ofList, hrun'], not_mem_of_mark?_eq_none hm, ?_⟩
  intro d hd
  rw [← hrun'] at hd
  exact ne_of_mem_paramTextRun (mem_of_mem_unescape hd)

end Lexeme

namespace Lexer

theorem name_wellFormed {c : Char} {cs : List Char} (hn : Text.isNumeric c = false)
    (hc : isNameChar c = true) :
    (Identifier.named (String.ofList ((c :: cs).takeWhile isNameChar))).WellFormed := by
  refine ⟨c, cs.takeWhile isNameChar, by simp [hc], hn, ?_⟩
  rw [← List.takeWhile_cons_of_pos hc]
  exact List.all_eq_true.1 List.all_takeWhile

/-- All tokens fit their places. -/
theorem allFit_tokens (l : Lexer) : Token.AllFit l.previous l.nesting (kinds l.tokens) := by
  induction hn : l.cursor.rest.length using Nat.strongRecOn generalizing l with
  | ind n ih =>
    subst hn
    cases h : l.next? with
    | none => rw [tokens_of_none h]; exact trivial
    | some p =>
      obtain ⟨t, l'⟩ := p
      obtain ⟨x, hx⟩ := moves_of_next? h
      have hrest := ih _ (rest_length_lt_of_next? h) l' rfl
      rw [hx.previous, hx.nesting] at hrest
      rw [tokens_of_some h, Token.kinds_cons, hx.kind]
      refine ⟨?_, hrest⟩
      have hafter := hx.rest
      -- One case for each class of tokens. Only texts have to know what surrounds them.
      cases hx.reads with
      | mark | caseMark => trivial
      | index => exact Index.read_le_max _
      | name c cs hr hnum hc =>
        rw [hr]
        exact name_wellFormed hnum hc
      | paramText hi hm hne =>
        rw [Kind.Fits, if_pos (by simpa [inParam] using hi)]
        exact Lexeme.payloadText_of_paramTextRun hm hne
      | text hi ho hne =>
        rw [Kind.Fits, if_neg (by simpa [inParam] using hi)]
        refine ⟨?_, ?_⟩
        · intro h0
          apply hne
          have hnil : unescape (Lexeme.textRun l.cursor.rest) = [] := by simpa using h0
          simpa [hnil] using (head?_unescape (Lexeme.textRun l.cursor.rest)).symm
        · rcases Lexeme.opensParam_of_textRun hafter with hr | ho
          · rw [tokens_of_none (next?_eq_none_iff.2 (lexeme?_of_rest_eq_nil hr))]
            exact .inl rfl
          -- The text has reached a parameter, whose dollar sign is the next token.
          · obtain ⟨u, us, hu, hk⟩ := tokens_of_opensParam ho
            rw [hu, Token.kinds_cons, hk]
            exact .inr rfl

end Lexer

/-! ## Nodes from tokens that fit -/

namespace Token.AllFit

variable {q : Option Kind} {n : Nat} {ks ls : List Kind}

/-- What follows fits behind what comes first. -/
theorem drop (h : AllFit q n (ks ++ ls)) : AllFit (ks.getLast?.or q) (nestings ks n) ls := by
  induction ks generalizing q n with
  | nil => exact h
  | cons k ks ih =>
    have := ih h.2
    rw [List.getLast?_cons]
    cases hk : ks.getLast? <;> simpa [hk] using this

theorem identifier (h : AllFit q n ks) {id : Identifier} (hid : id.token ∈ ks) : id.WellFormed := by
  obtain ⟨us, more, rfl⟩ := List.append_of_mem hid
  have hfits := h.drop.1
  cases id <;> exact hfits

/-- A text inside braces is one that may stand there. -/
theorem payloadText {value : String} (h : AllFit q n (ks ++ .text value :: ls))
    (hn : 0 < nestings ks n) : PayloadText value := by
  have hfits := h.drop.1
  rwa [Kind.Fits, if_pos (.inl hn)] at hfits

end Token.AllFit

namespace Derivation

open Token

theorem enclosed_guarded_append (id : Identifier) (colon : Bool) (m : Mark) (more ls : List Kind) :
    enclosed (guarded id colon m more) ++ ls =
      opened (guarded id colon m []) ++ (more ++ .mark .closeBrace :: ls) := by
  simp [opened]

theorem nestings_opened_guarded (id : Identifier) (colon : Bool) {m : Mark}
    (hm : m ≠ .openBrace ∧ m ≠ .closeBrace) (n : Nat) :
    nestings (opened (guarded id colon m [])) n = n + 1 := by
  simp [opened, nestings_guarded id colon hm, Kind.nesting]

/-- The payload of a conditional form fits behind its operator. -/
theorem allFit_payload {q : Option Kind} {n : Nat} {us ls more : List Kind} {id : Identifier}
    {colon : Bool} {m : Mark} (hm : m ≠ .openBrace ∧ m ≠ .closeBrace)
    (h : AllFit q n (us ++ (enclosed (guarded id colon m more) ++ ls))) :
    ∃ vs, AllFit q n (vs ++ (more ++ .mark .closeBrace :: ls)) ∧ 0 < nestings vs n := by
  rw [enclosed_guarded_append, ← List.append_assoc] at h
  refine ⟨_, h, ?_⟩
  rw [nestings_append, nestings_opened_guarded id colon hm]
  exact Nat.succ_pos _

/-- Where the tokens of a node fit, the node is well formed, unless it is a text outside braces. -/
theorem wellFormed_node {d : Derivation} {q : Option Kind} {n : Nat} {us ls : List Kind}
    (h : AllFit q n (us ++ (d.yield ++ ls)))
    (ht : 0 < nestings us n ∨ ∀ value, d ≠ .text value) : d.node.WellFormed := by
  -- The induction is on the derivation. A payload stands inside one more brace, so a text there is
  -- one of the texts that may stand inside a parameter.
  induction d generalizing us ls with
  | text value => exact h.payloadText (ht.resolve_right fun ht => ht value rfl)
  | arity => trivial
  | withDefault id colon payload ih | withAlternative id colon payload ih =>
    obtain ⟨vs, hvs, hn⟩ := allFit_payload (by decide) h
    exact ⟨h.identifier (by simp [yield, guarded]), ih hvs (.inl hn)⟩
  | withError id colon message =>
    obtain ⟨vs, hvs, hn⟩ := allFit_payload (by decide) h
    refine ⟨h.identifier (by simp [yield, guarded]), ?_⟩
    intro value hv
    obtain rfl : message = some value := hv
    exact AllFit.payloadText hvs hn
  | _ => exact h.identifier (by simp [yield])

/-- Where all tokens outside parameters fit, so do the nodes. -/
theorem allWellFormed_map_node {ds : List Derivation} {q : Option Kind}
    (hq : q ≠ some (.mark .dollar)) (h : AllFit q 0 (yields ds)) :
    Node.AllWellFormed (ds.map node) := by
  induction ds generalizing q with
  | nil => trivial
  | cons d ds ih =>
    have hfit : AllFit q 0 ([] ++ (d.yield ++ yields ds)) := h
    have htail : Node.AllWellFormed (ds.map node) := by
      have hdrop := AllFit.drop hfit.drop
      rw [nestings_yield] at hdrop
      apply ih _ hdrop
      rcases d.getLast?_yield with ⟨value, rfl⟩ | ⟨id, hid⟩ | hc
      · simp [yield]
      · simp [hid]
      · simp [hc]
    cases d with
    | text value =>
      have hfits := h.1
      rw [Kind.Fits, if_neg (by simpa using hq)] at hfits
      refine ⟨hfits.1, ?_, htail⟩
      intro more hmore
      -- Behind the text comes a dollar sign or nothing, so the next node is no text.
      obtain ⟨e, es, rfl, he⟩ : ∃ e es, ds = e :: es ∧ e.node = .text more := by
        cases ds with
        | nil => cases hmore
        | cons e es => exact ⟨e, es, rfl, by simpa using hmore⟩
      obtain rfl := eq_text_of_node he
      simp [yield] at hfits
    | _ => exact ⟨wellFormed_node hfit (.inr (by simp)), htail⟩

theorem depth_node_le (d : Derivation) : d.node.depth ≤ d.height + 1 := by
  induction d with
  | withDefault id colon payload ih | withAlternative id colon payload ih =>
    exact Nat.succ_le_succ ih
  | text value => exact Nat.zero_le _
  | _ => simp [node, Node.depth]

end Derivation

namespace Template

open ParamExpansion.Derivation ParamExpansion.Parser

/-- Only well-formed templates are read. All their parameters but the innermost one stand in braces,
so at most one more can be nested than braces can be open. -/
theorem wellFormed_of_ofString {text : String} {t : Template} (h : ofString text = .ok t) :
    t.WellFormed ∧ t.depth ≤ maxNesting + 1 := by
  obtain ⟨ds, hk, hheight, hu⟩ := exists_derivations_of_ok h
  -- The tokens of a text fit their places, and so do the derivations and the nodes that they make
  -- up.
  have hfit : Token.AllFit none 0 (yields ds) := hk ▸ Lexer.allFit_tokens (Lexer.ofString text)
  constructor
  · have hnodes : t.nodes.map Node.unplaced = ds.map node := congrArg nodes hu
    rw [WellFormed, ← Node.allWellFormed_unplaced, hnodes]
    exact allWellFormed_map_node (by simp) hfit
  · rw [← depth_unplaced, hu, depth_le_iff]
    intro n hn
    obtain ⟨d, hd, rfl⟩ := List.mem_map.1 hn
    exact Nat.le_trans d.depth_node_le (Nat.succ_le_succ (hheight d hd))

/-- Reading and writing are inverse. A well-formed template is read back when it is written, unless
more than `maxNesting` of its parameters are nested, and then it is not read at all. What is read is
well formed, and is read back in its turn if no more than `maxNesting` parameters are nested; it can
have one more, in the innermost place. -/
theorem render_inverse :
    (∀ t : Template, t.WellFormed → t.depth ≤ maxNesting →
      ∃ u, ofString t.render = .ok u ∧ u.unplaced = t.unplaced) ∧
    (∀ t : Template, t.WellFormed → maxNesting < t.depth →
      ∃ e, ofString t.render = .error e ∧ e.cause = .nestingTooDeep) ∧
    ∀ text t, ofString text = .ok t → t.WellFormed ∧ t.depth ≤ maxNesting + 1 ∧
      (t.depth ≤ maxNesting → ∃ u, ofString t.render = .ok u ∧ u.unplaced = t.unplaced) := by
  refine ⟨fun t => ofString_render, fun t => ofString_render_of_lt_depth, ?_⟩
  intro text t h
  obtain ⟨hw, hd⟩ := wellFormed_of_ofString h
  exact ⟨hw, hd, ofString_render hw⟩

/-- The template of `a$$${1:-b}`. -/
theorem render_inverse_withDefault :
    ∃ u, ofString (render ⟨[.text "a$", .withDefault (.index 1) (.text "b") true .start]⟩) = .ok u ∧
      u.unplaced = ⟨[.text "a$", .withDefault (.index 1) (.text "b") true .start]⟩ := by
  refine render_inverse.1 ⟨[.text "a$", .withDefault (.index 1) (.text "b") true .start]⟩ ?_
    (by simp [depth, Node.depth, maxNesting])
  exact ⟨by decide, by simp, ⟨(by decide : 1 ≤ Index.max), 'b', [], rfl, by simp, by simp⟩, trivial⟩

end Template

end ParamExpansion
