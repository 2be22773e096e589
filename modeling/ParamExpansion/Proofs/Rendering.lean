import ParamExpansion.Proofs.Consumption
import ParamExpansion.Proofs.Scanning

/-!
# Written templates are read back

The lexer reads a written node as the leaves of its derivation, inside and outside parameters. So the
parser reads a written template back, unless too many of its parameters are open at the same time.
-/

namespace ParamExpansion

open Token (Kind kinds nestings)

/-! ## Pieces of a text -/

/-- In front of `ds`, behind the token `q` and inside `n` braces, the characters `cs` are read as
`ks`. -/
def Scans (q : Option Kind) (n : Nat) (cs : List Char) (ks : List Kind) (ds : List Char) : Prop :=
  ∀ p, ∃ ts p', Lexer.Runs ⟨⟨cs ++ ds, p⟩, q, n⟩ ts ⟨⟨ds, p'⟩, ks.getLast?.or q, nestings ks n⟩ ∧
    kinds ts = ks

namespace Scans

variable {q : Option Kind} {n : Nat} {cs cs' ds : List Char} {ks ks' : List Kind}

theorem nil : Scans q n [] [] ds := fun p => ⟨[], p, .done _, rfl⟩

theorem one {k : Kind} (h : ∀ p, ({ cursor := ⟨cs ++ ds, p⟩, previous := q, nesting := n } :
    Lexer).lexeme? = some ⟨k, cs⟩) : Scans q n cs [k] ds := by
  intro p
  have hstep := Lexer.next?_of_lexeme? (h p)
  have hskip : ({ cursor := ⟨cs ++ ds, p⟩, previous := q, nesting := n } : Lexer).skip ⟨k, cs⟩ =
      ⟨⟨ds, p.steps cs⟩, some k, k.nesting n⟩ := by
    simp [Lexer.skip, Cursor.skip]
  rw [hskip] at hstep
  exact ⟨[_], _, .step hstep (.done _), rfl⟩

theorem append (h : Scans q n cs ks (cs' ++ ds))
    (h' : Scans (ks.getLast?.or q) (nestings ks n) cs' ks' ds) :
    Scans q n (cs ++ cs') (ks ++ ks') ds := by
  intro p
  obtain ⟨ts, p', hr, rfl⟩ := h p
  obtain ⟨ts', p'', hr', rfl⟩ := h' p'
  refine ⟨ts ++ ts', p'', ?_, Token.kinds_append ts ts'⟩
  rw [List.append_assoc, List.getLast?_append, Option.or_assoc, Token.nestings_append]
  exact hr.append hr'

/-- One token and then others. -/
theorem cons {k : Kind} (h : Scans q n cs [k] (cs' ++ ds))
    (h' : Scans (some k) (k.nesting n) cs' ks ds) : Scans q n (cs ++ cs') (k :: ks) ds :=
  h.append h'

/-! ## Tokens inside a parameter -/

/-- The dollar sign of a parameter is read everywhere. -/
theorem dollar (ho : Lexeme.opensParam ('$' :: ds) = true) : Scans q n ['$'] [.mark .dollar] ds := by
  apply one
  intro p
  rw [List.singleton_append, Lexer.lexeme?_inside (.inr ho), Lexeme.inParam?,
    Lexeme.mark?_of_opensParam ho]
  rfl

/-- Whether the next token lies inside a parameter. -/
theorem inParam_iff {c : Cursor} :
    ({ cursor := c, previous := q, nesting := n } : Lexer).inParam = true ↔
      0 < n ∨ q = some (.mark .dollar) := Lexer.inParam_iff

theorem mark {m : Mark} (hi : 0 < n ∨ q = some (.mark .dollar))
    (hm : m = .dollar → ds.head? ≠ some '$') : Scans q n [m.char] [.mark m] ds := by
  apply one
  intro p
  rw [Lexer.lexeme?_inside (.inl (inParam_iff.2 hi)), Lexeme.inParam?, List.singleton_append,
    Lexeme.mark?_char hm]
  rfl

theorem caseMark {k : CaseChange} (hi : 0 < n) (hq : q.any (·.admitsCaseMark) = true) :
    Scans q n [k.char] [.caseMark k] ds := by
  apply one
  intro p
  have hm : Lexeme.mark? (k.char :: ds) = none := by
    rw [Lexeme.mark?_cons]
    cases k <;> rfl
  rw [Lexer.lexeme?_inside (.inl (inParam_iff.2 (.inl hi)))]
  simp [Lexeme.inParam?, hm, hq]

/-- An identifier is read off its run of characters. -/
theorem run {id : Identifier} {continues : Char → Bool} (h : id.ReadFrom cs continues)
    (hi : 0 < n ∨ q = some (.mark .dollar)) (hq : q.any (·.introducesIdentifier) = true)
    (hd : ∀ e ∈ ds.head?, continues e = false) : Scans q n cs [id.token] ds :=
  one fun _ => h.lexeme?_eq rfl (inParam_iff.2 hi) hq hd

theorem identifier {id : Identifier} (hid : id.WellFormed) (hi : 0 < n)
    (hq : q.any (·.introducesIdentifier) = true) {e : Char} (he : isNameChar e = false) :
    Scans q n id.render [id.token] (e :: ds) := by
  obtain ⟨continues, hread⟩ := hid.readFrom
  exact run hread (.inl hi) hq (by simpa using hread.continues_eq_false he)

/-- An identifier and what follows it. -/
theorem identifier_cons {id : Identifier} (hid : id.WellFormed) (hi : 0 < n)
    (hq : q.any (·.introducesIdentifier) = true) {e : Char} (he : isNameChar e = false)
    (h : Scans (some id.token) n (e :: cs) ks ds) :
    Scans q n (id.render ++ e :: cs) (id.token :: ks) ds :=
  (identifier hid hi hq he).cons (by rwa [Derivation.nesting_token])

theorem payloadText {value : String} (hv : PayloadText value) (hi : 0 < n)
    (hc : q.any (·.admitsCaseMark) = false) (hq : q.any (·.introducesIdentifier) = false) :
    Scans q n (escape value.toList) [.text value] ('}' :: ds) := by
  apply one
  intro p
  obtain ⟨c, cs, hvalue, hmark, hall⟩ := hv
  have hne : value ≠ "" := by
    rintro rfl
    cases hvalue
  rw [Lexer.lexeme?_inside (.inl (inParam_iff.2 (.inl hi))),
    Lexeme.inParam?_of_mark?_eq_none (by rw [hvalue]; exact Lexeme.mark?_escape hmark cs _) hc hq,
    Lexeme.paramTextRun_escape (by rwa [hvalue]), Lexeme.text?_escape hne]

/-! ## Text outside parameters -/

theorem text {value : String} (hv : value ≠ "") (hq : q ≠ some (.mark .dollar))
    (hd : Lexeme.textRun ds = []) : Scans q 0 (escape value.toList) [.text value] ds := by
  apply one
  intro p
  have hi : ({ cursor := ⟨escape value.toList ++ ds, p⟩, previous := q } : Lexer).inParam = false := by
    rw [Bool.eq_false_iff, ne_eq, inParam_iff]
    simpa using hq
  have hrun : Lexeme.textRun (escape value.toList ++ ds) = escape value.toList := by
    rw [Lexeme.textRun_escape_append, hd, List.append_nil]
  have ho : Lexeme.opensParam (escape value.toList ++ ds) = false :=
    Lexeme.opensParam_eq_false_of_textRun (by simpa [hrun] using hv)
  -- So the whole run is taken, and it is not empty.
  rw [Lexer.lexeme?_outside hi ho, hrun, Lexeme.text?_escape hv]

/-! ## Parameters -/

/-- A parameter in braces, once what stands inside is read. -/
theorem enclosed {inside : List Char}
    (h : Scans (some (.mark .openBrace)) (n + 1) inside ks ('}' :: ds))
    (hk : nestings ks (n + 1) = n + 1) : Scans q n (Node.enclose inside) (Derivation.enclosed ks) ds := by
  have hclose : Scans (ks.getLast?.or (some (.mark .openBrace))) (nestings ks (n + 1)) ['}']
      [.mark .closeBrace] ds := mark (m := .closeBrace) (.inl (by omega)) (by simp)
  have hopen : Scans (some (.mark .dollar)) n ['{'] [.mark .openBrace] (inside ++ ['}'] ++ ds) :=
    mark (m := .openBrace) (.inr rfl) (by simp)
  exact (dollar (by simp [Lexeme.opensParam])).cons (hopen.cons (h.append hclose))

/-- A conditional form up to its operator, and what follows. -/
theorem guarded {id : Identifier} (hid : id.WellFormed) (colon : Bool) {m : Mark}
    (hm : m = .dash ∨ m = .plus ∨ m = .question) {more : List Char}
    (h : Scans (some (.mark m)) (n + 1) more ks ds) :
    Scans (some (.mark .openBrace)) (n + 1) (Node.guard id colon m ++ more)
      (Derivation.guarded id colon m ks) ds := by
  have hdollar : m ≠ .dollar := by rcases hm with rfl | rfl | rfl <;> decide
  have hname : isNameChar m.char = false := by rcases hm with rfl | rfl | rfl <;> decide
  have hnest : Kind.nesting (.mark m) (n + 1) = n + 1 := by rcases hm with rfl | rfl | rfl <;> rfl
  have hmark (q : Option Kind) : Scans q (n + 1) (m.char :: more) (.mark m :: ks) ds :=
    cons (mark (.inl (Nat.succ_pos n)) fun h => absurd h hdollar) (by rwa [hnest])
  cases colon with
  | false =>
    have := identifier_cons (q := some (.mark .openBrace)) hid (Nat.succ_pos n) rfl hname (hmark _)
    simpa [Node.guard, Derivation.guarded, Derivation.colonTokens] using this
  | true =>
    -- The colon stands between the identifier and the operator.
    have hcolon : Scans (some id.token) (n + 1) (':' :: m.char :: more)
        (.mark .colon :: .mark m :: ks) ds :=
      cons (mark (m := .colon) (.inl (Nat.succ_pos n)) (by simp)) (hmark _)
    have := identifier_cons (q := some (.mark .openBrace)) hid (Nat.succ_pos n) rfl (by decide) hcolon
    simpa [Node.guard, Derivation.guarded, Derivation.colonTokens] using this

end Scans

namespace Node

open Scans

/-- A payload is read behind its operator, if it is read everywhere unless it is a text. -/
theorem scans_payload {node : Node} (hn : node.WellFormed) {m : Mark} (hm : m = .dash ∨ m = .plus)
    (h : (∀ value, node ≠ text value) → ∀ q n ds, Scans q n node.render node.derivation.yield ds)
    (n : Nat) (ds : List Char) :
    Scans (some (.mark m)) (n + 1) node.render node.derivation.yield ('}' :: ds) := by
  -- A text depends on the operator before it, anything else does not.
  cases node with
  | text value =>
    rcases hm with rfl | rfl <;> exact payloadText hn (Nat.succ_pos n) rfl rfl
  | _ => exact h (by simp) _ _ _

/-- A written parameter is read everywhere, and whatever follows it. -/
theorem scans_render {node : Node} (hn : node.WellFormed) (ht : ∀ value, node ≠ text value)
    (q : Option Kind) (n : Nat) (ds : List Char) :
    Scans q n node.render node.derivation.yield ds := by
  -- The induction is on the node. Each piece is read behind the one before it, and the closing
  -- brace or an operator ends every identifier and every text.
  induction node generalizing q n ds with
  | text value => exact absurd rfl (ht value)
  | simple id modifier p =>
    cases modifier with
    | none => exact enclosed (identifier hn (Nat.succ_pos n) rfl (by decide)) (by simp)
    | some m =>
      obtain ⟨k, all⟩ := m
      have hk : isNameChar k.char = false := by cases k <;> decide
      refine enclosed (identifier_cons hn (Nat.succ_pos n) rfl hk ?_) ?_
      · have hid : (some id.token).any (·.admitsCaseMark) = true := by cases id <;> rfl
        cases all with
        | false => exact caseMark (Nat.succ_pos n) hid
        | true => exact cons (caseMark (Nat.succ_pos n) hid) (caseMark (Nat.succ_pos n) rfl)
      · cases all <;> simp [Kind.nesting]
  | length id p =>
    refine enclosed (cons (mark (m := .pound) (.inl (Nat.succ_pos n)) (by simp)) ?_) ?_
    · exact identifier hn (Nat.succ_pos n) rfl (by decide)
    · simp [Kind.nesting]
  | arity p => exact enclosed (mark (m := .pound) (.inl (Nat.succ_pos n)) (by simp)) rfl
  | indirect id p =>
    refine enclosed (cons (mark (m := .bang) (.inl (Nat.succ_pos n)) (by simp)) ?_) ?_
    · exact identifier hn (Nat.succ_pos n) rfl (by decide)
    · simp [Kind.nesting]
  | withDefault id payload emptyIsUnset p ih =>
    refine enclosed (guarded hn.1 emptyIsUnset (.inl rfl) ?_) ?_
    · exact scans_payload hn.2 (.inl rfl) (fun ht => ih hn.2 ht) n ds
    · rw [Derivation.nestings_guarded id emptyIsUnset (by decide), Derivation.nestings_yield]
  | withAlternative id payload emptyIsUnset p ih =>
    refine enclosed (guarded hn.1 emptyIsUnset (.inr (.inl rfl)) ?_) ?_
    · exact scans_payload hn.2 (.inr rfl) (fun ht => ih hn.2 ht) n ds
    · rw [Derivation.nestings_guarded id emptyIsUnset (by decide), Derivation.nestings_yield]
  | withError id message emptyIsUnset p =>
    refine enclosed (guarded hn.1 emptyIsUnset (.inr (.inr rfl)) ?_) ?_
    · cases message with
      | none => exact nil
      | some value => exact payloadText (hn.2 value rfl) (Nat.succ_pos n) rfl rfl
    · rw [Derivation.nestings_guarded id emptyIsUnset (by decide)]
      cases message <;> rfl

/-- A written node that is no text starts a parameter. -/
theorem opensParam_render {node : Node} (ht : ∀ value, node ≠ text value) (ds : List Char) :
    Lexeme.opensParam (node.render ++ ds) = true := by
  have henclose (inside : List Char) : Lexeme.opensParam (enclose inside ++ ds) = true := by
    simp [enclose, Lexeme.opensParam]
  cases node with
  | text value => exact absurd rfl (ht value)
  | simple id modifier p => cases modifier <;> exact henclose _
  | _ => exact henclose _

/-- Written nodes are read one after the other. -/
theorem scans_flatMap_render {nodes : List Node} (hn : AllWellFormed nodes) {q : Option Kind}
    (hq : q ≠ some (.mark .dollar)) :
    Scans q 0 (nodes.flatMap render) (Derivation.yields (nodes.map derivation)) [] := by
  induction nodes generalizing q with
  | nil => exact nil
  | cons node nodes ih =>
    -- A node leaves no brace open and does not end with a dollar sign, so the others are read
    -- outside parameters again.
    have htail (hns : AllWellFormed nodes) : Scans (node.derivation.yield.getLast?.or q)
        (nestings node.derivation.yield 0) (nodes.flatMap render)
        (Derivation.yields (nodes.map derivation)) [] := by
      rw [Derivation.nestings_yield]
      apply ih hns
      rcases node.derivation.getLast?_yield with ⟨value, hv⟩ | ⟨id, hid⟩ | hc
      · simp [hv, Derivation.yield]
      · simp [hid]
      · simp [hc]
    cases node with
    | text value =>
      obtain ⟨hv, hhead, hns⟩ := hn
      -- The text runs up to the next node, which starts a parameter, as it is no text.
      refine append (Scans.text hv hq ?_) (htail hns)
      cases nodes with
      | nil => rfl
      | cons next nodes =>
        have ht : ∀ more, next ≠ text more := by simpa using hhead
        rw [List.append_nil, List.map_cons, List.flatten_cons]
        exact Lexeme.textRun_of_opensParam (opensParam_render ht _)
    | _ => exact append (scans_render hn.1 (by simp) q 0 _) (htail hn.2)

end Node

/-! ## Templates -/

namespace Template

open ParamExpansion.Derivation ParamExpansion.Parser

/-- A written template is read as the leaves of its derivations. -/
theorem kinds_tokenize_render {t : Template} (h : t.WellFormed) :
    kinds (tokenize t.render) = yields (t.nodes.map Node.derivation) := by
  obtain ⟨ts, p, hr, hk⟩ := Node.scans_flatMap_render h (q := none) (by simp) .start
  have hstart : Lexer.ofString t.render = ⟨⟨t.nodes.flatMap Node.render ++ [], .start⟩, none, 0⟩ := by
    simp [Lexer.ofString, Cursor.ofString, render]
  rw [tokenize, hstart, hr.tokens_eq, Lexer.tokens_of_none, List.append_nil, hk]
  exact Lexer.next?_eq_none_iff.2 (Lexer.lexeme?_of_rest_eq_nil rfl)

/-- A written template is read back. -/
theorem ofString_render {t : Template} (h : t.WellFormed) (hd : t.depth ≤ maxNesting) :
    ∃ u, ofString t.render = .ok u ∧ u.unplaced = t.unplaced := by
  have hheight : ∀ d ∈ t.nodes.map Node.derivation, d.height ≤ maxNesting := by
    simpa using depth_le_iff.1 hd
  obtain ⟨u, hu, hs, -⟩ := ofSource_of_sentence hheight (kinds_tokenize_render h)
  rw [ofString_eq_ofSource_tokenize]
  refine ⟨u, hu, hs.trans ?_⟩
  simp [unplaced]

end Template

/-! ## Too many open braces -/

namespace Derivation

open ParamExpansion.Parser

/-- A payload with too many braces makes the parameter around it one with too many. -/
theorem exists_blocked_of_payload (id : Identifier) (colon : Bool) {m : Mark}
    (hm : m = .dash ∨ m = .plus) {room height : Nat} {ks : List Kind} (hlt : room < height + 1)
    (h : ∀ room < height, ∃ us rest, ks = us ++ .mark .openBrace :: rest ∧
      Blocked room us (some (.mark .openBrace)) .nestingTooDeep) :
    ∃ us rest, enclosed (guarded id colon m ks) = us ++ .mark .openBrace :: rest ∧
      Blocked room us (some (.mark .openBrace)) .nestingTooDeep := by
  -- Without room the outer brace is already one too many. Otherwise one in the payload is.
  cases room with
  | zero => exact ⟨[.mark .dollar], _, rfl, .nestingTooDeep⟩
  | succ room =>
    obtain ⟨us, rest, rfl, hb⟩ := h room (Nat.lt_of_succ_lt_succ hlt)
    refine ⟨opened (guarded id colon m us), rest ++ [.mark .closeBrace], ?_, .payload id colon hm hb⟩
    simp [enclosed, opened]

/-- A node with too many braces is blocked at the first one too many. -/
theorem exists_blocked_of_lt_height {d : Derivation} {room : Nat} (h : room < d.height) :
    ∃ us rest, d.yield = us ++ .mark .openBrace :: rest ∧
      Blocked room us (some (.mark .openBrace)) .nestingTooDeep := by
  induction d generalizing room with
  | text value => cases h
  | plain id => cases h
  | withDefault id colon payload ih =>
    exact exists_blocked_of_payload id colon (.inl rfl) h fun _ => ih
  | withAlternative id colon payload ih =>
    exact exists_blocked_of_payload id colon (.inr rfl) h fun _ => ih
  -- A parameter without a payload opens one brace, so no brace at all is allowed.
  | _ =>
    obtain rfl : room = 0 := Nat.lt_one_iff.1 h
    exact ⟨[.mark .dollar], _, rfl, .nestingTooDeep⟩

end Derivation

namespace Template

open ParamExpansion.Derivation ParamExpansion.Parser Token

/-- A template in which too many parameters are open at the same time cannot be read back. -/
theorem ofString_render_of_lt_depth {t : Template} (h : t.WellFormed) (hd : maxNesting < t.depth) :
    ∃ e, ofString t.render = .error e ∧ e.cause = .nestingTooDeep := by
  -- The first node with too many braces is the one that is blocked.
  obtain ⟨before, d, after, hds, hbefore, hlt⟩ : ∃ before d after,
      t.nodes.map Node.derivation = before ++ d :: after ∧
        (∀ b ∈ before, b.height ≤ maxNesting) ∧ maxNesting < d.height := by
    have hex : ((t.nodes.map Node.derivation).find? (maxNesting < ·.height)).isSome := by
      have hd' : ¬ ∀ n ∈ t.nodes, n.depth ≤ maxNesting := by
        rw [← depth_le_iff]
        omega
      simpa using hd'
    obtain ⟨d, hfind⟩ := Option.isSome_iff_exists.1 hex
    obtain ⟨hlt, before, after, hds, hbefore⟩ := List.find?_eq_some_iff_append.1 hfind
    exact ⟨before, d, after, hds, by simpa using hbefore, by simpa using hlt⟩
  obtain ⟨us, rest, hy, hb⟩ := exists_blocked_of_lt_height hlt
  have hk : kinds (tokenize t.render) =
      yields before ++ (us ++ .mark .openBrace :: (rest ++ yields after)) := by
    rw [kinds_tokenize_render h, hds, yields_append, yields_cons, hy]
    simp
  obtain ⟨ts, ws, htokens, hts, hws⟩ := exists_of_kinds_eq_append hk
  obtain ⟨xs, more, rfl, hxs, hmore⟩ := exists_of_kinds_eq_append hws
  have hfound : more.head?.map Token.kind = some (.mark .openBrace) := by
    rw [← head?_kinds, hmore]
    rfl
  have hne : xs ++ more ≠ [] := by
    intro h0
    simp [h0] at hws
  rw [ofString_eq_ofSource_tokenize, htokens]
  exact ⟨_, ofSource_of_blocked hbefore hts _ (hfound ▸ hb) hxs hne, rfl⟩

end Template

end ParamExpansion
