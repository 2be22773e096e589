import ParamExpansion.Proofs.TokenList

/-!
# The parser accepts exactly its grammar

Along a derivation the parser reads the node that the derivation describes, and where a list of
tokens is blocked it stops with the error that says so. As every list of tokens is one or the other,
this tells all that the parser does.
-/

namespace ParamExpansion

open Token (Kind kinds)

namespace Parser

open ParamExpansion.Derivation Token

variable {α β : Type} {payload : ParserM (List Token) Node}

/-! ## Along a derivation -/

/-- Whether a run reads the node that `d` describes, off any tokens that are the leaves of `d`. -/
def Reads (m : ParserM (List Token) Node) (d : Derivation) : Prop :=
  ∀ us rest pos n, kinds us = d.yield → ∃ node,
    m (before (us ++ rest) pos n) = .ok node (before rest (behind pos us) n) ∧
      node.unplaced = d.node ∧ node.positions = dollars us

/-- Whether a run reads a parameter off the tokens between its braces, which `d` has derived, and
gets as far as the closing brace or what stands in its place. -/
def ReadsInside (m : Position → ParserM (List Token) Node) (d : Derivation) : Prop :=
  ∀ inside us rest pos n start, d.yield = enclosed inside → kinds us = inside →
    (rest.head?.map Token.kind ≠ some (.mark .closeBrace) → d.Unclosed (rest.head?.map Token.kind)) →
    ∃ node q, m start (before (us ++ rest) pos n) = .ok node q ∧
      q.settle = before rest (behind pos us) n ∧
      node.unplaced = d.node ∧ node.positions = start :: dollars us

theorem readsInside_length (id : Identifier) : ReadsInside (braced payload) (.length id) := by
  intro inside us rest pos n start hy hu hr
  obtain rfl := enclosed_injective hy
  obtain ⟨t, us, rfl, ht, hu⟩ := exists_of_kinds_eq_cons hu
  obtain ⟨u, us, rfl, hi, hu⟩ := exists_of_kinds_eq_cons hu
  obtain rfl := eq_nil_of_kinds_eq_nil hu
  -- An identifier follows, so this is not the form for the number of values.
  have hc : u.kind ≠ .mark .closeBrace := by simp [hi]
  refine ⟨.length id start, before rest (some u.stop) n, ?_, rfl, rfl, ?_⟩
  · rw [List.cons_append, braced_pound ht, List.cons_append, lengthOrArity_of_ne_closeBrace hc,
      bind_ok (identifier_token hi)]
    rfl
  · simp [Node.positions, dollars_cons, ht, hi]

theorem readsInside_indirect (id : Identifier) : ReadsInside (braced payload) (.indirect id) := by
  intro inside us rest pos n start hy hu hr
  obtain rfl := enclosed_injective hy
  obtain ⟨t, us, rfl, ht, hu⟩ := exists_of_kinds_eq_cons hu
  obtain ⟨u, us, rfl, hi, hu⟩ := exists_of_kinds_eq_cons hu
  obtain rfl := eq_nil_of_kinds_eq_nil hu
  refine ⟨.indirect id start, before rest (some u.stop) n, ?_, rfl, rfl, ?_⟩
  · rw [List.cons_append, braced_bang ht, List.cons_append, bind_ok (identifier_token hi)]
    rfl
  · simp [Node.positions, dollars_cons, ht, hi]

theorem readsInside_arity : ReadsInside (braced payload) .arity := by
  intro inside us rest pos n start hy hu hr
  obtain rfl := enclosed_injective hy
  obtain ⟨t, us, rfl, ht, hu⟩ := exists_of_kinds_eq_cons hu
  obtain rfl := eq_nil_of_kinds_eq_nil hu
  -- The closing brace follows, since only that ends this form.
  have hc : rest.head?.map Token.kind = some (.mark .closeBrace) :=
    Classical.byContradiction fun hc => hr hc
  obtain ⟨u, more, rfl, hb⟩ := exists_of_head?_kind hc
  refine ⟨.arity start, looking u more (some t.stop) n, ?_, rfl, rfl, ?_⟩
  · rw [List.cons_append, braced_pound ht]
    exact lengthOrArity_closeBrace hb
  · simp [Node.positions, dollars_cons, ht]

theorem readsInside_cased (id : Identifier) (k : CaseChange) (all : Bool) :
    ReadsInside (braced payload) (.cased id k all) := by
  intro inside us rest pos n start hy hu hr
  obtain rfl := enclosed_injective hy
  obtain ⟨t, us, rfl, ht, hu⟩ := exists_of_kinds_eq_cons hu
  obtain ⟨u, us, rfl, hk, hu⟩ := exists_of_kinds_eq_cons hu
  cases all with
  | false =>
    obtain rfl := eq_nil_of_kinds_eq_nil hu
    have hc : rest.head?.map Token.kind ≠ some (.caseMark k) := by
      by_cases hb : rest.head?.map Token.kind = some (.mark .closeBrace)
      · simp [hb]
      · exact (hr hb).2
    -- The parser looks for a second mark, and leaves the token that it finds instead.
    obtain ⟨q, hq, hs⟩ := caseParam_of_ne id u (some t.stop) n start hc
    refine ⟨.simple id (some { change := k }) start, q, ?_, hs, rfl, ?_⟩
    · rw [List.cons_append, List.cons_append, braced_caseMark ht hk]
      exact hq
    · simp [Node.positions, dollars_cons, ht, hk]
  | true =>
    obtain ⟨v, us, rfl, hk', hu⟩ := exists_of_kinds_eq_cons hu
    obtain rfl := eq_nil_of_kinds_eq_nil hu
    refine ⟨.simple id (some { change := k, all := true }) start, before rest (some v.stop) n, ?_,
      rfl, rfl, ?_⟩
    · rw [List.cons_append, List.cons_append, braced_caseMark ht hk]
      exact caseParam_twice hk'
    · simp [Node.positions, dollars_cons, ht, hk, hk']

/-- Behind an identifier, and a colon if there is one, the parser looks for an operator. -/
theorem braced_guarded {id : Identifier} {colon : Bool} {us ts : List Token} {t : Token}
    {pos : Option Position} {n : Nat} {start : Position}
    (hu : kinds us = id.token :: colonTokens colon)
    (hk : colon = false → (∀ k, t.kind ≠ .caseMark k) ∧ t.kind ≠ .mark .colon) :
    braced payload start (before (us ++ t :: ts) pos n) =
      operation payload id colon start (before (t :: ts) (behind pos us) n) := by
  obtain ⟨u, us, rfl, hi, hu⟩ := exists_of_kinds_eq_cons hu
  -- A token that is no colon is looked at only, and the operator is then taken as it stands.
  cases colon with
  | false =>
    obtain rfl := eq_nil_of_kinds_eq_nil hu
    rw [List.cons_append, List.nil_append, braced_conditional hi (hk rfl).1,
      conditional_of_ne_colon (hk rfl).2]
    rfl
  | true =>
    obtain ⟨c, us, rfl, hm, hu⟩ := exists_of_kinds_eq_cons hu
    obtain rfl := eq_nil_of_kinds_eq_nil hu
    rw [List.cons_append, List.cons_append, List.nil_append, braced_conditional hi (by simp [hm]),
      conditional_colon hm]
    rfl

theorem readsInside_braced (id : Identifier) : ReadsInside (braced payload) (.braced id) := by
  intro inside us rest pos n start hy hu hr
  obtain rfl := enclosed_injective hy
  have hc : rest.head?.map Token.kind = some (.mark .closeBrace) :=
    Classical.byContradiction fun hc => hr hc
  obtain ⟨u, more, rfl, hb⟩ := exists_of_head?_kind hc
  have hd : Token.dollars us = [] := dollars_eq_nil (by simp [hu])
  refine ⟨.simple id none start, looking u more (behind pos us) n, ?_, rfl, rfl, ?_⟩
  · have hu : kinds us = id.token :: colonTokens false := hu
    rw [braced_guarded hu (by simp [hb])]
    exact operation_closeBrace hb
  · simp [Node.positions, hd]

/-- The tokens of a conditional form: those in front of the operator, the operator, the payload. -/
theorem kinds_guarded {id : Identifier} {colon : Bool} {m : Mark} {more : List Kind}
    {us : List Token} (h : kinds us = guarded id colon m more) :
    ∃ vs t ws, us = vs ++ t :: ws ∧ kinds vs = id.token :: colonTokens colon ∧
      t.kind = .mark m ∧ kinds ws = more := by
  have h : kinds us = (id.token :: colonTokens colon) ++ .mark m :: more := h
  obtain ⟨vs, us, rfl, hv, hu⟩ := exists_of_kinds_eq_append h
  obtain ⟨t, ws, rfl, ht, hw⟩ := exists_of_kinds_eq_cons hu
  exact ⟨vs, t, ws, rfl, hv, ht, hw⟩

theorem dollars_guard {id : Identifier} {colon : Bool} {us : List Token}
    (h : kinds us = id.token :: colonTokens colon) : dollars us = [] := by
  refine dollars_eq_nil ?_
  cases colon <;> simp [h, colonTokens]

/-- The payload of a parameter is read behind the operator. -/
theorem braced_reads_payload {id : Identifier} {colon : Bool} {m : Mark}
    (hm : m = .dash ∨ m = .plus) {build : Node → Node} {start : Position}
    (hop : ∀ {t : Token} {ts : List Token} {pos : Option Position} {n : Nat}, t.kind = .mark m →
      operation payload id colon start (before (t :: ts) pos n) =
        (payload >>= fun node => pure (build node)) (before ts (some t.stop) n))
    {d : Derivation} (hd : Reads payload d) {us : List Token}
    (hu : kinds us = guarded id colon m d.yield) (rest : List Token) (pos : Option Position)
    (n : Nat) :
    ∃ node, braced payload start (before (us ++ rest) pos n) =
        .ok (build node) (before rest (behind pos us) n) ∧
      node.unplaced = d.node ∧ node.positions = dollars us := by
  -- The tokens are the identifier with its colon, the operator, and those of the payload with the
  -- closing brace.
  obtain ⟨vs, t, ws, rfl, hv, ht, hw⟩ := kinds_guarded hu
  obtain ⟨node, hread, hs, hp⟩ := hd ws rest (some t.stop) n hw
  have hcolon : m ≠ .colon := by
    rintro rfl
    simp at hm
  have hdollar : m ≠ .dollar := by
    rintro rfl
    simp at hm
  refine ⟨node, ?_, hs, ?_⟩
  · rw [List.append_assoc, List.cons_append, braced_guarded hv (by simp [ht, hcolon]), hop ht,
      bind_ok hread, behind_append]
    rfl
  · simp [hp, dollars_cons, ht, hdollar, dollars_guard hv]

theorem readsInside_withDefault (id : Identifier) (colon : Bool) {d : Derivation}
    (hd : Reads payload d) : ReadsInside (braced payload) (.withDefault id colon d) := by
  intro inside us rest pos n start hy hu hr
  obtain rfl := enclosed_injective hy
  obtain ⟨node, hm, hs, hp⟩ := braced_reads_payload (.inl rfl) operation_dash hd hu rest pos n
  refine ⟨.withDefault id node colon start, before rest (behind pos us) n, hm, rfl, ?_, ?_⟩
  · simp [Node.unplaced, Derivation.node, hs]
  · simp [Node.positions, hp]

theorem readsInside_withAlternative (id : Identifier) (colon : Bool) {d : Derivation}
    (hd : Reads payload d) : ReadsInside (braced payload) (.withAlternative id colon d) := by
  intro inside us rest pos n start hy hu hr
  obtain rfl := enclosed_injective hy
  obtain ⟨node, hm, hs, hp⟩ := braced_reads_payload (.inr rfl) operation_plus hd hu rest pos n
  refine ⟨.withAlternative id node colon start, before rest (behind pos us) n, hm, rfl, ?_, ?_⟩
  · simp [Node.unplaced, Derivation.node, hs]
  · simp [Node.positions, hp]

theorem readsInside_withError (id : Identifier) (colon : Bool) (message : Option String) :
    ReadsInside (braced payload) (.withError id colon message) := by
  intro inside us rest pos n start hy hu hr
  obtain rfl := enclosed_injective hy
  obtain ⟨vs, t, ws, rfl, hv, ht, hw⟩ := kinds_guarded hu
  have hq : braced payload start (before (vs ++ t :: ws ++ rest) pos n) =
      (errorMessage? >>= fun m => pure (.withError id m colon start))
        (before (ws ++ rest) (some t.stop) n) := by
    rw [List.append_assoc, List.cons_append, braced_guarded hv (by simp [ht]),
      operation_question ht]
  cases message with
  | some value =>
    obtain ⟨u, ws, rfl, hm, hw⟩ := exists_of_kinds_eq_cons hw
    obtain rfl := eq_nil_of_kinds_eq_nil hw
    refine ⟨.withError id (some value) colon start, before rest (some u.stop) n, ?_, ?_, rfl, ?_⟩
    · rw [hq, List.cons_append, bind_ok (errorMessage?_text hm)]
      rfl
    · simp
    · simp [Node.positions, dollars_cons, ht, hm, dollars_guard hv]
  | none =>
    obtain rfl := eq_nil_of_kinds_eq_nil hw
    have hn : ∀ value, rest.head?.map Token.kind ≠ some (.text value) := by
      intro value
      by_cases hb : rest.head?.map Token.kind = some (.mark .closeBrace)
      · simp [hb]
      · exact (hr hb).2 value
    -- The parser looks for a text, and leaves the token that it finds instead.
    obtain ⟨q, he, hs⟩ := errorMessage?_of_ne (some t.stop) n hn
    refine ⟨.withError id none colon start, q, ?_, ?_, rfl, ?_⟩
    · rw [hq, List.nil_append, bind_ok he]
      rfl
    · simp [hs]
    · simp [Node.positions, dollars_cons, ht, dollars_guard hv]

/-- What stands between the braces of a parameter is read, provided its payload is. -/
theorem readsInside {room : Nat} {d : Derivation} (hd : d.height ≤ room + 1)
    (ih : ∀ e : Derivation, e.height ≤ room → Reads payload e) :
    ReadsInside (braced payload) d := by
  cases d with
  | text value | plain id =>
    intro inside us rest pos n start hy
    simp [yield, enclosed, opened] at hy
  | braced id => exact readsInside_braced id
  | cased id k all => exact readsInside_cased id k all
  | length id => exact readsInside_length id
  | arity => exact readsInside_arity
  | indirect id => exact readsInside_indirect id
  | withDefault id colon e => exact readsInside_withDefault id colon (ih e (Nat.le_of_succ_le_succ hd))
  | withAlternative id colon e =>
    exact readsInside_withAlternative id colon (ih e (Nat.le_of_succ_le_succ hd))
  | withError id colon message => exact readsInside_withError id colon message

theorem reads_text (p : Option (ParserM (List Token) Node)) (value : String) :
    Reads (nodeOver p) (.text value) := by
  intro us rest pos n hu
  obtain ⟨t, us, rfl, ht, hu⟩ := exists_of_kinds_eq_cons hu
  obtain rfl := eq_nil_of_kinds_eq_nil hu
  refine ⟨.text value, ?_, rfl, ?_⟩
  · exact nodeOver_text ht
  · simp [Node.positions, dollars_cons, ht]

theorem reads_plain (p : Option (ParserM (List Token) Node)) (id : Identifier) :
    Reads (nodeOver p) (.plain id) := by
  intro us rest pos n hu
  obtain ⟨t, us, rfl, ht, hu⟩ := exists_of_kinds_eq_cons hu
  obtain ⟨u, us, rfl, hi, hu⟩ := exists_of_kinds_eq_cons hu
  obtain rfl := eq_nil_of_kinds_eq_nil hu
  refine ⟨.simple id none t.start, ?_, rfl, ?_⟩
  · rw [List.cons_append, nodeOver_dollar ht, param_plain (by simp [hi]), List.cons_append,
      bind_ok (identifier_token hi)]
    rfl
  · simp [Node.positions, dollars_cons, ht, hi]

theorem reads_enclosed {d : Derivation} {inside : List Kind} (hy : d.yield = enclosed inside)
    (hd : ReadsInside (braced payload) d) : Reads (nodeOver (some payload)) d := by
  intro us rest pos n hu
  rw [hy] at hu
  obtain ⟨t, us, rfl, ht, hu⟩ := exists_of_kinds_eq_cons hu
  obtain ⟨b, us, rfl, hb, hu⟩ := exists_of_kinds_eq_cons hu
  -- The tokens are a dollar sign, a brace, what stands inside, and a closing brace.
  obtain ⟨us, cs, rfl, hi, hcs⟩ := exists_of_kinds_eq_append hu
  obtain ⟨c, cs, rfl, hc, hn⟩ := exists_of_kinds_eq_cons hcs
  obtain rfl := eq_nil_of_kinds_eq_nil hn
  obtain ⟨node, q, hm, hq, hs, hp⟩ :=
    hd inside us (c :: rest) (some b.stop) (n + 1) t.start hy hi (by simp [hc])
  refine ⟨node, ?_, hs, ?_⟩
  · have he : expect (.mark .closeBrace) q = .ok c (before rest (some c.stop) (n + 1)) := by
      rw [← expect_settle, hq]
      exact expect_closeBrace hc
    rw [List.cons_append, nodeOver_dollar ht, List.cons_append, param_braced hb, List.append_assoc,
      List.singleton_append, bind_ok hm, bind_ok he]
    simp
    rfl
  · simp [hp, dollars_cons, ht, hb, hc]

/-- The parser reads what the grammar derives. -/
theorem reads_nodeWithin {room : Nat} {d : Derivation} (hd : d.height ≤ room) :
    Reads (nodeWithin room) d := by
  induction room generalizing d with
  | zero =>
    rcases exists_inside d with ⟨value, rfl⟩ | ⟨id, rfl⟩ | ⟨inside, hy, hpos⟩
    · exact reads_text none value
    · exact reads_plain none id
    -- A node in braces does not fit, and it is not asked for.
    · omega
  | succ room ih =>
    rcases exists_inside d with ⟨value, rfl⟩ | ⟨id, rfl⟩ | ⟨inside, hy, hpos⟩
    · exact reads_text _ value
    · exact reads_plain _ id
    · exact reads_enclosed hy (readsInside hd fun e he => ih he)

/-! ## Where the tokens are blocked -/

/-- Whether a run stops with an error of this cause, at the end of the last token it has taken. -/
def Stops (m : ParserM (List Token) α) (p : Parser (List Token)) (cause : ParseError.Cause)
    (stop : Option Position) : Prop :=
  ∃ q, m p = .error ⟨cause, stop.getD .start⟩ q

theorem Stops.bind {m : ParserM (List Token) α} {g : α → ParserM (List Token) β}
    {p : Parser (List Token)} {cause : ParseError.Cause} {stop : Option Position}
    (h : Stops m p cause stop) : Stops (m >>= g) p cause stop := by
  obtain ⟨q, hq⟩ := h
  exact ⟨q, bind_error hq⟩

/-- The tokens that are taken in front of `rest` when the error is raised. Where a token of a certain
kind is required, and at a brace too many, the offending token is taken too. -/
def offending (cause : ParseError.Cause) (rest : List Token) : List Token :=
  match cause with
  | .expected .. | .expectedIdentifier _ | .nestingTooDeep => rest.take 1
  | _ => []

theorem ne_closeBrace_of_unclosed {d : Derivation} {found : Option Kind} (h : d.Unclosed found) :
    found ≠ some (.mark .closeBrace) := by
  cases d with
  | cased id k all => cases all <;> simp_all [Derivation.Unclosed]
  | withError id colon message => cases message <;> simp_all [Derivation.Unclosed]
  | _ => simp_all [Derivation.Unclosed]

theorem expect_stops {ts : List Token} (pos : Option Position) (n : Nat)
    (hc : ts.head?.map Token.kind ≠ some (.mark .closeBrace)) :
    Stops (expect (.mark .closeBrace)) (before ts pos n)
      (.expected (.mark .closeBrace) (ts.head?.map Token.kind)) (behind pos (ts.take 1)) := by
  cases ts with
  | nil => exact ⟨_, rfl⟩
  | cons t ts =>
    obtain ⟨kind, _, _⟩ := t
    cases kind with
    | mark m => cases m <;> first | exact ⟨_, rfl⟩ | exact absurd rfl hc
    | _ => exact ⟨_, rfl⟩

/-- Whether a run stops with an error of this cause wherever tokens of the kinds `ks` stand in front
of it, and `found` behind them. -/
def StopsAt (m : ParserM (List Token) α) (ks : List Kind) (found : Option Kind)
    (cause : ParseError.Cause) : Prop :=
  ∀ us rest pos n, kinds us = ks → rest.head?.map Token.kind = found →
    Stops m (before (us ++ rest) pos n) cause (behind pos (us ++ offending cause rest))

section StopsAt

variable {m : ParserM (List Token) α} {ks : List Kind} {found : Option Kind} {k : Kind}
  {cause : ParseError.Cause} {start : Position}

theorem StopsAt.bind {g : α → ParserM (List Token) β} (h : StopsAt m ks found cause) :
    StopsAt (m >>= g) ks found cause :=
  fun us rest pos n hu hr => (h us rest pos n hu hr).bind

/-- Where a run takes a token and goes on as another one, it stops where the other one does. -/
theorem StopsAt.cons {go : Token → ParserM (List Token) α}
    (hm : ∀ {t : Token} {ts : List Token} {pos : Option Position} {n : Nat}, t.kind = k →
      m (before (t :: ts) pos n) = go t (before ts (some t.stop) n))
    (h : ∀ t, StopsAt (go t) ks found cause) : StopsAt m (k :: ks) found cause := by
  intro us rest pos n hu hr
  obtain ⟨t, us, rfl, ht, hu⟩ := exists_of_kinds_eq_cons hu
  obtain ⟨q, hq⟩ := h t us rest (some t.stop) n hu hr
  exact ⟨q, (hm ht).trans hq⟩

theorem stopsAt_none (h : ∀ pos n, Stops m (before [] pos n) cause pos) :
    StopsAt m [] none cause := by
  intro us rest pos n hu hr
  obtain rfl := eq_nil_of_kinds_eq_nil hu
  obtain rfl : rest = [] := by simpa using hr
  have hoff : offending cause [] = [] := by cases cause <;> rfl
  rw [hoff]
  exact h pos n

theorem stopsAt_some (h : ∀ t ts pos n, t.kind = k →
      Stops m (before (t :: ts) pos n) cause (behind pos (offending cause (t :: ts)))) :
    StopsAt m [] (some k) cause := by
  intro us rest pos n hu hr
  obtain rfl := eq_nil_of_kinds_eq_nil hu
  obtain ⟨t, more, rfl, ht⟩ := exists_of_head?_kind hr
  exact h t more pos n ht

theorem identifier_stopsAt (hi : ∀ id : Identifier, found ≠ some id.token) :
    StopsAt identifier [] found (.expectedIdentifier found) := by
  cases found with
  | none => exact stopsAt_none fun _ _ => ⟨_, rfl⟩
  | some k =>
    apply stopsAt_some
    rintro ⟨kind, _, _⟩ ts pos n rfl
    cases kind with
    | name x => exact absurd rfl (hi (.named x))
    | index i => exact absurd rfl (hi (.index i))
    | _ => exact ⟨_, rfl⟩

/-! ### Between the braces -/

theorem stopsAt_missingIdentifier (hp : k ≠ .mark .pound) (hb : k ≠ .mark .bang)
    (hi : ∀ id : Identifier, k ≠ id.token) :
    StopsAt (braced payload start) [] (some k) (.expectedIdentifier (some k)) := by
  apply stopsAt_some
  rintro t ts pos n rfl
  exact ⟨_, braced_misplaced hp hb hi⟩

theorem stopsAt_lengthOperand (hc : k ≠ .mark .closeBrace) (hi : ∀ id : Identifier, k ≠ id.token) :
    StopsAt (lengthOrArity start) [] (some k) (.expectedIdentifier (some k)) := by
  have hid : StopsAt identifier [] (some k) (.expectedIdentifier (some k)) :=
    identifier_stopsAt (by simpa using hi)
  apply stopsAt_some
  rintro t ts pos n rfl
  obtain ⟨q, hq⟩ := hid.bind [] (t :: ts) pos n rfl rfl
  exact ⟨q, (lengthOrArity_of_ne_closeBrace hc).trans hq⟩

theorem stopsAt_unterminated (id : Identifier) (colon : Bool) :
    StopsAt (braced payload start) (id.token :: colonTokens colon) none .unterminatedParam := by
  intro us rest pos n hu hr
  obtain rfl : rest = [] := by simpa using hr
  obtain ⟨t, us, rfl, ht, hu⟩ := exists_of_kinds_eq_cons hu
  -- The text ends behind the identifier, or behind the colon.
  cases colon with
  | false =>
    obtain rfl := eq_nil_of_kinds_eq_nil hu
    exact ⟨_, braced_unterminated ht⟩
  | true =>
    obtain ⟨c, us, rfl, hc, hu⟩ := exists_of_kinds_eq_cons hu
    obtain rfl := eq_nil_of_kinds_eq_nil hu
    refine ⟨before [] (some c.stop) n, ?_⟩
    rw [List.append_nil, braced_conditional ht (by simp [hc]), conditional_colon hc, operation_nil]
    rfl

theorem stopsAt_misplacedToken (id : Identifier) {colon : Bool} (hk : ¬ Follows colon k) :
    StopsAt (braced payload start) (id.token :: colonTokens colon) (some k) (.misplacedToken k) := by
  intro us rest pos n hu hr
  obtain ⟨t, more, rfl, rfl⟩ := exists_of_head?_kind hr
  -- The token is neither a change of case nor a colon where these may stand.
  have hc : colon = false → (∀ c, t.kind ≠ .caseMark c) ∧ t.kind ≠ .mark .colon := by
    rintro rfl
    exact ⟨fun c h => hk (.inr ⟨rfl, .inr (.inr ⟨c, h⟩)⟩), fun h => hk (.inr ⟨rfl, .inl h⟩)⟩
  refine ⟨looking t more (behind pos us) n, ?_⟩
  rw [braced_guarded hu hc, operation_misplaced hk, behind_append]
  rfl

/-- The payload is read behind the operator, so the parameter stops where the payload does. -/
theorem stopsAt_payload (id : Identifier) (colon : Bool) {m : Mark} (hm : m = .dash ∨ m = .plus)
    (h : StopsAt payload ks found cause) :
    StopsAt (braced payload start) (guarded id colon m ks) found cause := by
  intro us rest pos n hu hr
  obtain ⟨ws, t, xs, rfl, hw, ht, hx⟩ := kinds_guarded hu
  -- The run stops in the payload, behind the operator.
  have hs := h xs rest (some t.stop) n hx hr
  rw [List.append_assoc, List.append_assoc, behind_append, List.cons_append, List.cons_append,
    behind_cons]
  rcases hm with rfl | rfl
  · obtain ⟨q, hq⟩ := Stops.bind (g := fun d => pure (Node.withDefault id d colon start)) hs
    refine ⟨q, ?_⟩
    rw [braced_guarded hw (by simp [ht]), operation_dash ht, hq]
  · obtain ⟨q, hq⟩ := Stops.bind (g := fun d => pure (Node.withAlternative id d colon start)) hs
    refine ⟨q, ?_⟩
    rw [braced_guarded hw (by simp [ht]), operation_plus ht, hq]

/-- A parameter that has been read stops where its closing brace should be. -/
theorem stopsAt_unclosed {d : Derivation} {inside : List Kind}
    (hd : ReadsInside (braced payload) d) (hy : d.yield = enclosed inside) (hf : d.Unclosed found)
    {g : Node → Token → ParserM (List Token) β} :
    StopsAt (braced payload start >>= fun node => expect (.mark .closeBrace) >>= g node) inside found
      (.expected (.mark .closeBrace) found) := by
  rintro us rest pos n hu rfl
  -- Everything inside the braces is read, and then another token than the closing brace is found.
  obtain ⟨node, q, hm, hq, -⟩ := hd inside us rest pos n start hy hu fun _ => hf
  obtain ⟨r, hr⟩ := expect_stops (behind pos us) n (ne_closeBrace_of_unclosed hf)
  rw [← hq, expect_settle] at hr
  refine ⟨r, ?_⟩
  rw [bind_ok hm, bind_error hr, behind_append]
  rfl

/-! ### Nodes -/

/-- A parameter in braces stops where what follows its opening brace does. -/
theorem stopsAt_opened
    (h : ∀ start, StopsAt (braced payload start >>= fun node => expect (.mark .closeBrace) >>= fun _ =>
      modify (fun p => { p with depth := p.depth - 1 }) >>= fun _ => pure node) ks found cause) :
    StopsAt (nodeOver (some payload)) (opened ks) found cause := by
  apply StopsAt.cons nodeOver_dollar
  intro t us rest pos n hu hr
  obtain ⟨b, us, rfl, hb, hu⟩ := exists_of_kinds_eq_cons hu
  obtain ⟨q, hq⟩ := h t.start us rest (some b.stop) (n + 1) hu hr
  exact ⟨q, (param_braced hb).trans hq⟩

theorem stopsAt_opened_of_braced (h : ∀ start, StopsAt (braced payload start) ks found cause) :
    StopsAt (nodeOver (some payload)) (opened ks) found cause :=
  stopsAt_opened fun start => (h start).bind

theorem stopsAt_unexpectedToken (payload : Option (ParserM (List Token) Node))
    (hd : k ≠ .mark .dollar) (ht : ∀ value, k ≠ .text value) :
    StopsAt (nodeOver payload) [] (some k) (.unexpectedToken k) := by
  apply stopsAt_some
  rintro t ts pos n rfl
  exact ⟨_, nodeOver_unexpected hd ht⟩

theorem stopsAt_missingParam (payload : Option (ParserM (List Token) Node))
    (hb : found ≠ some (.mark .openBrace)) (hi : ∀ id : Identifier, found ≠ some id.token) :
    StopsAt (nodeOver payload) [.mark .dollar] found (.expectedIdentifier found) := by
  apply StopsAt.cons nodeOver_dollar
  intro t us rest pos n hu hr
  obtain rfl := eq_nil_of_kinds_eq_nil hu
  obtain ⟨q, hq⟩ := (identifier_stopsAt hi).bind [] rest pos n rfl hr
  exact ⟨q, (param_plain (hr ▸ hb)).trans hq⟩

theorem stopsAt_nestingTooDeep :
    StopsAt (nodeOver none) [.mark .dollar] (some (.mark .openBrace)) .nestingTooDeep := by
  apply StopsAt.cons nodeOver_dollar
  intro t
  apply stopsAt_some
  intro b ts pos n hb
  exact ⟨_, param_tooDeep hb⟩

end StopsAt

/-- The parser stops where the tokens are blocked. -/
theorem nodeWithin_stopsAt {room : Nat} {ks : List Kind} {found : Option Kind}
    {cause : ParseError.Cause} (h : Blocked room ks found cause) :
    StopsAt (nodeWithin room) ks found cause := by
  -- The induction is on the way the tokens are blocked. What is blocked inside a payload stops the
  -- parser inside the parameter around it.
  induction h with
  | @missingNode room => cases room <;> exact stopsAt_none fun _ _ => ⟨_, rfl⟩
  | @unexpectedToken room k hd ht => cases room <;> exact stopsAt_unexpectedToken _ hd ht
  | @missingParam room found hb hi => cases room <;> exact stopsAt_missingParam _ hb hi
  | nestingTooDeep => exact stopsAt_nestingTooDeep
  | missingContent => exact stopsAt_opened_of_braced fun _ => stopsAt_none fun _ _ => ⟨_, rfl⟩
  | missingIdentifier hp hb hi =>
    exact stopsAt_opened_of_braced fun _ => stopsAt_missingIdentifier hp hb hi
  | missingLengthOperand =>
    exact stopsAt_opened_of_braced fun _ =>
      .cons braced_pound fun _ => stopsAt_none fun _ _ => ⟨_, rfl⟩
  | lengthOperand hc hi =>
    exact stopsAt_opened_of_braced fun _ => .cons braced_pound fun _ => stopsAt_lengthOperand hc hi
  | indirectOperand hi =>
    exact stopsAt_opened_of_braced fun _ => .cons braced_bang fun _ => (identifier_stopsAt hi).bind
  | unterminated id colon => exact stopsAt_opened_of_braced fun _ => stopsAt_unterminated id colon
  | misplacedToken id hk => exact stopsAt_opened_of_braced fun _ => stopsAt_misplacedToken id hk
  | payload id colon hm _ ih => exact stopsAt_opened_of_braced fun _ => stopsAt_payload id colon hm ih
  | unclosed hd hy hf =>
    exact stopsAt_opened fun _ =>
      stopsAt_unclosed (readsInside hd fun e he => reads_nodeWithin he) hy hf

/-! ## Templates -/

/-- A node is read whether or not its first token has been looked at. -/
theorem node_looking (t : Token) (ts : List Token) (pos : Option Position) :
    node (looking t ts pos 0) = nodeWithin maxNesting (before (t :: ts) pos 0) := rfl

theorem foldr_consNode_ok (ns ms : List Node) (q : Parser (List Token)) :
    ns.foldr consNode (.ok ms q) = .ok (ns ++ ms) q := by
  induction ns with
  | nil => rfl
  | cons n ns ih => rw [List.foldr_cons, ih]; rfl

theorem foldr_consNode_error (ns : List Node) (e : ParseError) (q : Parser (List Token)) :
    ns.foldr consNode (.error e q) = .error e q := by
  induction ns with
  | nil => rfl
  | cons n ns ih => rw [List.foldr_cons, ih]; rfl

/-- The nodes of some derivations are read off their leaves, before all else. -/
theorem nodes_of_derivations {ds : List Derivation} (hd : ∀ d ∈ ds, d.height ≤ maxNesting)
    {us : List Token} (hu : kinds us = yields ds) (rest : List Token) (pos : Option Position) :
    ∃ ns : List Node, nodes (before (us ++ rest) pos 0) =
        ns.foldr consNode (nodes (before rest (behind pos us) 0)) ∧
      ns.map Node.unplaced = ds.map Derivation.node ∧ ns.flatMap Node.positions = dollars us := by
  induction ds generalizing us pos with
  | nil =>
    obtain rfl := eq_nil_of_kinds_eq_nil hu
    exact ⟨[], rfl, rfl, rfl⟩
  | cons d ds ih =>
    obtain ⟨vs, ws, rfl, hv, hw⟩ := exists_of_kinds_eq_append hu
    obtain ⟨n, hn, hs, hp⟩ :=
      reads_nodeWithin (hd d (List.mem_cons_self ..)) vs (ws ++ rest) pos 0 hv
    obtain ⟨ns, hns, hss, hps⟩ :=
      ih (fun e he => hd e (List.mem_cons_of_mem _ he)) hw (behind pos vs)
    refine ⟨n :: ns, ?_, by simp [hs, hss], by simp [hp, hps]⟩
    -- `nodes` looks at the first token of the node before it reads the node.
    obtain ⟨v, vs, rfl⟩ : ∃ v vs', vs = v :: vs' := by
      cases vs with
      | nil => exact absurd hv.symm d.yield_ne_nil
      | cons v vs => exact ⟨v, vs, rfl⟩
    rw [List.cons_append, ← node_looking] at hn
    rw [List.append_assoc, List.cons_append, nodes_of_node peek_before hn, List.foldr_cons,
      behind_append, ← hns]

/-- Behind the nodes of some derivations, the parser stops where the tokens are blocked. -/
theorem nodes_of_blocked {ks : List Kind} {cause : ParseError.Cause} {us rest : List Token}
    (h : Blocked maxNesting ks (rest.head?.map Token.kind) cause) (hu : kinds us = ks)
    (hne : us ++ rest ≠ []) (pos : Option Position) :
    ∃ q, nodes (before (us ++ rest) pos 0) =
      .error ⟨cause, (behind pos (us ++ offending cause rest)).getD .start⟩ q := by
  obtain ⟨q, hq⟩ := nodeWithin_stopsAt h us rest pos 0 hu rfl
  obtain ⟨t, ts, ht⟩ := List.exists_cons_of_ne_nil hne
  rw [ht, ← node_looking] at hq
  rw [ht]
  exact ⟨q, nodes_of_error peek_before hq⟩

end Parser

namespace Template

open ParamExpansion.Derivation Token ParamExpansion.Parser

theorem ofSource_eq_nodes (ts : List Token) :
    ofSource ts = match Parser.nodes (before ts none 0) with
      | .ok ns _ => .ok ⟨ns⟩
      | .error e _ => .error e := by
  have h : Parser.template { source := ts } =
      (Parser.nodes >>= fun ns => pure ⟨ns⟩ : ParserM (List Token) Template) (before ts none 0) := rfl
  rw [ofSource, h]
  cases hn : Parser.nodes (before ts none 0) with
  | ok ns q => rw [bind_ok hn]; rfl
  | error e q => rw [bind_error hn]

/-- Where the tokens are a sentence, the template is the one that its derivations describe. -/
theorem ofSource_of_sentence {ds : List Derivation} (hd : ∀ d ∈ ds, d.height ≤ maxNesting)
    {ts : List Token} (ht : kinds ts = yields ds) :
    ∃ t, ofSource ts = .ok t ∧ t.unplaced = ⟨ds.map Derivation.node⟩ ∧ t.positions = dollars ts := by
  obtain ⟨ns, hn, hs, hp⟩ := nodes_of_derivations hd ht [] none
  have hend : Parser.nodes (before [] (behind none ts) 0) = .ok [] (before [] (behind none ts) 0) :=
    nodes_of_end peek_before_nil
  rw [hend, foldr_consNode_ok, List.append_nil, List.append_nil] at hn
  refine ⟨⟨ns⟩, ?_, congrArg Template.mk hs, hp⟩
  rw [ofSource_eq_nodes, hn]

/-- The template of a sentence is known by its shape and by the positions of its parameters. -/
theorem ofSource_eq_of_sentence (ds : List Derivation) (hd : ∀ d ∈ ds, d.height ≤ maxNesting)
    {ts : List Token} (ht : kinds ts = yields ds) {ns : List Node}
    (hs : ns.map Node.unplaced = ds.map Derivation.node)
    (hp : ns.flatMap Node.positions = dollars ts) : ofSource ts = .ok ⟨ns⟩ := by
  obtain ⟨⟨ms⟩, hms, hshape, hplaces⟩ := ofSource_of_sentence hd ht
  have hnodes : ms.map Node.unplaced = ds.map Derivation.node := congrArg Template.nodes hshape
  rw [hms, Node.list_eq_of_unplaced_of_positions (hnodes.trans hs.symm) (hplaces.trans hp.symm)]

/-- Where the tokens are blocked, there is an error that says so, at the end of the last token that
has been taken. -/
theorem ofSource_of_blocked {ds : List Derivation} (hd : ∀ d ∈ ds, d.height ≤ maxNesting)
    {ts us : List Token} (ht : kinds ts = yields ds) (rest : List Token) {ks : List Kind}
    {cause : ParseError.Cause} (h : Blocked maxNesting ks (rest.head?.map Token.kind) cause)
    (hu : kinds us = ks) (hne : us ++ rest ≠ []) :
    ofSource (ts ++ (us ++ rest)) =
      .error ⟨cause, (behind none (ts ++ us ++ offending cause rest)).getD .start⟩ := by
  obtain ⟨ns, hn, -, -⟩ := nodes_of_derivations hd ht (us ++ rest) none
  obtain ⟨q, hq⟩ := nodes_of_blocked h hu hne (behind none ts)
  rw [hq, foldr_consNode_error] at hn
  rw [ofSource_eq_nodes, hn, List.append_assoc, behind_append _ ts]

/-- The two cases for a list of tokens, with what the parser makes of it. -/
theorem ofSource_cases (ts : List Token) :
    (∃ ds t, kinds ts = yields ds ∧ (∀ d ∈ ds, d.height ≤ maxNesting) ∧ ofSource ts = .ok t ∧
        t.unplaced = ⟨ds.map Derivation.node⟩ ∧ t.positions = dollars ts) ∨
      ∃ ds vs us rest cause, ts = vs ++ (us ++ rest) ∧ kinds vs = yields ds ∧
        (∀ d ∈ ds, d.height ≤ maxNesting) ∧ us ++ rest ≠ [] ∧
        Blocked maxNesting (kinds us) (rest.head?.map Token.kind) cause ∧
        ofSource ts = .error ⟨cause, (behind none (vs ++ us ++ offending cause rest)).getD .start⟩ := by
  -- The alternative of the grammar about kinds is that about tokens, cut at the same places.
  rcases sentence_or_blocked maxNesting (kinds ts) with ⟨ds, hy, hd⟩ | ⟨ds, us, rest, cause, hd, h, hne, hk⟩
  · obtain ⟨t, ht, hs, hp⟩ := ofSource_of_sentence hd hy.symm
    exact .inl ⟨ds, t, hy.symm, hd, ht, hs, hp⟩
  · obtain ⟨vs, ws, rfl, hv, hw⟩ := exists_of_kinds_eq_append hk
    obtain ⟨us, rest, rfl, rfl, rfl⟩ := exists_of_kinds_eq_append hw
    have hne' : us ++ rest ≠ [] := by
      rintro h0
      rw [← kinds_append, h0] at hne
      exact hne rfl
    rw [head?_kinds] at h
    exact .inr ⟨ds, vs, us, rest, cause, rfl, hv, hd, hne', h, ofSource_of_blocked hd hv rest h rfl hne'⟩

/-- The tokens of a text that forms a template are the leaves of its derivations. -/
theorem exists_derivations_of_ok {text : String} {t : Template} (h : ofString text = .ok t) :
    ∃ ds, kinds (tokenize text) = yields ds ∧ (∀ d ∈ ds, d.height ≤ maxNesting) ∧
      t.unplaced = ⟨ds.map Derivation.node⟩ := by
  rw [ofString_eq_ofSource_tokenize] at h
  rcases ofSource_cases (tokenize text) with
    ⟨ds, u, hk, hd, hu, hs, -⟩ | ⟨_, _, _, _, _, _, _, _, _, _, he⟩
  · obtain rfl : u = t := by simpa using hu.symm.trans h
    exact ⟨ds, hk, hd, hs⟩
  · cases he.symm.trans h

/-- The parser accepts exactly the sentences of the grammar with at most `maxNesting` braces open at
the same time. The template it returns is the one that the only derivation of the tokens describes,
and where there is no derivation it returns an error. -/
theorem ofString_eq_ok_iff_sentence (text : String) :
    ((∃ t, ofString text = .ok t) ↔ Sentence maxNesting (kinds (tokenize text))) ∧
      (∀ t, ofString text = .ok t →
        ∃ ds, yields ds = kinds (tokenize text) ∧ (∀ d ∈ ds, d.height ≤ maxNesting) ∧
          (∀ es, yields es = kinds (tokenize text) → es = ds) ∧
          t.unplaced = ⟨ds.map Derivation.node⟩) ∧
      (¬ Sentence maxNesting (kinds (tokenize text)) → ∃ e, ofString text = .error e) := by
  rw [ofString_eq_ofSource_tokenize]
  rcases ofSource_cases (tokenize text) with
    ⟨ds, t, hk, hd, ht, hs, -⟩ | ⟨ds, vs, us, rest, cause, hts, hv, hd, hne, hb, he⟩
  · have hsentence : Sentence maxNesting (kinds (tokenize text)) := ⟨ds, hk.symm, hd⟩
    refine ⟨⟨fun _ => hsentence, fun _ => ⟨t, ht⟩⟩, ?_, fun h => absurd hsentence h⟩
    intro t' ht'
    obtain rfl : t = t' := by simpa using ht.symm.trans ht'
    exact ⟨ds, hk.symm, hd, fun es hes => yields_injective (hes.trans hk), hs⟩
  · have hnone : ¬ ∃ t, ofSource (tokenize text) = .ok t := by
      rintro ⟨t, ht⟩
      cases he.symm.trans ht
    refine ⟨⟨fun h => absurd h hnone, ?_⟩, fun t ht => absurd ⟨t, ht⟩ hnone, fun _ => ⟨_, he⟩⟩
    -- The parser succeeds on every sentence, so none can be blocked.
    rintro ⟨es, hes, hh⟩
    obtain ⟨t, ht, -⟩ := ofSource_of_sentence hh hes.symm
    exact ⟨t, ht⟩

end Template

end ParamExpansion
