import ParamExpansion.Template.Parser

/-!
# The grammar of templates

A derivation is a tree whose leaves, from left to right, are the tokens of a node. The grammar is
unambiguous: a list of tokens is the yield of at most one list of derivations.

What keeps a list of tokens from starting with a node is described by `Blocked`: the tokens up to
the point where no rule of the grammar goes on, and what is found there. Every list of tokens either
starts with a node or is blocked.
-/

namespace ParamExpansion

open Token (Kind)

/-! ## Derivations -/

/-- The token of an identifier. -/
def Identifier.token : Identifier → Kind
  | .named x => .name x
  | .index n => .index n

/-- A derivation of a node, with one constructor for each form of a node. -/
inductive Derivation where
  /-- `TEXT` -/
  | text (value : String)
  /-- `'$' identifier` -/
  | plain (id : Identifier)
  /-- `'$' '{' identifier '}'` -/
  | braced (id : Identifier)
  /-- `'$' '{' identifier case-mark '}'`, or the same mark twice -/
  | cased (id : Identifier) (change : CaseChange) (all : Bool)
  /-- `'$' '{' '#' identifier '}'` -/
  | length (id : Identifier)
  /-- `'$' '{' '#' '}'` -/
  | arity
  /-- `'$' '{' '!' identifier '}'` -/
  | indirect (id : Identifier)
  /-- `'$' '{' identifier ':'? '-' node '}'` -/
  | withDefault (id : Identifier) (colon : Bool) (payload : Derivation)
  /-- `'$' '{' identifier ':'? '+' node '}'` -/
  | withAlternative (id : Identifier) (colon : Bool) (payload : Derivation)
  /-- `'$' '{' identifier ':'? '?' TEXT? '}'` -/
  | withError (id : Identifier) (colon : Bool) (message : Option String)
deriving DecidableEq, Repr

namespace Derivation

/-- The optional colon of a conditional form. -/
def colonTokens (colon : Bool) : List Kind := if colon then [.mark .colon] else []

/-- The tokens of a parameter up to the end of what stands between its braces. -/
def opened (inside : List Kind) : List Kind := .mark .dollar :: .mark .openBrace :: inside

/-- The tokens of a braced parameter. -/
def enclosed (inside : List Kind) : List Kind := opened (inside ++ [.mark .closeBrace])

/-- The tokens of a conditional form up to its operator. -/
def guarded (id : Identifier) (colon : Bool) (operator : Mark) (more : List Kind) : List Kind :=
  id.token :: (colonTokens colon ++ .mark operator :: more)

/-- The leaves of a derivation, from left to right. -/
def yield : Derivation → List Kind
  | text value => [.text value]
  | plain id => [.mark .dollar, id.token]
  | braced id => enclosed [id.token]
  | cased id k all => enclosed (id.token :: .caseMark k :: if all then [.caseMark k] else [])
  | length id => enclosed [.mark .pound, id.token]
  | arity => enclosed [.mark .pound]
  | indirect id => enclosed [.mark .bang, id.token]
  | withDefault id colon payload => enclosed (guarded id colon .dash payload.yield)
  | withAlternative id colon payload => enclosed (guarded id colon .plus payload.yield)
  | withError id colon message =>
    enclosed (guarded id colon .question (message.toList.map .text))

/-- The largest number of braced parameters open at the same time. -/
def height : Derivation → Nat
  | text _ | plain _ => 0
  | withDefault _ _ payload | withAlternative _ _ payload => payload.height + 1
  | _ => 1

/-- The node that a derivation describes, its parameters placed at the start of the text. -/
def node : Derivation → Node
  | text value => .text value
  | plain id | braced id => .simple id none .start
  | cased id change all => .simple id (some { change, all }) .start
  | length id => .length id .start
  | arity => .arity .start
  | indirect id => .indirect id .start
  | withDefault id colon payload => .withDefault id payload.node colon .start
  | withAlternative id colon payload => .withAlternative id payload.node colon .start
  | withError id colon message => .withError id message colon .start

/-- The leaves of several derivations. -/
def yields (ds : List Derivation) : List Kind := ds.flatMap yield

/-- A list of tokens is a sentence when it is the yield of a list of nodes, each of which opens at
most `room` braced parameters at the same time. -/
def Sentence (room : Nat) (ks : List Kind) : Prop :=
  ∃ ds : List Derivation, yields ds = ks ∧ ∀ d ∈ ds, d.height ≤ room

end Derivation

/-! ## Unambiguity -/

namespace Identifier

theorem token_injective {x y : Identifier} (h : x.token = y.token) : x = y := by
  cases x <;> cases y <;> simp_all [token]

@[simp] theorem token_inj {x y : Identifier} : x.token = y.token ↔ x = y :=
  ⟨token_injective, congrArg token⟩

@[simp] theorem token_ne_mark (id : Identifier) (m : Mark) : id.token ≠ .mark m := by
  cases id <;> simp [token]

@[simp] theorem mark_ne_token (id : Identifier) (m : Mark) : Kind.mark m ≠ id.token :=
  (id.token_ne_mark m).symm

@[simp] theorem token_ne_caseMark (id : Identifier) (k : CaseChange) : id.token ≠ .caseMark k := by
  cases id <;> simp [token]

@[simp] theorem token_ne_text (id : Identifier) (value : String) : id.token ≠ .text value := by
  cases id <;> simp [token]

end Identifier

namespace Derivation

@[simp] theorem yields_nil : yields [] = [] := rfl

@[simp] theorem yields_cons (d : Derivation) (ds : List Derivation) :
    yields (d :: ds) = d.yield ++ yields ds := rfl

@[simp] theorem yields_append (ds es : List Derivation) :
    yields (ds ++ es) = yields ds ++ yields es := List.flatMap_append

theorem yield_ne_nil (d : Derivation) : d.yield ≠ [] := by
  cases d <;> simp [yield, enclosed, opened]

@[simp] theorem enclosed_append (inside r : List Kind) :
    enclosed inside ++ r = .mark .dollar :: .mark .openBrace :: (inside ++ .mark .closeBrace :: r) := by
  simp [enclosed, opened]

@[simp] theorem guarded_append (id : Identifier) (colon : Bool) (m : Mark) (more r : List Kind) :
    guarded id colon m more ++ r = guarded id colon m (more ++ r) := by
  simp [guarded]

/-- A conditional form shows its identifier, its colon and its operator. -/
@[simp] theorem guarded_inj {x y : Identifier} {b c : Bool} {m n : Mark} {r s : List Kind}
    (hm : m ≠ .colon) (hn : n ≠ .colon) :
    guarded x b m r = guarded y c n s ↔ x = y ∧ b = c ∧ m = n ∧ r = s := by
  cases b <;> cases c <;> simp [guarded, colonTokens, hm, hn.symm]

@[simp] theorem guarded_ne_mark (id : Identifier) (c : Bool) (m n : Mark) (r ks : List Kind) :
    guarded id c m r ≠ .mark n :: ks := by
  simp [guarded]

@[simp] theorem mark_ne_guarded (id : Identifier) (c : Bool) (m n : Mark) (r ks : List Kind) :
    .mark n :: ks ≠ guarded id c m r := (guarded_ne_mark id c m n r ks).symm

/-- Behind the identifier of a conditional form stands its colon or its operator. -/
theorem guarded_ne_cons {x y : Identifier} {c : Bool} {m : Mark} {k : Kind} (r ks : List Kind)
    (hc : k ≠ .mark .colon) (hm : k ≠ .mark m) : guarded x c m r ≠ y.token :: k :: ks := by
  cases c <;> simp [guarded, colonTokens, hc.symm, hm.symm]

theorem enclosed_injective {a b : List Kind} (h : enclosed a = enclosed b) : a = b := by
  simpa [enclosed, opened] using h

/-- A derivation that is neither a text nor a plain parameter stands in braces. -/
theorem exists_inside (d : Derivation) :
    (∃ value, d = .text value) ∨ (∃ id, d = .plain id) ∨
      ∃ inside, d.yield = enclosed inside ∧ 0 < d.height := by
  cases d with
  | text value => exact .inl ⟨value, rfl⟩
  | plain id => exact .inr (.inl ⟨id, rfl⟩)
  | _ => exact .inr (.inr ⟨_, rfl, Nat.succ_pos _⟩)

theorem eq_text_of_node {d : Derivation} {value : String} (h : d.node = .text value) :
    d = .text value := by
  cases d <;> simp_all [node]

/-- A node that is not a text starts with a dollar sign. -/
theorem head?_yield (d : Derivation) :
    (∃ value, d = .text value) ∨ d.yield.head? = some (.mark .dollar) := by
  rcases d.exists_inside with h | ⟨id, rfl⟩ | ⟨inside, hy, -⟩
  · exact .inl h
  · exact .inr rfl
  · exact .inr (by rw [hy]; rfl)

/-- A node that is not a text ends with an identifier or with a closing brace. -/
theorem getLast?_yield (d : Derivation) :
    (∃ value, d = .text value) ∨ (∃ id : Identifier, d.yield.getLast? = some id.token) ∨
      d.yield.getLast? = some (.mark .closeBrace) := by
  rcases d.exists_inside with h | ⟨id, rfl⟩ | ⟨inside, hy, -⟩
  · exact .inl h
  · exact .inr (.inl ⟨id, rfl⟩)
  · refine .inr (.inr ?_)
    rw [hy, enclosed, opened, ← List.cons_append, ← List.cons_append, List.getLast?_concat]

/-- Where the yields of two derivations start the same list, the derivations are the same. -/
theorem yield_append_injective {d e : Derivation} {r s : List Kind}
    (h : d.yield ++ r = e.yield ++ s) : d = e ∧ r = s := by
  have hne {x y : Identifier} {c : Bool} {m : Mark} {k : Kind} (r ks : List Kind)
      (hc : k ≠ .mark .colon) (hm : k ≠ .mark m) : y.token :: k :: ks ≠ guarded x c m r :=
    (guarded_ne_cons r ks hc hm).symm
  -- The induction is on `d`. Its first tokens leave only the same form for `e`, and a payload is
  -- cut off by the induction hypothesis.
  induction d generalizing e r s with
  | withDefault id colon payload ih | withAlternative id colon payload ih =>
    cases e <;> simp [yield, guarded_ne_cons] at h
    obtain ⟨rfl, rfl, h⟩ := h
    obtain ⟨rfl, h⟩ := ih h
    simpa using h
  | withError id colon message =>
    cases e <;> simp [yield, guarded_ne_cons] at h
    obtain ⟨rfl, rfl, h⟩ := h
    rename_i other
    cases message <;> cases other <;> simp_all
  | cased id k all =>
    cases e <;> simp [yield, hne] at h
    obtain ⟨rfl, rfl, h⟩ := h
    rename_i other
    cases all <;> cases other <;> simp_all
  | _ =>
    cases e <;> simp [yield, hne] at h ⊢
    exact h

/-- The grammar is unambiguous. -/
theorem yields_injective {ds es : List Derivation} (h : yields ds = yields es) : ds = es := by
  induction ds generalizing es with
  | nil =>
    cases es with
    | nil => rfl
    | cons e es => simp [yield_ne_nil] at h
  | cons d ds ih =>
    cases es with
    | nil => simp [yield_ne_nil] at h
    | cons e es =>
      -- The first derivations are the same, and so is what remains.
      obtain ⟨rfl, hs⟩ := yield_append_injective h
      rw [ih hs]

end Derivation

/-! ## Where no node goes on -/

namespace Derivation

/-- Whether the parameter is complete but for its closing brace, which is not found. -/
def Unclosed (found : Option Kind) : Derivation → Prop
  | cased _ k false => found ≠ some (.mark .closeBrace) ∧ found ≠ some (.caseMark k)
  | withError _ _ none => found ≠ some (.mark .closeBrace) ∧ ∀ value, found ≠ some (.text value)
  | cased .. | length _ | indirect _ | withDefault .. | withAlternative .. | withError .. =>
    found ≠ some (.mark .closeBrace)
  | text _ | plain _ | braced _ | arity => False

/-- Whether the token is the operator of a conditional form. -/
def Operates (k : Kind) : Prop := k = .mark .dash ∨ k = .mark .plus ∨ k = .mark .question

/-- Whether the token may follow the identifier of a braced parameter, or its colon. -/
def Follows (colon : Bool) (k : Kind) : Prop :=
  Operates k ∨ colon = false ∧ (k = .mark .colon ∨ k = .mark .closeBrace ∨ ∃ c, k = .caseMark c)

end Derivation

open ParamExpansion.Derivation in
/-- `Blocked room us found cause`: a node that opens at most `room` braces can start with `us`, and
cannot go on with `found`, because of `cause`. -/
inductive Blocked : Nat → List Kind → Option Kind → ParseError.Cause → Prop where
  /-- There is no token. -/
  | missingNode {room : Nat} : Blocked room [] none .missingNode
  /-- The first token is neither a text nor a dollar sign. -/
  | unexpectedToken {room : Nat} {k : Kind} (hd : k ≠ .mark .dollar)
      (ht : ∀ value, k ≠ .text value) : Blocked room [] (some k) (.unexpectedToken k)
  /-- Behind the dollar sign stands neither a brace nor an identifier. -/
  | missingParam {room : Nat} {found : Option Kind} (hb : found ≠ some (.mark .openBrace))
      (hi : ∀ id : Identifier, found ≠ some id.token) :
      Blocked room [.mark .dollar] found (.expectedIdentifier found)
  /-- There is a brace too many. -/
  | nestingTooDeep : Blocked 0 [.mark .dollar] (some (.mark .openBrace)) .nestingTooDeep
  /-- The text ends behind the brace. -/
  | missingContent {room : Nat} : Blocked (room + 1) (opened []) none .missingParam
  /-- Behind the brace stands no identifier, nor another beginning of a parameter. -/
  | missingIdentifier {room : Nat} {k : Kind} (hp : k ≠ .mark .pound) (hb : k ≠ .mark .bang)
      (hi : ∀ id : Identifier, k ≠ id.token) :
      Blocked (room + 1) (opened []) (some k) (.expectedIdentifier (some k))
  /-- The text ends behind the sign for lengths. -/
  | missingLengthOperand {room : Nat} :
      Blocked (room + 1) (opened [.mark .pound]) none .missingLengthOperand
  /-- Behind the sign for lengths stands neither an identifier nor the closing brace. -/
  | lengthOperand {room : Nat} {k : Kind} (hc : k ≠ .mark .closeBrace)
      (hi : ∀ id : Identifier, k ≠ id.token) :
      Blocked (room + 1) (opened [.mark .pound]) (some k) (.expectedIdentifier (some k))
  /-- Behind the sign for indirection stands no identifier. -/
  | indirectOperand {room : Nat} {found : Option Kind}
      (hi : ∀ id : Identifier, found ≠ some id.token) :
      Blocked (room + 1) (opened [.mark .bang]) found (.expectedIdentifier found)
  /-- The text ends behind the identifier or the colon. -/
  | unterminated {room : Nat} (id : Identifier) (colon : Bool) :
      Blocked (room + 1) (opened (id.token :: colonTokens colon)) none .unterminatedParam
  /-- The token cannot follow the identifier or the colon. -/
  | misplacedToken {room : Nat} (id : Identifier) {colon : Bool} {k : Kind}
      (hk : ¬ Follows colon k) :
      Blocked (room + 1) (opened (id.token :: colonTokens colon)) (some k) (.misplacedToken k)
  /-- The default or the alternative is blocked. -/
  | payload {room : Nat} (id : Identifier) (colon : Bool) {m : Mark} (hm : m = .dash ∨ m = .plus)
      {us : List Kind} {found : Option Kind} {cause : ParseError.Cause}
      (h : Blocked room us found cause) :
      Blocked (room + 1) (opened (guarded id colon m us)) found cause
  /-- The closing brace is missing. -/
  | unclosed {room : Nat} {d : Derivation} {inside : List Kind} {found : Option Kind}
      (hd : d.height ≤ room + 1) (hy : d.yield = enclosed inside) (hf : d.Unclosed found) :
      Blocked (room + 1) (opened inside) found (.expected (.mark .closeBrace) found)

/-! ## Every list of tokens starts with a node or is blocked -/

namespace Derivation

/-- A list that starts with a node, or is blocked before the end of its first one. -/
inductive Decided (room : Nat) : List Kind → Prop where
  | derived (d : Derivation) (rest : List Kind) (hd : d.height ≤ room) :
      Decided room (d.yield ++ rest)
  | blocked {us : List Kind} {cause : ParseError.Cause} (rest : List Kind)
      (h : Blocked room us rest.head? cause) : Decided room (us ++ rest)

/-- A token belongs to an identifier or to none. -/
theorem token_or_not (k : Kind) :
    (∃ id : Identifier, k = id.token) ∨ ∀ id : Identifier, k ≠ id.token := by
  cases k with
  | name x => exact .inl ⟨.named x, rfl⟩
  | index n => exact .inl ⟨.index n, rfl⟩
  | _ => exact .inr fun id h => by cases id <;> cases h

section Inside

variable {room : Nat}

/-- A parameter that is complete but for its closing brace is closed or blocked. -/
theorem decided_of_inside {d : Derivation} {inside : List Kind} (rest : List Kind)
    (hd : d.height ≤ room + 1) (hy : d.yield = enclosed inside)
    (hr : rest.head? ≠ some (.mark .closeBrace) → d.Unclosed rest.head?) :
    Decided (room + 1) (opened inside ++ rest) := by
  by_cases hc : rest.head? = some (.mark .closeBrace)
  · obtain ⟨more, rfl⟩ := List.head?_eq_some_iff.1 hc
    have hk : opened inside ++ .mark .closeBrace :: more = d.yield ++ more := by simp [hy, opened]
    exact hk ▸ .derived d more hd
  · exact .blocked rest (.unclosed hd hy (hr hc))

theorem decided_of_payload (ih : ∀ ks, Decided room ks) (id : Identifier) (colon : Bool) {m : Mark}
    (hm : m = .dash ∨ m = .plus) (ks : List Kind) :
    Decided (room + 1) (opened (guarded id colon m ks)) := by
  rcases ih ks with ⟨d, rest, hd⟩ | ⟨rest, h⟩
  · rw [← guarded_append]
    rcases hm with rfl | rfl
    · exact decided_of_inside (d := .withDefault id colon d) rest (Nat.succ_le_succ hd) rfl fun h => h
    · exact decided_of_inside (d := .withAlternative id colon d) rest (Nat.succ_le_succ hd) rfl fun h => h
  · rw [← guarded_append]
    exact .blocked rest (.payload id colon hm h)

theorem decided_of_message (id : Identifier) (colon : Bool) (ks : List Kind) :
    Decided (room + 1) (opened (guarded id colon .question ks)) := by
  have hd (message : Option String) : (withError id colon message).height ≤ room + 1 := by
    simp [height]
  -- The message is there if a text follows, and left out otherwise.
  by_cases ht : ∃ value, ks.head? = some (.text value)
  · obtain ⟨value, ht⟩ := ht
    obtain ⟨rest, rfl⟩ := List.head?_eq_some_iff.1 ht
    have := decided_of_inside (d := .withError id colon (some value)) rest (hd _) rfl fun h => h
    simpa [opened] using this
  · have := decided_of_inside (d := .withError id colon none) ks (hd _) rfl
      fun h => ⟨h, fun value hv => ht ⟨value, hv⟩⟩
    simpa [opened] using this

/-- Behind an identifier, and a colon if there is one, stands an operator or nothing of use. -/
theorem decided_of_operator (ih : ∀ ks, Decided room ks) (id : Identifier) (colon : Bool)
    (ks : List Kind) (hk : ∀ k ∈ ks.head?, Follows colon k → Operates k) :
    Decided (room + 1) (opened (id.token :: (colonTokens colon ++ ks))) := by
  cases ks with
  | nil =>
    have h : Blocked (room + 1) (opened (id.token :: colonTokens colon)) none .unterminatedParam :=
      .unterminated id colon
    simpa using Decided.blocked [] h
  | cons k ks =>
    -- A token that may follow is one of the three operators here.
    by_cases hf : Follows colon k
    · rcases hk k rfl hf with rfl | rfl | rfl
      · exact decided_of_payload ih id colon (.inl rfl) ks
      · exact decided_of_payload ih id colon (.inr rfl) ks
      · exact decided_of_message id colon ks
    · have h : Blocked (room + 1) (opened (id.token :: colonTokens colon)) (some k)
          (.misplacedToken k) := .misplacedToken id hf
      simpa [opened] using Decided.blocked (k :: ks) h

theorem decided_of_caseMark (id : Identifier) (c : CaseChange) (ks : List Kind) :
    Decided (room + 1) (opened (id.token :: .caseMark c :: ks)) := by
  have hd (all : Bool) : (cased id c all).height ≤ room + 1 := by simp [height]
  by_cases hc : ks.head? = some (.caseMark c)
  · obtain ⟨rest, rfl⟩ := List.head?_eq_some_iff.1 hc
    have := decided_of_inside (d := .cased id c true) rest (hd _) rfl fun h => h
    simpa [opened] using this
  · have := decided_of_inside (d := .cased id c false) ks (hd _) rfl fun h => ⟨h, hc⟩
    simpa [opened] using this

theorem decided_of_identifier (ih : ∀ ks, Decided room ks) (id : Identifier) (ks : List Kind) :
    Decided (room + 1) (opened (id.token :: ks)) := by
  -- The token behind the identifier tells which parameters are possible.
  rcases ks with _ | ⟨k, ks⟩
  · exact decided_of_operator ih id false [] (by simp)
  · by_cases hc : k = .mark .colon
    · subst hc
      apply decided_of_operator ih id true ks
      intro k _ hf
      simpa [Follows] using hf
    · by_cases hb : k = .mark .closeBrace
      · subst hb
        have := Decided.derived (.braced id) ks (Nat.le_add_left 1 room)
        simpa [yield, opened] using this
      · by_cases hm : ∃ c, k = .caseMark c
        · obtain ⟨c, rfl⟩ := hm
          exact decided_of_caseMark id c ks
        · refine decided_of_operator ih id false (k :: ks) fun k' hk' hf => ?_
          obtain rfl : k = k' := by simpa using hk'
          simpa [Follows, hc, hb, hm] using hf

theorem decided_of_pound (ks : List Kind) : Decided (room + 1) (opened (.mark .pound :: ks)) := by
  rcases ks with _ | ⟨k, ks⟩
  · show Decided (room + 1) (opened [.mark .pound] ++ [])
    exact .blocked [] .missingLengthOperand
  · by_cases hc : k = .mark .closeBrace
    · subst hc
      exact .derived .arity ks (Nat.le_add_left 1 room)
    · rcases token_or_not k with ⟨id, rfl⟩ | hi
      · exact decided_of_inside (d := .length id) ks (Nat.le_add_left 1 room) rfl fun h => h
      · show Decided (room + 1) (opened [.mark .pound] ++ k :: ks)
        exact .blocked (k :: ks) (.lengthOperand hc hi)

theorem decided_of_bang (ks : List Kind) : Decided (room + 1) (opened (.mark .bang :: ks)) := by
  by_cases hi : ∃ id : Identifier, ks.head? = some id.token
  · obtain ⟨id, hi⟩ := hi
    obtain ⟨rest, rfl⟩ := List.head?_eq_some_iff.1 hi
    exact decided_of_inside (d := .indirect id) rest (Nat.le_add_left 1 room) rfl fun h => h
  · show Decided (room + 1) (opened [.mark .bang] ++ ks)
    exact .blocked ks (.indirectOperand fun id h => hi ⟨id, h⟩)

theorem decided_of_openBrace (ih : ∀ ks, Decided room ks) (ks : List Kind) :
    Decided (room + 1) (opened ks) := by
  -- Two marks have forms of their own, and every other form starts with an identifier.
  rcases ks with _ | ⟨k, ks⟩
  · show Decided (room + 1) (opened [] ++ [])
    exact .blocked [] .missingContent
  · by_cases hp : k = .mark .pound
    · exact hp ▸ decided_of_pound ks
    · by_cases hb : k = .mark .bang
      · exact hb ▸ decided_of_bang ks
      · rcases token_or_not k with ⟨id, rfl⟩ | hi
        · exact decided_of_identifier ih id ks
        · show Decided (room + 1) (opened [] ++ k :: ks)
          exact .blocked (k :: ks) (.missingIdentifier hp hb hi)

end Inside

theorem decided_of_dollar {room : Nat} (ks : List Kind)
    (hb : ks.head? = some (.mark .openBrace) → Decided room (.mark .dollar :: ks)) :
    Decided room (.mark .dollar :: ks) := by
  by_cases hk : ks.head? = some (.mark .openBrace)
  · exact hb hk
  · by_cases hi : ∃ id : Identifier, ks.head? = some id.token
    · obtain ⟨id, hi⟩ := hi
      obtain ⟨rest, rfl⟩ := List.head?_eq_some_iff.1 hi
      exact .derived (.plain id) rest (Nat.zero_le room)
    · show Decided room ([.mark .dollar] ++ ks)
      exact .blocked ks (.missingParam hk fun id h => hi ⟨id, h⟩)

theorem decided_of_opened {room : Nat} (hb : ∀ ks, Decided room (opened ks)) (ks : List Kind) :
    Decided room ks := by
  -- A node starts with a dollar sign or is a text.
  rcases ks with _ | ⟨k, ks⟩
  · show Decided room ([] ++ [])
    exact .blocked [] .missingNode
  · by_cases hd : k = .mark .dollar
    · subst hd
      apply decided_of_dollar ks
      intro hk
      obtain ⟨rest, rfl⟩ := List.head?_eq_some_iff.1 hk
      exact hb rest
    · by_cases ht : ∃ value, k = .text value
      · obtain ⟨value, rfl⟩ := ht
        exact .derived (.text value) ks (Nat.zero_le room)
      · show Decided room ([] ++ k :: ks)
        exact .blocked (k :: ks) (.unexpectedToken hd fun value h => ht ⟨value, h⟩)

/-- Every list of tokens starts with a node or is blocked. -/
theorem decided (room : Nat) (ks : List Kind) : Decided room ks := by
  induction room generalizing ks with
  | zero =>
    -- No brace may be open, so the brace behind the dollar sign is one too many.
    refine decided_of_opened (fun ks => ?_) ks
    show Decided 0 ([.mark .dollar] ++ .mark .openBrace :: ks)
    exact .blocked (.mark .openBrace :: ks) .nestingTooDeep
  -- A payload opens one brace less, so it is decided by the induction hypothesis.
  | succ room ih => exact decided_of_opened (decided_of_openBrace ih) ks

/-- A list of tokens is a sentence, or it is blocked behind some nodes and before its end, or for
want of what comes behind its end. -/
theorem sentence_or_blocked (room : Nat) (ks : List Kind) :
    Sentence room ks ∨ ∃ ds us rest cause, (∀ d ∈ ds, d.height ≤ room) ∧
      Blocked room us rest.head? cause ∧ us ++ rest ≠ [] ∧ ks = yields ds ++ (us ++ rest) := by
  induction hn : ks.length using Nat.strongRecOn generalizing ks with
  | ind n ih =>
    subst hn
    by_cases hk : ks = []
    · exact .inl ⟨[], hk.symm, by simp⟩
    -- A first node is not empty, so what follows it is shorter.
    · rcases decided room ks with ⟨d, rest, hd⟩ | ⟨rest, h⟩
      · have hlt : rest.length < (d.yield ++ rest).length := by
          simpa using List.length_pos_iff.2 d.yield_ne_nil
        rcases ih rest.length hlt rest rfl with ⟨ds, rfl, hds⟩ | ⟨ds, us, more, cause, hds, h, hne, rfl⟩
        · exact .inl ⟨d :: ds, rfl, by simpa using ⟨hd, hds⟩⟩
        · refine .inr ⟨d :: ds, us, more, cause, by simpa using ⟨hd, hds⟩, h, hne, ?_⟩
          simp
      · exact .inr ⟨[], _, rest, _, by simp, h, hk, rfl⟩

end Derivation

end ParamExpansion
