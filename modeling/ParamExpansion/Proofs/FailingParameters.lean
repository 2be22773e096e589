import ParamExpansion.Proofs.Strictness
import ParamExpansion.Proofs.Tiling

/-!
# The parameter that fails

The parameters of a text are told apart by where they lie: each one lies at a dollar sign of its own,
and from one to the next, those in payloads included, the positions go forward in the text. So the
position of an error names one parameter. It is the first one, in the order of the evaluation, whose
own lookup fails.
-/

namespace ParamExpansion

/-! ## Parameters in their order -/

namespace Node

/-- Where a parameter lies. -/
def position? : Node → Option Position
  | text _ => none
  | simple _ _ p | length _ p | arity p | indirect _ p | withDefault _ _ _ p | withAlternative _ _ _ p
  | withError _ _ _ p => some p

/-- The parameters of a node, each one before those in its payload. -/
def parameters : Node → List Node
  | text _ => []
  | withDefault id payload emptyIsUnset p => withDefault id payload emptyIsUnset p :: payload.parameters
  | withAlternative id payload emptyIsUnset p =>
    withAlternative id payload emptyIsUnset p :: payload.parameters
  | n => [n]

theorem map_position?_parameters (n : Node) :
    n.parameters.map position? = n.positions.map some := by
  induction n with
  | withDefault id payload emptyIsUnset p ih | withAlternative id payload emptyIsUnset p ih =>
    rw [parameters, positions, List.map_cons, List.map_cons, ih, position?]
  | _ => rfl

end Node

namespace Template

/-- The parameters of a template, each one before those in its payload. -/
def parameters (t : Template) : List Node := t.nodes.flatMap Node.parameters

theorem map_position?_parameters (t : Template) :
    t.parameters.map Node.position? = t.positions.map some := by
  rw [parameters, positions, List.map_flatMap, List.map_flatMap]
  simp only [Node.map_position?_parameters]

theorem filterMap_position?_parameters (t : Template) :
    t.parameters.filterMap Node.position? = t.positions := by
  have h := congrArg (List.filterMap id) t.map_position?_parameters
  rwa [List.filterMap_map, List.filterMap_map, Function.id_comp, Function.id_comp,
    List.filterMap_some] at h

end Template

/-! ## Positions in their order -/

namespace Token

/-- Tokens that lie side by side from a position on do not start before it. -/
theorem Tile.le_start {p q : Position} {ts : List Token} (h : Tile p ts q) :
    ∀ t ∈ ts, p.index ≤ t.start.index := by
  induction ts generalizing p with
  | nil => simp
  | cons t ts ih =>
    obtain ⟨rfl, hlt, hts⟩ := h
    refine List.forall_mem_cons.2 ⟨Nat.le_refl _, fun u hu => ?_⟩
    exact Nat.le_trans (Nat.le_of_lt hlt) (ih hts u hu)

/-- Each token starts behind the one before it. -/
theorem Tile.pairwise_start {p q : Position} {ts : List Token} (h : Tile p ts q) :
    ts.Pairwise fun t u => t.start.index < u.start.index := by
  induction ts generalizing p with
  | nil => exact .nil
  | cons t ts ih =>
    obtain ⟨-, hlt, hts⟩ := h
    exact .cons (fun u hu => Nat.lt_of_lt_of_le hlt (hts.le_start u hu)) (ih hts)

end Token

namespace Template

variable {text : String} {t : Template}

theorem pairwise_positions (h : ofString text = .ok t) :
    t.positions.Pairwise fun p q => p.index < q.index := by
  have htile : Token.Tile .start (tokenize text) _ := (Lexer.runs_exhausted (.ofString text)).1.tile
  rw [positions_of_ok h, Token.dollars, List.pairwise_map]
  exact htile.pairwise_start.filter _

/-- There are as many parameters as dollar signs. -/
theorem length_parameters (h : ofString text = .ok t) :
    t.parameters.length = (tokenize text).countP (·.kind = .mark .dollar) := by
  have hlength := congrArg List.length t.map_position?_parameters
  rw [List.length_map, List.length_map, positions_of_ok h, Token.dollars, List.length_map] at hlength
  rw [hlength, List.countP_eq_length_filter]

/-- A parameter is the only one at its position. -/
theorem filter_parameters (h : ofString text = .ok t) {n : Node} (hn : n ∈ t.parameters) :
    t.parameters.filter (·.position? = n.position?) = [n] := by
  have hpairwise : t.parameters.Pairwise fun m n => m.position? ≠ n.position? := by
    rw [← List.pairwise_map (f := Node.position?) (R := (· ≠ ·)), map_position?_parameters,
      List.pairwise_map]
    refine (pairwise_positions h).imp ?_
    rintro p q hlt heq
    exact Nat.ne_of_lt hlt (congrArg Position.index (Option.some.inj heq))
  obtain ⟨before, after, heq⟩ := List.append_of_mem hn
  rw [heq] at hpairwise ⊢
  obtain ⟨-, hafter, hbefore⟩ := List.pairwise_append.1 hpairwise
  -- None of the others has this position.
  have hfront : before.filter (·.position? = n.position?) = [] := by
    simpa using fun m hm => hbefore m hm n (List.mem_cons_self ..)
  have hback : after.filter (·.position? = n.position?) = [] := by
    simpa using fun m hm => Ne.symm ((List.pairwise_cons.1 hafter).1 m hm)
  rw [List.filter_append, List.filter_cons_of_pos (by simp), hfront, hback, List.nil_append]

/-- The template of a default that holds a parameter. -/
theorem ofString_default : ofString "$\x7ba-$b\x7d" = .ok
    ⟨[.withDefault (.named "a") (.simple (.named "b") none ⟨4, 1, 5⟩) false .start]⟩ := by
  have htokens : tokenize "$\x7ba-$b\x7d" =
      [⟨.mark .dollar, .start, ⟨1, 1, 2⟩⟩, ⟨.mark .openBrace, ⟨1, 1, 2⟩, ⟨2, 1, 3⟩⟩,
       ⟨.name "a", ⟨2, 1, 3⟩, ⟨3, 1, 4⟩⟩, ⟨.mark .dash, ⟨3, 1, 4⟩, ⟨4, 1, 5⟩⟩,
       ⟨.mark .dollar, ⟨4, 1, 5⟩, ⟨5, 1, 6⟩⟩, ⟨.name "b", ⟨5, 1, 6⟩, ⟨6, 1, 7⟩⟩,
       ⟨.mark .closeBrace, ⟨6, 1, 7⟩, ⟨7, 1, 8⟩⟩] := by
    -- The tokens of the payload are found apart, with the lexer as the operator leaves it.
    have hpayload : (⟨⟨"$b\x7d".toList, ⟨4, 1, 5⟩⟩, some (.mark .dash), 1⟩ : Lexer).tokens =
        [⟨.mark .dollar, ⟨4, 1, 5⟩, ⟨5, 1, 6⟩⟩, ⟨.name "b", ⟨5, 1, 6⟩, ⟨6, 1, 7⟩⟩,
         ⟨.mark .closeBrace, ⟨6, 1, 7⟩, ⟨7, 1, 8⟩⟩] := by
      rw [Lexer.tokens_of_some rfl, Lexer.tokens_of_some rfl, Lexer.tokens_of_some rfl,
        Lexer.tokens_of_none rfl]
      rfl
    rw [tokenize, Lexer.tokens_of_some rfl, Lexer.tokens_of_some (show Lexer.next? _ =
        some (_, ⟨⟨"a-$b\x7d".toList, ⟨2, 1, 3⟩⟩, some (.mark .openBrace), 1⟩) from rfl),
      Lexer.tokens_of_some rfl, Lexer.tokens_of_some (show Lexer.next? _ =
        some (_, ⟨⟨"$b\x7d".toList, ⟨4, 1, 5⟩⟩, some (.mark .dash), 1⟩) from rfl), hpayload]
    rfl
  rw [ofString_eq_ofSource_tokenize, htokens]
  exact ofSource_eq_of_sentence
    [.withDefault (.named "a") false (.plain (.named "b"))]
    (by simp [Derivation.height, Parser.maxNesting]) rfl rfl rfl

end Template

/-! ## Failing parameters -/

namespace Expander

/-- Whether the own lookup of a parameter fails. -/
inductive Fails (x : Expander) : Node → Prop where
  /-- A parameter requires a value, and there is none. -/
  | lacks {n : Node} {id : Identifier} {p : Position} (hstrict : x.values.strict = true)
      (h : x.Lacks n id p) : Fails x n
  /-- A parameter with a message has no value, or an empty one where that counts as none. -/
  | error {id : Identifier} {message : Option String} {emptyIsUnset : Bool} {p : Position}
      (h : x.value? id emptyIsUnset = none) : Fails x (.withError id message emptyIsUnset p)

/-- The error of a parameter whose own lookup fails. -/
def failure? (x : Expander) : Node → Option EvalError
  | .withError id message emptyIsUnset p =>
    (x.value? id emptyIsUnset).elim (some ⟨message.elim (.unset id emptyIsUnset) .message, p⟩)
      fun _ => none
  | n => if x.values.strict then x.lack? n else none

variable {x : Expander} {e : EvalError}

theorem Lacks.lack?_eq {n : Node} {id : Identifier} {p : Position} (h : x.Lacks n id p) :
    x.lack? n = some ⟨.unset id false, p⟩ := by
  cases h with
  | simple h | length h => exact lacking?_eq_some_iff.2 ⟨h, rfl⟩
  | indirect h =>
    rw [lack?, h]
    exact lacking?_eq_some_iff.2 ⟨h, rfl⟩
  | denoted hname h =>
    rw [lack?, hname]
    exact lacking?_eq_some_iff.2 ⟨h, rfl⟩

theorem position?_of_lacks {n : Node} {id : Identifier} {p : Position} (h : x.Lacks n id p) :
    n.position? = some p := by
  cases h <;> rfl

theorem not_fails_of_failure? {n : Node} (h : x.failure? n = none) : ¬ x.Fails n := by
  rintro (⟨hstrict, hlacks⟩ | herror)
  · have hsome : x.failure? n = x.lack? n := by
      cases hlacks <;> exact if_pos hstrict
    rw [hsome, hlacks.lack?_eq] at h
    cases h
  · rw [failure?, herror] at h
    cases h

/-- The error of a parameter lies where the parameter does. -/
theorem fails_of_failure? {n : Node} (h : x.failure? n = some e) :
    x.Fails n ∧ n.position? = some e.position := by
  -- All parameters but one kind fail only by what they lack, and only if the variables are strict.
  have hlacks (hlack : (if x.values.strict then x.lack? n else none) = some e) :
      x.Fails n ∧ n.position? = some e.position := by
    split at hlack
    · next hstrict =>
      obtain ⟨id, hlacks, -⟩ := exists_lacks_of_lack? hlack
      exact ⟨.lacks hstrict hlacks, position?_of_lacks hlacks⟩
    · cases hlack
  cases n with
  | withError id message emptyIsUnset p =>
    rw [failure?] at h
    cases hvalue : x.value? id emptyIsUnset with
    | none =>
      rw [hvalue] at h
      cases h
      exact ⟨.error hvalue, rfl⟩
    | some value => rw [hvalue] at h; cases h
  | _ => exact hlacks h

/-! ## The first failure -/

section

variable (x)

@[simp] theorem failure?_withDefault (id : Identifier) (payload : Node) (colon : Bool)
    (p : Position) : x.failure? (.withDefault id payload colon p) = none := ite_self none

@[simp] theorem failure?_withAlternative (id : Identifier) (payload : Node) (colon : Bool)
    (p : Position) : x.failure? (.withAlternative id payload colon p) = none := ite_self none

/-- A required value is missing only if the variables are strict. -/
theorem outcome_require (id : Identifier) (p : Position) :
    (x.require id p).outcome =
      (if x.values.strict then x.lacking? id p else none).elim
        (.ok ((x.values.resolve id).getD "")) .error := by
  simp only [require, Traced.outcome_bind, outcome_lookUp, ok_bind, lacking?, substitute]
  cases x.values.resolve id <;> cases x.values.strict <;> rfl

/-- A node fails with the error of the first of the nodes evaluated for it that fails. -/
theorem outcome_evaluateNode_eq_error_iff (n : Node) :
    (x.evaluateNode n).outcome = .error e ↔ (x.visited n).findSome? x.failure? = some e := by
  induction n with
  | text value | arity p => simp [evaluateNode, visited, failure?, lack?]
  | simple id modifier p =>
    simp only [evaluateNode, Traced.outcome_bind, outcome_require, visited, failure?, lack?,
      List.findSome?_singleton]
    cases (if x.values.strict then x.lacking? id p else none) <;> simp
  -- A length asks for the variables to be strict only when there is no value.
  | length id p =>
    simp only [evaluateNode, Traced.outcome_bind, outcome_lookUp, ok_bind, substitute, visited,
      failure?, lack?, lacking?, List.findSome?_singleton]
    cases x.values.resolve id <;> cases x.values.strict <;> simp
  | indirect id p =>
    simp only [evaluateNode, Traced.outcome_bind, outcome_require, visited, failure?, lack?,
      List.findSome?_singleton]
    -- The second lookup is made unless the first one fails.
    cases hid : x.values.resolve id with
    | none => cases x.values.strict <;> simp [lacking?, hid]
    | some name =>
      cases hname : x.values.resolve (.named name) <;> cases x.values.strict <;>
        simp [lacking?, hid, hname]
  -- A parameter with a payload does not fail itself, so the payload decides if it is reached.
  | withDefault id default emptyIsUnset p ih =>
    rw [outcome_withDefault, visited, List.findSome?_cons, failure?_withDefault]
    cases x.value? id emptyIsUnset with
    | none => exact ih
    | some value => simp
  | withAlternative id alternative emptyIsUnset p ih =>
    rw [outcome_withAlternative, visited, List.findSome?_cons, failure?_withAlternative]
    cases x.value? id emptyIsUnset with
    | none => simp
    | some value => exact ih
  | withError id message emptyIsUnset p =>
    simp only [outcome_withError, visited, List.findSome?_singleton, failure?]
    cases x.value? id emptyIsUnset <;> simp

/-- Nodes fail with the error of the first of all evaluated ones that fails. -/
theorem outcome_evaluateNodes_eq_error_iff (ns : List Node) :
    (x.evaluateNodes ns).outcome = .error e ↔
      (ns.flatMap x.visited).findSome? x.failure? = some e := by
  induction ns with
  | nil => simp [evaluateNodes]
  | cons n ns ih =>
    rw [evaluateNodes, List.flatMap_cons, List.findSome?_append, Traced.outcome_bind]
    cases hn : (x.evaluateNode n).outcome with
    | error d =>
      rw [(x.outcome_evaluateNode_eq_error_iff n).1 hn]
      simp
    | ok value =>
      -- Nothing that is evaluated for the first node fails, so the first failure is a later one.
      have hnone : (x.visited n).findSome? x.failure? = none := by
        rw [Option.eq_none_iff_forall_not_mem]
        intro d hd
        cases hn.symm.trans ((x.outcome_evaluateNode_eq_error_iff n).2 hd)
      rw [hnone, Option.none_or, ← ih, ok_bind, Traced.outcome_bind]
      cases (x.evaluateNodes ns).outcome <;> simp

/-- The nodes evaluated for a node are its parameters that are reached, in their order, apart from
texts. -/
theorem filter_visited_sublist (n : Node) :
    ((x.visited n).filter (·.position?.isSome)).Sublist n.parameters := by
  -- A payload is visited or not, and the other parameters of the node are always visited.
  induction n with
  | text value => exact List.nil_sublist _
  | withDefault id default emptyIsUnset p ih =>
    rw [visited, List.filter_cons_of_pos rfl, Node.parameters]
    refine .cons_cons _ ?_
    cases x.value? id emptyIsUnset with
    | none => exact ih
    | some value => exact List.nil_sublist _
  | withAlternative id alternative emptyIsUnset p ih =>
    rw [visited, List.filter_cons_of_pos rfl, Node.parameters]
    refine .cons_cons _ ?_
    cases x.value? id emptyIsUnset with
    | none => exact List.nil_sublist _
    | some value => exact ih
  | _ => exact .refl _

end

/-- Of all nodes that are evaluated for a text, the first whose own lookup fails is the one parameter at
the position of the error. -/
theorem exists_first_failure {text : String} (he : (x.expand text).outcome = .error (.eval e)) :
    ∃ t before n after, Template.ofString text = .ok t ∧
      t.nodes.flatMap x.visited = before ++ n :: after ∧ (∀ m ∈ before, ¬ x.Fails m) ∧
      x.Fails n ∧ n.position? = some e.position ∧
      t.parameters.filter (·.position? = some e.position) = [n] := by
  cases ht : Template.ofString text with
  | error d => cases (x.outcome_expand_of_error ht).symm.trans he
  | ok t =>
    have hnodes : (x.evaluateNodes t.nodes).outcome = .error e := by
      rw [outcome_expand_of_ok x ht] at he
      cases houtcome : (x.evaluateNodes t.nodes).outcome <;> rw [houtcome] at he <;> cases he
      rfl
    obtain ⟨before, n, after, hvisited, hfailure, hbefore⟩ :=
      List.findSome?_eq_some_iff.1 ((x.outcome_evaluateNodes_eq_error_iff t.nodes).1 hnodes)
    obtain ⟨hfails, hposition⟩ := fails_of_failure? hfailure
    -- What is evaluated is a parameter of the template, and no other one lies at its position.
    have hn : n ∈ t.parameters := by
      have hmem : n ∈ t.nodes.flatMap x.visited := hvisited ▸ List.mem_append_right _ (.head _)
      obtain ⟨m, hm, hnm⟩ := List.mem_flatMap.1 hmem
      have hkept : n ∈ (x.visited m).filter (·.position?.isSome) :=
        List.mem_filter.2 ⟨hnm, Option.isSome_iff_exists.2 ⟨_, hposition⟩⟩
      exact List.mem_flatMap.2 ⟨m, hm, (x.filter_visited_sublist m).mem hkept⟩
    refine ⟨t, before, n, after, rfl, hvisited, ?_, hfails, hposition, ?_⟩
    · exact fun m hm => not_fails_of_failure? (hbefore m hm)
    · rw [← hposition]
      exact Template.filter_parameters ht hn

/-- Each parameter of a text lies at a true position in front of a dollar sign, which is the start of
a token. From each parameter to the next, those in its payload first, the positions go forward in the
text, and there are as many parameters as tokens that are dollar signs. So if a value is missing in an
expansion, the error lies at exactly one parameter. This is the first one in the order of the
evaluation whose own lookup fails. -/
theorem position_identifies_failure (text : String) :
    (∀ t, Template.ofString text = .ok t →
      (∀ n ∈ t.parameters, ∃ p, n.position? = some p ∧ p.LiesIn text ∧
        text.toList[p.index]? = some '$' ∧
        ∃ token ∈ tokenize text, token.kind = .mark .dollar ∧ token.start = p) ∧
      (t.parameters.filterMap Node.position?).Pairwise (fun p q => p.index < q.index) ∧
      t.parameters.length = (tokenize text).countP (·.kind = .mark .dollar)) ∧
    ∀ (x : Expander) (e : EvalError), (x.expand text).outcome = .error (.eval e) →
      ∃ t before n after, Template.ofString text = .ok t ∧
        t.nodes.flatMap x.visited = before ++ n :: after ∧ (∀ m ∈ before, ¬ x.Fails m) ∧
        x.Fails n ∧ t.parameters.filter (·.position? = some e.position) = [n] := by
  -- The first part is about the template alone, and the second one about any expansion of it.
  constructor
  · intro t ht
    refine ⟨?_, ?_, Template.length_parameters ht⟩
    · intro n hn
      have hposition : n.position? ∈ t.positions.map some :=
        t.map_position?_parameters ▸ List.mem_map_of_mem hn
      obtain ⟨p, hp, hnp⟩ := List.mem_map.1 hposition
      exact ⟨p, hnp.symm, (Template.liesIn_of_mem_positions ht hp).1,
        Template.getElem?_of_mem_positions ht hp, Template.exists_token_of_mem_positions ht hp⟩
    · rw [Template.filterMap_position?_parameters]
      exact Template.pairwise_positions ht
  · intro x e he
    obtain ⟨t, before, n, after, ht, hvisited, hbefore, hfails, -, hone⟩ := exists_first_failure he
    exact ⟨t, before, n, after, ht, hvisited, hbefore, hfails, hone⟩

/-- A default that requires a value: the error lies at the parameter in the default. -/
theorem position_identifies_failure_default :
    let x : Expander := { values := { strict := true } }
    let t : Template :=
      ⟨[.withDefault (.named "a") (.simple (.named "b") none ⟨4, 1, 5⟩) false .start]⟩
    Template.ofString "$\x7ba-$b\x7d" = .ok t ∧
    (t.parameters.filterMap Node.position?).Pairwise (fun p q => p.index < q.index) ∧
    (x.expand "$\x7ba-$b\x7d").outcome =
      .error (.eval ⟨.unset (.named "b") false, ⟨4, 1, 5⟩⟩) ∧
    ∃ n, x.Fails n ∧ t.parameters.filter (·.position? = some ⟨4, 1, 5⟩) = [n] := by
  intro x t
  have herror : (x.expand "$\x7ba-$b\x7d").outcome =
      .error (.eval ⟨.unset (.named "b") false, ⟨4, 1, 5⟩⟩) := by
    rw [outcome_expand_of_ok x Template.ofString_default]
    rfl
  obtain ⟨hplaces, hfirst⟩ := position_identifies_failure "$\x7ba-$b\x7d"
  obtain ⟨u, _, n, _, hu, -, -, hfails, hone⟩ := hfirst x _ herror
  -- The template that fails is the one that the text forms.
  obtain rfl : t = u := by simpa using Template.ofString_default.symm.trans hu
  exact ⟨Template.ofString_default, (hplaces t Template.ofString_default).2.1, herror, n, hfails, hone⟩

end Expander

end ParamExpansion
