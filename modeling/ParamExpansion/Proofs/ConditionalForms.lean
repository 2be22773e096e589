import ParamExpansion.Proofs.Evaluation
import ParamExpansion.Proofs.Rendering
import ParamExpansion.Proofs.Tiling

/-!
# Conditional forms

A conditional form is put together from an identifier, an operator and the text of its payload. What
it expands to is told by the value of the identifier and by what the payload expands to when it
stands alone. The payload is read inside the parameter there and outside of parameters here, and both
readings give the same node.
-/

namespace ParamExpansion

/-- The text of a conditional form. -/
def conditionalForm (id : Identifier) (operator payload : String) : String :=
  "$\x7b" ++ toString id ++ operator ++ payload ++ "\x7d"

/-- The error without its place. -/
def ExpansionError.unplaced : ExpansionError → ExpansionError
  | parse e => parse { e with position := .start }
  | eval e => eval (e.relocate fun _ => .start)

/-- What an expander makes of a text, where the place of an error does not count. -/
def Expander.result (x : Expander) (text : String) : Except ExpansionError String :=
  (x.expand text).outcome.mapError .unplaced

/-! ## Texts of single nodes -/

theorem Identifier.toList_toString (id : Identifier) : (toString id).toList = id.render := by
  cases id with
  | named name => rfl
  | index n => exact String.toList_ofList

theorem Node.unplaced_eq_relocate (n : Node) : n.unplaced = n.relocate fun _ => .start := by
  induction n <;> simp_all [unplaced, relocate]

/-- A node that may stand inside a parameter may also stand alone. -/
theorem Node.WellFormed.all {n : Node} (h : n.WellFormed) : AllWellFormed [n] := by
  cases n with
  | text value =>
    obtain ⟨c, cs, hvalue, -⟩ := h
    have hne : value ≠ "" := by
      rintro rfl
      cases hvalue
    exact ⟨hne, by simp, trivial⟩
  | _ => exact ⟨h, trivial⟩

/-- The written node is read as the node, at places of its own. -/
theorem Template.ofString_render_node {n : Node} (hn : n.WellFormed) (hd : n.depth ≤ Parser.maxNesting) :
    ∃ m, ofString (.ofList n.render) = .ok ⟨[m]⟩ ∧ m.unplaced = n.unplaced := by
  have htext : String.ofList n.render = render ⟨[n]⟩ := by simp [render]
  obtain ⟨u, hu, hs⟩ := ofString_render (t := ⟨[n]⟩) hn.all (depth_le_iff.2 (by simpa using hd))
  have hnodes : u.nodes.map Node.unplaced = [n.unplaced] := congrArg nodes hs
  obtain ⟨m, hm, hmn⟩ := List.map_eq_singleton_iff.1 hnodes
  refine ⟨m, ?_, hmn⟩
  rw [htext, hu, ← hm]

namespace Expander

variable (x : Expander)

/-- The written node stands for what the node stands for. -/
theorem result_render {n : Node} (hn : n.WellFormed) (hd : n.depth ≤ Parser.maxNesting) :
    x.result (.ofList n.render) = (x.evaluateNode n.unplaced).outcome.mapError .eval := by
  obtain ⟨m, hm, hmn⟩ := Template.ofString_render_node hn hd
  have hplace := x.outcome_evaluateNode_relocate (fun _ => .start) m
  rw [← Node.unplaced_eq_relocate, hmn] at hplace
  rw [result, outcome_expand_of_ok x hm, hplace]
  simp only [evaluateNodes, Traced.outcome_bind, Traced.outcome_pure]
  cases (x.evaluateNode m).outcome with
  | error e => rfl
  | ok text => simp

/-! ## Evaluation of conditional forms -/

/-- The value of an identifier for a conditional form, with or without a colon. -/
def value? (id : Identifier) (colon : Bool) : Option String :=
  if colon then (x.values.resolve id).filter (· ≠ "") else x.values.resolve id

theorem outcome_lookUpUnless (id : Identifier) (colon : Bool) :
    (x.lookUpUnless colon id).outcome = .ok (x.value? id colon) := by
  simp only [lookUpUnless, Traced.outcome_bind, outcome_lookUp, ok_bind, Traced.outcome_pure, value?]
  cases colon with
  | false => simp
  | true =>
    cases x.values.resolve id with
    | none => rfl
    | some value => by_cases h : value = "" <;> simp [h, Option.filter]

variable (id : Identifier) (payload : Node) (message : Option String) (colon : Bool) (p : Position)

theorem outcome_withDefault : (x.evaluateNode (.withDefault id payload colon p)).outcome =
    (x.value? id colon).elim (x.evaluateNode payload).outcome .ok := by
  simp only [evaluateNode, Traced.outcome_bind, outcome_lookUpUnless, ok_bind]
  cases x.value? id colon <;> rfl

theorem outcome_withAlternative : (x.evaluateNode (.withAlternative id payload colon p)).outcome =
    (x.value? id colon).elim (.ok "") fun _ => (x.evaluateNode payload).outcome := by
  simp only [evaluateNode, Traced.outcome_bind, outcome_lookUpUnless, ok_bind]
  cases x.value? id colon <;> rfl

theorem outcome_withError : (x.evaluateNode (.withError id message colon p)).outcome =
    (x.value? id colon).elim (.error ⟨message.elim (.unset id colon) .message, p⟩) .ok := by
  simp only [evaluateNode, Traced.outcome_bind, outcome_lookUpUnless, ok_bind]
  cases x.value? id colon <;> rfl

end Expander

/-! ## Texts of conditional forms -/

/-- A conditional form is written with its guard before its payload. -/
theorem conditionalForm_ofList (id : Identifier) {operator : String} {colon : Bool} {m : Mark}
    (h : operator.toList = (if colon then [':'] else []) ++ [m.char]) (payload : List Char) :
    conditionalForm id operator (.ofList payload) =
      .ofList (Node.enclose (Node.guard id colon m ++ payload)) := by
  apply String.toList_injective
  simp [conditionalForm, Node.enclose, Node.guard, Identifier.toList_toString, h]

namespace Expander

variable (x : Expander) {id : Identifier} {operator : String} (colon : Bool)

theorem result_withDefault (hid : id.WellFormed) {payload : Node} (hp : payload.WellFormed)
    (hd : payload.depth < Parser.maxNesting)
    (hop : operator.toList = (if colon then [':'] else []) ++ [Mark.char .dash]) :
    x.result (conditionalForm id operator (.ofList payload.render)) =
      (x.value? id colon).elim (x.result (.ofList payload.render)) .ok := by
  have hform := x.result_render (n := .withDefault id payload colon .start) ⟨hid, hp⟩ hd
  rw [Node.unplaced, outcome_withDefault] at hform
  rw [conditionalForm_ofList id hop, x.result_render hp (Nat.le_of_lt hd)]
  refine Eq.trans hform ?_
  cases x.value? id colon <;> rfl

theorem result_withAlternative (hid : id.WellFormed) {payload : Node} (hp : payload.WellFormed)
    (hd : payload.depth < Parser.maxNesting)
    (hop : operator.toList = (if colon then [':'] else []) ++ [Mark.char .plus]) :
    x.result (conditionalForm id operator (.ofList payload.render)) =
      (x.value? id colon).elim (.ok "") fun _ => x.result (.ofList payload.render) := by
  have hform := x.result_render (n := .withAlternative id payload colon .start) ⟨hid, hp⟩ hd
  rw [Node.unplaced, outcome_withAlternative] at hform
  rw [conditionalForm_ofList id hop, x.result_render hp (Nat.le_of_lt hd)]
  refine Eq.trans hform ?_
  cases x.value? id colon <;> rfl

/-- A message is that of an error at the dollar sign of its parameter. -/
theorem outcome_expand_withError (hid : id.WellFormed) {message : String}
    (hm : PayloadText message)
    (hop : operator.toList = (if colon then [':'] else []) ++ [Mark.char .question]) :
    (x.expand (conditionalForm id operator (.ofList (Node.text message).render))).outcome =
      (x.value? id colon).elim (.error (.eval ⟨.message message, .start⟩)) .ok := by
  let n : Node := .withError id (some message) colon .start
  have hn : n.WellFormed := by
    refine ⟨hid, ?_⟩
    rintro value ⟨⟩
    exact hm
  have hform : conditionalForm id operator (.ofList (Node.text message).render) =
      .ofList n.render := conditionalForm_ofList id hop _
  obtain ⟨m, hok, hmn⟩ := Template.ofString_render_node hn (by simp [n, Node.depth, Parser.maxNesting])
  obtain ⟨p, rfl⟩ : ∃ p, m = .withError id (some message) colon p := by
    cases m <;> simp [n, Node.unplaced] at hmn
    obtain ⟨rfl, rfl, rfl⟩ := hmn
    exact ⟨_, rfl⟩
  -- The dollar sign is the first token, so the parameter lies at the beginning.
  have hkinds : (Token.kinds (tokenize (.ofList n.render))).head? = some (.mark .dollar) := by
    have htokens := Template.kinds_tokenize_render (t := ⟨[n]⟩) hn.all
    simp only [Template.render, List.flatMap_singleton] at htokens
    rw [htokens]
    rfl
  obtain rfl : p = .start := by
    simpa [Template.positions, Node.positions] using Template.head?_positions_of_ok hok hkinds
  rw [hform, outcome_expand_of_ok x hok]
  simp only [evaluateNodes, Traced.outcome_bind, Traced.outcome_pure, outcome_withError]
  cases x.value? id colon with
  | none => rfl
  | some value => simp

/-- The conditional forms, whose payload is a written node that leaves room for one more parameter
around it. A form without a colon asks whether there is a value, and one with a colon whether there is
one that is not empty. So the form is its value or what its payload stands for when it stands alone,
errors included. -/
theorem expand_conditional (hid : id.WellFormed) {node : Node} (hn : node.WellFormed)
    (hd : node.depth < Parser.maxNesting) :
    let w := String.ofList node.render
    let value := x.values.resolve id
    let nonempty := value.filter (· ≠ "")
    (∃ m, Template.ofString w = .ok ⟨[m]⟩ ∧ m.unplaced = node.unplaced) ∧
    x.result (conditionalForm id "-" w) = value.elim (x.result w) .ok ∧
    x.result (conditionalForm id ":-" w) = nonempty.elim (x.result w) .ok ∧
    x.result (conditionalForm id "+" w) = value.elim (.ok "") (fun _ => x.result w) ∧
    x.result (conditionalForm id ":+" w) = nonempty.elim (.ok "") (fun _ => x.result w) ∧
    ∀ message, node = .text message →
      let error : ExpansionError := .eval ⟨.message message, { index := 0, line := 1, col := 1 }⟩
      (x.expand (conditionalForm id "?" w)).outcome = value.elim (.error error) .ok ∧
      (x.expand (conditionalForm id ":?" w)).outcome = nonempty.elim (.error error) .ok := by
  intro w value nonempty
  -- A form without a colon asks whether there is a value, one with a colon whether it is nonempty.
  refine ⟨Template.ofString_render_node hn (Nat.le_of_lt hd), ?_, ?_, ?_, ?_, ?_⟩
  · exact x.result_withDefault false hid hn hd rfl
  · exact x.result_withDefault true hid hn hd rfl
  · exact x.result_withAlternative false hid hn hd rfl
  · exact x.result_withAlternative true hid hn hd rfl
  · rintro message rfl
    constructor
    · exact x.outcome_expand_withError false hid hn rfl
    · exact x.outcome_expand_withError true hid hn rfl

/-- A default that is a parameter itself, and a message for a value that is empty. -/
theorem expand_conditional_nested :
    let x : Expander := { values := { named := (∅ : Bindings).insert "a" "", positional := ["p"] } }
    x.result "$\x7ba:-$\x7b1+b\x7d\x7d" = x.result "$\x7b1+b\x7d" ∧
      (x.expand "$\x7ba:?b\x7d").outcome =
        .error (.eval ⟨.message "b", { index := 0, line := 1, col := 1 }⟩) := by
  intro x
  have ha : (Identifier.named "a").WellFormed := ⟨'a', [], rfl, rfl, List.forall_mem_singleton.2 rfl⟩
  have hb : (Node.text "b").WellFormed := ⟨'b', [], by simp, by simp, by simp⟩
  have hp : (Node.withAlternative (.index 1) (.text "b") false .start).WellFormed :=
    ⟨(by decide : 1 ≤ Index.max), hb⟩
  obtain ⟨-, -, hdefault, -⟩ := x.expand_conditional ha hp (by decide)
  obtain ⟨-, -, -, -, -, hmessage⟩ := x.expand_conditional ha hb (by decide)
  exact ⟨hdefault, (hmessage "b" rfl).2⟩

end Expander

end ParamExpansion
