import ParamExpansion.Proofs.Grammar
import ParamExpansion.Proofs.Placement

/-!
# Well-formed templates and how they are written

A template is well formed when its names, indexes and texts can be written at their places. Written
out, every parameter stands in braces, and every dollar sign of a text is doubled.
-/

namespace ParamExpansion

/-! ## Well-formed templates -/

/-- A name is a run of characters that starts with no numeric one, and an index is not too large. -/
def Identifier.WellFormed : Identifier → Prop
  | .named name => ∃ c cs, name.toList = c :: cs ∧ Text.isNumeric c = false ∧
      ∀ d ∈ c :: cs, isNameChar d = true
  | .index n => n ≤ Index.max

/-- A text inside a parameter starts with no operator and ends before a closing brace and before the
end of the line. -/
def PayloadText (value : String) : Prop :=
  ∃ c cs, value.toList = c :: cs ∧ c ∉ ['{', '}', ':', '-', '+', '?', '#', '!'] ∧
    ∀ d ∈ c :: cs, d ≠ '}' ∧ d ≠ '\n'

namespace Node

/-- A node that may stand inside a parameter. Of a node outside parameters this says the same, unless
it is a text. -/
def WellFormed : Node → Prop
  | text value => PayloadText value
  | simple id _ _ | length id _ | indirect id _ => id.WellFormed
  | arity _ => True
  | withDefault id payload _ _ | withAlternative id payload _ _ =>
    id.WellFormed ∧ payload.WellFormed
  | withError id message _ _ => id.WellFormed ∧ ∀ value ∈ message, PayloadText value

/-- Nodes outside parameters: the texts are not empty, and no two of them stand side by side. -/
def AllWellFormed : List Node → Prop
  | [] => True
  | text value :: ns =>
    value ≠ "" ∧ (∀ more, ns.head? ≠ some (text more)) ∧ AllWellFormed ns
  | n :: ns => n.WellFormed ∧ AllWellFormed ns

/-- The largest number of parameters nested in one another. -/
def depth : Node → Nat
  | text _ => 0
  | withDefault _ payload _ _ | withAlternative _ payload _ _ => payload.depth + 1
  | _ => 1

end Node

namespace Template

/-- Whether the template can be written. -/
def WellFormed (t : Template) : Prop := Node.AllWellFormed t.nodes

/-- The largest number of parameters nested in one another. -/
def depth (t : Template) : Nat := (t.nodes.map Node.depth).foldr max 0

end Template

/-! ## Written templates -/

/-- The name, or the index in base ten. -/
def Identifier.render : Identifier → List Char
  | .named name => name.toList
  | .index n => Nat.toDigits 10 n

namespace Node

/-- The characters of a braced parameter. -/
def enclose (inside : List Char) : List Char := '$' :: '{' :: (inside ++ ['}'])

/-- What stands before the payload of a conditional parameter. -/
def guard (id : Identifier) (emptyIsUnset : Bool) (operator : Mark) : List Char :=
  id.render ++ ((if emptyIsUnset then [':'] else []) ++ [operator.char])

/-- The characters of a node. -/
def render : Node → List Char
  | text value => escape value.toList
  | simple id none _ => enclose id.render
  | simple id (some m) _ =>
    enclose (id.render ++ m.change.char :: if m.all then [m.change.char] else [])
  | length id _ => enclose ('#' :: id.render)
  | arity _ => enclose ['#']
  | indirect id _ => enclose ('!' :: id.render)
  | withDefault id payload emptyIsUnset _ =>
    enclose (guard id emptyIsUnset .dash ++ payload.render)
  | withAlternative id payload emptyIsUnset _ =>
    enclose (guard id emptyIsUnset .plus ++ payload.render)
  | withError id message emptyIsUnset _ =>
    enclose (guard id emptyIsUnset .question ++ message.elim [] fun value => escape value.toList)

end Node

/-- The text of a template. -/
def Template.render (t : Template) : String := String.ofList (t.nodes.flatMap Node.render)

/-! ## Written templates as derivations -/

namespace Node

/-- The derivation of the written node. -/
def derivation : Node → Derivation
  | text value => .text value
  | simple id none _ => .braced id
  | simple id (some m) _ => .cased id m.change m.all
  | length id _ => .length id
  | arity _ => .arity
  | indirect id _ => .indirect id
  | withDefault id payload emptyIsUnset _ => .withDefault id emptyIsUnset payload.derivation
  | withAlternative id payload emptyIsUnset _ => .withAlternative id emptyIsUnset payload.derivation
  | withError id message emptyIsUnset _ => .withError id emptyIsUnset message

@[simp] theorem node_derivation (n : Node) : n.derivation.node = n.unplaced := by
  induction n with
  | simple id modifier p => cases modifier <;> rfl
  | withDefault id payload emptyIsUnset p ih | withAlternative id payload emptyIsUnset p ih =>
    simp [derivation, Derivation.node, unplaced, ih]
  | _ => rfl

@[simp] theorem height_derivation (n : Node) : n.derivation.height = n.depth := by
  induction n with
  | simple id modifier p => cases modifier <;> rfl
  | withDefault id payload emptyIsUnset p ih | withAlternative id payload emptyIsUnset p ih =>
    simp [derivation, Derivation.height, depth, ih]
  | _ => rfl

/-! ## Without the positions -/

@[simp] theorem wellFormed_unplaced (n : Node) : n.unplaced.WellFormed ↔ n.WellFormed := by
  induction n <;> simp_all [unplaced, WellFormed]

@[simp] theorem depth_unplaced (n : Node) : n.unplaced.depth = n.depth := by
  induction n <;> simp_all [unplaced, depth]

theorem allWellFormed_unplaced (ns : List Node) :
    AllWellFormed (ns.map unplaced) ↔ AllWellFormed ns := by
  have hhead (ns : List Node) (more : String) :
      (ns.map unplaced).head? = some (text more) ↔ ns.head? = some (text more) := by
    cases ns with
    | nil => simp
    | cons n ns => cases n <;> simp [unplaced]
  induction ns with
  | nil => rfl
  | cons n ns ih =>
    cases n with
    -- Only behind a text does it matter what comes next.
    | text value => simp only [List.map_cons, unplaced, AllWellFormed, ih, ne_eq, hhead]
    | _ => simp [unplaced, AllWellFormed, ih, WellFormed]

end Node

namespace Template

@[simp] theorem depth_unplaced (t : Template) : t.unplaced.depth = t.depth := by
  simp [depth, unplaced, Function.comp_def]

theorem depth_le_iff {t : Template} {room : Nat} :
    t.depth ≤ room ↔ ∀ n ∈ t.nodes, n.depth ≤ room := by
  unfold depth
  induction t.nodes with
  | nil => simp
  | cons n ns ih => rw [List.map_cons, List.foldr_cons, Nat.max_le, ih, List.forall_mem_cons]

end Template

end ParamExpansion
