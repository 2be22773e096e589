import ParamExpansion.Template

/-!
# Nodes and their positions

A node is its shape, which is the node with all its parameters placed at the start of the text,
together with the positions of its parameters, from the outermost one inwards.
-/

namespace ParamExpansion

namespace Node

/-- The node with all its parameters placed at the start of the text. -/
def unplaced : Node → Node
  | text value => .text value
  | simple id modifier _ => .simple id modifier .start
  | length id _ => .length id .start
  | arity _ => .arity .start
  | indirect id _ => .indirect id .start
  | withDefault id default emptyIsUnset _ => .withDefault id default.unplaced emptyIsUnset .start
  | withAlternative id alternative emptyIsUnset _ =>
    .withAlternative id alternative.unplaced emptyIsUnset .start
  | withError id message emptyIsUnset _ => .withError id message emptyIsUnset .start

/-- The positions of the parameters of a node, the outermost one first. -/
def positions : Node → List Position
  | text _ => []
  | withDefault _ payload _ p | withAlternative _ payload _ p => p :: payload.positions
  | simple _ _ p | length _ p | arity p | indirect _ p | withError _ _ _ p => [p]

/-- The node with its parameters placed elsewhere. -/
def relocate (f : Position → Position) : Node → Node
  | text value => .text value
  | simple id modifier p => .simple id modifier (f p)
  | length id p => .length id (f p)
  | arity p => .arity (f p)
  | indirect id p => .indirect id (f p)
  | withDefault id default emptyIsUnset p =>
    .withDefault id (default.relocate f) emptyIsUnset (f p)
  | withAlternative id alternative emptyIsUnset p =>
    .withAlternative id (alternative.relocate f) emptyIsUnset (f p)
  | withError id message emptyIsUnset p => .withError id message emptyIsUnset (f p)

/-- The shape tells how many parameters there are. -/
theorem length_positions_of_unplaced {m n : Node} (h : m.unplaced = n.unplaced) :
    m.positions.length = n.positions.length := by
  induction m generalizing n with
  | withDefault id payload emptyIsUnset p ih | withAlternative id payload emptyIsUnset p ih =>
    cases n <;> simp [unplaced] at h
    simpa [positions] using ih h.2.1
  | _ =>
    cases n <;> simp [unplaced] at h
    rfl

/-- A node is its shape and its positions. -/
theorem eq_of_unplaced_of_positions {m n : Node} (h : m.unplaced = n.unplaced)
    (hp : m.positions = n.positions) : m = n := by
  induction m generalizing n with
  | withDefault id payload emptyIsUnset p ih | withAlternative id payload emptyIsUnset p ih =>
    cases n <;> simp [unplaced] at h
    simp only [positions, List.cons.injEq] at hp
    rw [h.1, ih h.2.1 hp.2, h.2.2, hp.1]
  | _ => cases n <;> simp_all [unplaced, positions]

@[simp] theorem unplaced_relocate (f : Position → Position) (n : Node) :
    (n.relocate f).unplaced = n.unplaced := by
  induction n <;> simp_all [relocate, unplaced]

@[simp] theorem positions_relocate (f : Position → Position) (n : Node) :
    (n.relocate f).positions = n.positions.map f := by
  induction n <;> simp_all [relocate, positions]

/-- Several nodes are their shapes and their positions. -/
theorem list_eq_of_unplaced_of_positions {ms ns : List Node}
    (h : ms.map unplaced = ns.map unplaced) (hp : ms.flatMap positions = ns.flatMap positions) :
    ms = ns := by
  induction ms generalizing ns with
  | nil => simpa using h.symm
  | cons m ms ih =>
    obtain ⟨n, ns, rfl⟩ : ∃ n ns', ns = n :: ns' := by
      cases ns with
      | nil => simp at h
      | cons n ns => exact ⟨n, ns, rfl⟩
    obtain ⟨hmn, hms⟩ : m.unplaced = n.unplaced ∧ ms.map unplaced = ns.map unplaced := by
      simpa using h
    -- The shapes of the first nodes agree, so their positions have the same length, and the two
    -- lists of positions come apart at the same place.
    have hpos := List.append_inj hp (length_positions_of_unplaced hmn)
    rw [eq_of_unplaced_of_positions hmn hpos.1, ih hms hpos.2]

end Node

namespace Template

/-- The template with all its parameters placed at the start of the text. -/
def unplaced (t : Template) : Template := ⟨t.nodes.map Node.unplaced⟩

/-- The positions of the parameters of a template, in the order of the text. -/
def positions (t : Template) : List Position := t.nodes.flatMap Node.positions

/-- The template with its parameters placed elsewhere. -/
def relocate (f : Position → Position) (t : Template) : Template := ⟨t.nodes.map (Node.relocate f)⟩

@[simp] theorem unplaced_relocate (f : Position → Position) (t : Template) :
    (t.relocate f).unplaced = t.unplaced := by
  simp [relocate, unplaced]

@[simp] theorem positions_relocate (f : Position → Position) (t : Template) :
    (t.relocate f).positions = t.positions.map f := by
  simp [relocate, positions, List.flatMap_map, List.map_flatMap]

end Template

end ParamExpansion
