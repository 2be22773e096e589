/-!
# Names and their values

Bindings map names to values. A later definition of a name replaces an earlier one.
-/

namespace ParamExpansion

/-- A finite map from names to values. -/
structure Bindings where
  /-- The definitions, the latest one first. -/
  entries : List (String × String) := []
deriving DecidableEq, Repr

namespace Bindings

instance : EmptyCollection Bindings := ⟨{}⟩

/-- The value of a name. -/
def get? (b : Bindings) (name : String) : Option String := b.entries.lookup name

/-- Defines a name. -/
def insert (b : Bindings) (name value : String) : Bindings :=
  ⟨(name, value) :: b.entries.filter (·.1 != name)⟩

/-- Defines the names of a list, one after the other. -/
def insertAll (b : Bindings) (definitions : List (String × String)) : Bindings :=
  definitions.foldl (fun b d => b.insert d.1 d.2) b

/-- The bindings of a list of definitions. -/
def ofList (definitions : List (String × String)) : Bindings := insertAll ∅ definitions

@[simp] theorem get?_empty (name : String) : (∅ : Bindings).get? name = none := rfl

theorem lookup_filter_ne {α β : Type} [BEq α] [LawfulBEq α] {key other : α} (h : other ≠ key)
    (entries : List (α × β)) :
    (entries.filter (·.1 != key)).lookup other = entries.lookup other := by
  induction entries with
  | nil => rfl
  | cons e entries ih =>
    obtain ⟨name, value⟩ := e
    by_cases hk : name = key
    · subst hk
      simp [List.lookup_cons, beq_false_of_ne h, ih]
    · simp [List.lookup_cons, hk, ih]

/-- A definition gives its name the new value and leaves all other names alone. -/
theorem get?_insert (b : Bindings) (name value other : String) :
    (b.insert name value).get? other = if other = name then some value else b.get? other := by
  unfold get? insert
  by_cases h : other = name
  · subst h
    simp
  · rw [if_neg h, List.lookup_cons, beq_false_of_ne h]
    exact lookup_filter_ne h _

end Bindings

end ParamExpansion
