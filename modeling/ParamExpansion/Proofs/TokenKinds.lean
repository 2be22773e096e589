import ParamExpansion.Token

/-!
# Tokens without their places

What a list of tokens consists of, where its parameters start, and how many braces it leaves open.
-/

namespace ParamExpansion

namespace Token

/-! ## Kinds -/

/-- The kinds of some tokens. -/
def kinds (ts : List Token) : List Kind := ts.map Token.kind

@[simp] theorem kinds_nil : kinds [] = [] := rfl

@[simp] theorem kinds_cons (t : Token) (ts : List Token) : kinds (t :: ts) = t.kind :: kinds ts := rfl

@[simp] theorem kinds_append (ts us : List Token) : kinds (ts ++ us) = kinds ts ++ kinds us :=
  List.map_append

theorem exists_of_kinds_eq_cons {ts : List Token} {k : Kind} {ks : List Kind}
    (h : kinds ts = k :: ks) : ∃ t us, ts = t :: us ∧ t.kind = k ∧ kinds us = ks :=
  List.map_eq_cons_iff.1 h

theorem exists_of_kinds_eq_append {ts : List Token} {ks ls : List Kind}
    (h : kinds ts = ks ++ ls) : ∃ us vs, ts = us ++ vs ∧ kinds us = ks ∧ kinds vs = ls :=
  List.map_eq_append_iff.1 h

theorem eq_nil_of_kinds_eq_nil {ts : List Token} (h : kinds ts = []) : ts = [] :=
  List.map_eq_nil_iff.1 h

@[simp] theorem head?_kinds (ts : List Token) : (kinds ts).head? = ts.head?.map Token.kind :=
  List.head?_map

theorem exists_of_head?_kind {ts : List Token} {k : Kind} (h : ts.head?.map Token.kind = some k) :
    ∃ t us, ts = t :: us ∧ t.kind = k := by
  cases ts with
  | nil => cases h
  | cons t us => exact ⟨t, us, rfl, by simpa using h⟩

/-! ## Dollar signs -/

/-- Where the dollar signs among some tokens start. -/
def dollars (ts : List Token) : List Position :=
  (ts.filter (·.kind = .mark .dollar)).map Token.start

@[simp] theorem dollars_nil : dollars [] = [] := rfl

@[simp] theorem dollars_append (ts us : List Token) :
    dollars (ts ++ us) = dollars ts ++ dollars us := by
  simp [dollars]

theorem dollars_cons (t : Token) (ts : List Token) :
    dollars (t :: ts) = if t.kind = .mark .dollar then t.start :: dollars ts else dollars ts := by
  by_cases h : t.kind = .mark .dollar <;> simp [dollars, h]

/-- Tokens of other kinds than the dollar sign hold no parameter. -/
theorem dollars_eq_nil {ts : List Token} (h : .mark .dollar ∉ kinds ts) : dollars ts = [] := by
  simp only [dollars, List.map_eq_nil_iff, List.filter_eq_nil_iff, decide_eq_true_eq]
  intro t ht hk
  exact h (hk ▸ List.mem_map_of_mem ht)

/-! ## Open braces -/

/-- The number of open braces behind some tokens, when `n` are open before them. -/
def nestings (ks : List Kind) (n : Nat) : Nat := ks.foldl (fun n k => k.nesting n) n

@[simp] theorem nestings_nil (n : Nat) : nestings [] n = n := rfl

@[simp] theorem nestings_cons (k : Kind) (ks : List Kind) (n : Nat) :
    nestings (k :: ks) n = nestings ks (k.nesting n) := rfl

@[simp] theorem nestings_append (ks ls : List Kind) (n : Nat) :
    nestings (ks ++ ls) n = nestings ls (nestings ks n) := List.foldl_append

end Token

end ParamExpansion
