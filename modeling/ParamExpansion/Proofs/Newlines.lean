import ParamExpansion.Text.Streams

/-!
# Lines of streams and of entries

What is cut into lines is put together from them, and the ends of the lines may be made alike before.
-/

namespace ParamExpansion.Text

/-! ## Lines of a stream

The lines of a stream put together are the stream, and none of them is empty. Making the ends of
lines alike adds no character.
-/

theorem flatten_prependToFirst (cs : List Char) (lines : List (List Char)) :
    (prependToFirst cs lines).flatten = cs ++ lines.flatten := by
  cases lines <;> simp [prependToFirst]

/-- The lines of a stream lose nothing. -/
theorem flatten_streamLines (cs : List Char) : (streamLines cs).flatten = cs := by
  fun_induction streamLines cs with
  | case1 cs ih => simp [ih]
  | case2 => rfl
  | case3 c cs _ _ ih => simp [ih]
  | case4 c cs _ _ ih => rw [flatten_prependToFirst, ih, List.singleton_append]

theorem nil_notMem_streamLines (cs : List Char) : [] ∉ streamLines cs := by
  fun_induction streamLines cs with
  | case1 cs ih => simpa using ih
  | case2 => simp
  | case3 c cs _ _ ih => simpa using ih
  | case4 c cs _ _ ih =>
    cases h : streamLines cs with
    | nil => simp [prependToFirst]
    | cons line lines =>
      rw [h] at ih
      simp only [List.mem_cons, not_or] at ih
      simpa [prependToFirst] using ih.2

theorem length_unifyNewlines_le (cs : List Char) : (unifyNewlines cs).length ≤ cs.length := by
  fun_induction unifyNewlines cs with
  | case1 cs ih => simp only [List.length_cons]; omega
  | case2 cs _ ih => simpa using ih
  | case3 c cs _ _ ih => simpa using ih
  | case4 => exact Nat.le_refl _

theorem unifyNewlines_ne_nil {cs : List Char} (h : cs ≠ []) : unifyNewlines cs ≠ [] := by
  fun_cases unifyNewlines cs with
  | case4 => exact absurd rfl h
  | _ => exact List.cons_ne_nil _ _

/-- Without carriage returns all ends of lines are line feeds already. -/
theorem unifyNewlines_eq_self {cs : List Char} (h : '\r' ∉ cs) : unifyNewlines cs = cs := by
  fun_induction unifyNewlines cs with
  | case1 cs ih => simp at h
  | case2 cs _ ih => simp at h
  | case3 c cs _ _ ih => rw [ih fun hmem => h (List.mem_cons_of_mem _ hmem)]
  | case4 => rfl

/-! ## Lines of a list of entries

No line of a list of entries holds a character that breaks lines, and the number of a line counts
the breaks in front of it. Lines that line feeds have been put behind are found again.
-/

theorem entryLines_cons {c : Char} {cs : List Char} (h : c = '\r' → cs.head? ≠ some '\n') :
    entryLines (c :: cs) =
      if isLineBreak c then [] :: entryLines cs else prependToFirst [c] (entryLines cs) := by
  rw [entryLines]
  rintro ds rfl rfl
  exact h rfl rfl

/-- The ends of lines need not be made alike before a list of entries is cut. -/
theorem entryLines_unifyNewlines (cs : List Char) :
    entryLines (unifyNewlines cs) = entryLines cs := by
  have hbreak (ds : List Char) : entryLines ('\n' :: ds) = [] :: entryLines ds :=
    entryLines_cons (by simp)
  fun_induction unifyNewlines cs with
  | case1 cs ih => rw [hbreak, ih, entryLines]
  -- A carriage return that no line feed follows breaks the line by itself.
  | case2 cs hnot ih =>
    have hcr : entryLines ('\r' :: cs) = [] :: entryLines cs := by
      refine entryLines_cons fun _ hhead => ?_
      obtain ⟨ds, rfl⟩ := List.head?_eq_some_iff.1 hhead
      exact hnot ds rfl
    rw [hbreak, ih, hcr]
  | case3 c cs _ hcr ih =>
    rw [entryLines_cons fun h => absurd h hcr, entryLines_cons fun h => absurd h hcr, ih]
  | case4 => rfl

theorem cr_notMem_unifyNewlines (cs : List Char) : '\r' ∉ unifyNewlines cs := by
  fun_induction unifyNewlines cs with
  | case1 cs ih => simpa using ih
  | case2 cs _ ih => simpa using ih
  | case3 c cs _ hcr ih => simpa [eq_comm] using And.intro hcr ih
  | case4 => simp

/-- Lines lose what breaks them. -/
theorem isLineBreak_of_mem_entryLines {cs l : List Char} (h : l ∈ entryLines cs) :
    ∀ c ∈ l, isLineBreak c = false := by
  fun_induction entryLines cs generalizing l with
  | case1 cs ih =>
    rcases List.mem_cons.1 h with rfl | h
    · simp
    · exact ih h
  | case2 => cases h
  | case3 c cs _ _ ih =>
    rcases List.mem_cons.1 h with rfl | h
    · simp
    · exact ih h
  -- A character that breaks no line is put in front of the first line, if there is one.
  | case4 c cs _ hc ih =>
    have hfirst : isLineBreak c = false := by simpa using hc
    cases hlines : entryLines cs with
    | nil =>
      rw [hlines] at h
      obtain rfl := List.mem_singleton.1 h
      simpa using hfirst
    | cons line lines =>
      rw [hlines] at h ih
      rcases List.mem_cons.1 h with rfl | h
      · exact List.forall_mem_cons.2 ⟨hfirst, ih List.mem_cons_self⟩
      · exact ih (List.mem_cons_of_mem _ h)

theorem eq_nil_of_entryLines {cs : List Char} (h : entryLines cs = []) : cs = [] := by
  revert h
  fun_cases entryLines cs with
  | case1 | case3 => exact nofun
  | case2 => exact fun _ => rfl
  | case4 c cs => cases entryLines cs <;> exact nofun

/-- In a text without carriage returns each break ends one line, so there are as many breaks in
front of a line as lines. The line reaches from the last of them to the next one. -/
theorem exists_append_of_entryLines {cs l : List Char} {before after : List (List Char)}
    (hcr : '\r' ∉ cs) (h : entryLines cs = before ++ l :: after) :
    ∃ pre post, cs = pre ++ l ++ post ∧ pre.countP isLineBreak = before.length ∧
      (∀ c ∈ pre.getLast?, isLineBreak c = true) ∧ ∀ c ∈ post.head?, isLineBreak c = true := by
  fun_induction entryLines cs generalizing before l with
  | case1 cs ih => simp at hcr
  | case2 => simp at h
  | case3 c cs _ hc ih =>
    cases before with
    | nil =>
      obtain ⟨rfl, -⟩ := List.cons.inj h
      exact ⟨[], c :: cs, rfl, rfl, by simp, by simpa using hc⟩
    | cons line before =>
      obtain ⟨rfl, hrest⟩ := List.cons.inj h
      obtain ⟨pre, post, rfl, hcount, hpre, hpost⟩ :=
        ih (fun hmem => hcr (List.mem_cons_of_mem _ hmem)) hrest
      refine ⟨c :: pre, post, rfl, by simp [hc, hcount], ?_, hpost⟩
      rw [List.getLast?_cons]
      cases hlast : pre.getLast? with
      | none => simpa using hc
      | some d => simpa using hpre d hlast
  | case4 c cs _ hc ih =>
    have hfirst : isLineBreak c = false := by simpa using hc
    cases hlines : entryLines cs with
    | nil =>
      obtain rfl := eq_nil_of_entryLines hlines
      rw [hlines] at h
      obtain ⟨rfl, rfl, rfl⟩ : before = [] ∧ l = [c] ∧ after = [] := by
        cases before <;> simp_all [prependToFirst]
      exact ⟨[], [], rfl, rfl, by simp, by simp⟩
    | cons line lines =>
      have hcs : '\r' ∉ cs := fun hmem => hcr (List.mem_cons_of_mem _ hmem)
      rw [hlines] at h
      cases before with
      | nil =>
        obtain ⟨rfl, rfl⟩ := List.cons.inj h
        have hlines : entryLines cs = [] ++ line :: lines := hlines
        obtain ⟨pre, post, rfl, hcount, hpre, hpost⟩ := ih hcs hlines
        -- Without a break in front of the line there is nothing in front of it.
        obtain rfl : pre = [] := by
          cases hlast : pre.getLast? with
          | none => exact List.getLast?_eq_none_iff.1 hlast
          | some d =>
            have hnone := List.countP_eq_zero.1 hcount d (List.mem_of_getLast? hlast)
            exact absurd (hpre d hlast) hnone
        exact ⟨[], post, rfl, rfl, by simp, hpost⟩
      | cons first before =>
        obtain ⟨rfl, hrest⟩ := List.cons.inj h
        have hlines : entryLines cs = (line :: before) ++ l :: after :=
          hlines.trans (congrArg (line :: ·) hrest)
        obtain ⟨pre, post, rfl, hcount, hpre, hpost⟩ := ih hcs hlines
        refine ⟨c :: pre, post, rfl, by simp [hfirst, hcount], ?_, hpost⟩
        have hne : pre ≠ [] := by
          rintro rfl
          simp at hcount
        rwa [List.getLast?_cons_of_ne_nil hne]

/-- A line ends at the first break. -/
theorem entryLines_append_newline {l : List Char} (h : ∀ c ∈ l, isLineBreak c = false)
    (rest : List Char) : entryLines (l ++ '\n' :: rest) = l :: entryLines rest := by
  induction l with
  | nil => exact entryLines_cons (by simp)
  | cons c l ih =>
    obtain ⟨hc, hl⟩ := List.forall_mem_cons.1 h
    have hcr : c ≠ '\r' := by
      rintro rfl
      exact absurd hc (by decide)
    rw [List.cons_append, entryLines_cons fun heq => absurd heq hcr, ih hl, hc]
    rfl

/-- Lines with line feeds behind them are cut into these lines. -/
theorem entryLines_flatMap {ls : List (List Char)} (h : ∀ l ∈ ls, ∀ c ∈ l, isLineBreak c = false) :
    entryLines (ls.flatMap (· ++ ['\n'])) = ls := by
  induction ls with
  | nil => rfl
  | cons l ls ih =>
    obtain ⟨hl, hls⟩ := List.forall_mem_cons.1 h
    rw [List.flatMap_cons, List.append_assoc, List.singleton_append, entryLines_append_newline hl,
      ih hls]

end ParamExpansion.Text
