import Mathlib.Data.List.Forall2
import ParamExpansion.Proofs.Encoding
import ParamExpansion.Proofs.JsonReading
import ParamExpansion.Proofs.Newlines

/-!
# Written data documents are read back

What the printer writes, the reader reads back: for every value that holds no floating point numbers,
no text in which two surrogates that are partners come together, no key twice in an object, and no
number with too many digits to be read.
-/

namespace ParamExpansion.Json

open ReadM

/-- Whether a value is read back when it is written. -/
inductive Plain : Json → Prop where
  | null : Plain .null
  | bool (value : Bool) : Plain (.bool value)
  | int (value : Int) (h : (Nat.toDigits 10 value.natAbs).length ≤ ReadM.maxDigits) :
    Plain (.int value)
  | string (value : WideText) (h : KeepsApart value) : Plain (.string value)
  | array (items : List Json) (h : ∀ item ∈ items, Plain item) : Plain (.array items)
  | object (members : List (WideText × Json))
    (hkeys : (members.map Prod.fst).Nodup ∧ ∀ key ∈ members.map Prod.fst, KeepsApart key)
    (h : ∀ m ∈ members, Plain m.2) : Plain (.object members)

@[simp] theorem plain_string (value : String) : Plain (.string value) :=
  .string value (keepsApart_plain value)

/-! ## Lists and objects -/

/-- Whether a layout separates items by white space only, apart from the comma. -/
structure Layout.Spaced (layout : Layout) : Prop where
  newLine (level : Nat) : ∀ c ∈ (layout.newLine level).toList, isSpace c = true
  comma : ∃ ws, layout.comma.toList = ',' :: ws ∧ ∀ c ∈ ws, isSpace c = true

/-- Whether a text starts like a value, and is read as this one when nothing continues it that could
belong to a number. -/
structure ReadsBack (text : List Char) (value : Json) : Prop where
  starts : ∃ c cs, text = c :: cs ∧ isSpace c = false ∧ c ∉ [']', '\x7d', '\ufeff']
  reads : ∀ fuel rest, 2 * text.length ≤ fuel → EndsNumber rest →
    Reads (ReadM.value fuel) text rest value

theorem endsNumber_space {ws rest : List Char} (hws : ∀ c ∈ ws, isSpace c = true)
    (hr : EndsNumber rest) : EndsNumber (ws ++ rest) := by
  cases ws with
  | nil => exact hr
  | cons c ws =>
    have hc : c = ' ' ∨ c = '\t' ∨ c = '\n' ∨ c = '\r' := by
      simpa [isSpace, or_assoc] using hws c List.mem_cons_self
    rintro d hd
    obtain rfl : c = d := by simpa using hd
    rcases hc with rfl | rfl | rfl | rfl <;> decide

variable {sep close : List Char}

/-- What stands between two items, and what stands behind the last one. -/
structure Brackets (sep close : List Char) (closing : Char) : Prop where
  sep : ∃ ws, sep = ',' :: ws ∧ ∀ c ∈ ws, isSpace c = true
  close : ∃ ws, close = ws ++ [closing] ∧ ∀ c ∈ ws, isSpace c = true

/-- Behind an item a bracket closes the list, or a comma continues it. -/
theorem Brackets.endsNumber {closing : Char} (hb : Brackets sep close closing)
    (hc : closing ∈ [']', '\x7d']) (rest : List Char) :
    EndsNumber (close ++ rest) ∧ EndsNumber (sep ++ rest) := by
  obtain ⟨ws, hsep, -⟩ := hb.sep
  obtain ⟨ws', hclose, hws'⟩ := hb.close
  -- In front of a bracket there is only white space, and in front of the next item a comma.
  constructor
  · rw [hclose, List.append_assoc]
    refine endsNumber_space hws' fun c hd => ?_
    obtain rfl : closing = c := by simpa using hd
    have hclosing : closing = ']' ∨ closing = '\x7d' := by simpa using hc
    rcases hclosing with rfl | rfl <;> decide
  · rw [hsep]
    rintro c hd
    obtain rfl : ',' = c := by simpa using hd
    decide

/-- The first of some texts comes first. -/
theorem exists_intercalate_cons (sep : List Char) {c : Char} {cs text : List Char}
    (h : text = c :: cs) (texts : List (List Char)) :
    ∃ ds, sep.intercalate (text :: texts) = c :: ds := by
  cases texts with
  | nil => exact ⟨cs, by rw [List.intercalate_singleton, h]⟩
  | cons text' texts =>
    exact ⟨_, by rw [List.intercalate_cons_cons, h, List.cons_append, List.cons_append]⟩

/-- What a list does behind an item: it ends, or more items follow. -/
def afterItem {α : Type} (closing : Char) (a : α) (more : ReadM (List α)) : ReadM (List α) := do
  ReadM.space
  if ← accept closing then return [a]
  else if ← accept ',' then
    ReadM.space
    return a :: (← more)
  else ReadM.fail .comma

namespace Brackets

variable {α : Type} {closing : Char}

/-- Behind the last item the list ends. -/
theorem reads_last (hb : Brackets sep close closing) (hc : closing ∈ [']', '\x7d']) (a : α)
    (more : ReadM (List α)) (rest : List Char) :
    Reads (afterItem closing a more) close rest [a] := by
  obtain ⟨ws, hclose, hws⟩ := hb.close
  have hspace : isSpace closing = false := by
    have hclosing : closing = ']' ∨ closing = '\x7d' := by simpa using hc
    rcases hclosing with rfl | rfl <;> rfl
  rw [hclose]
  refine Reads.space ws hws (by simp [hspace]) (Reads.accept_cons ?_)
  rw [if_pos rfl]
  exact Reads.pure _ _

/-- Behind an item more items follow. -/
theorem reads_next (hb : Brackets sep close closing) (hc : closing ∈ [']', '\x7d']) (a : α)
    {more : ReadM (List α)} {c : Char} {cs rest : List Char} {as : List α}
    (hspace : isSpace c = false) (h : Reads more (c :: cs) rest as) :
    Reads (afterItem closing a more) (sep ++ c :: cs) rest (a :: as) := by
  obtain ⟨ws, rfl, hws⟩ := hb.sep
  have hne : ',' ≠ closing := by
    rintro rfl
    simp at hc
  -- The comma is not the closing mark, so the next item is read.
  refine Reads.space [] (by simp) (by simp [isSpace]) (Reads.accept_of_ne (by simpa using hne) ?_)
  rw [if_neg Bool.false_ne_true]
  refine Reads.accept_cons ?_
  rw [if_pos rfl]
  refine Reads.space ws hws (by simp [hspace]) ?_
  exact h.bind_pure _

/-- The items of a list are read up to its closing bracket. The run `m` reads them, and `P` relates
the text of an item to the item. -/
theorem reads_list (hb : Brackets sep close closing) (hc : closing ∈ [']', '\x7d'])
    {P : List Char → α → Prop} {m : Nat → ReadM (List α)}
    (hstart : ∀ {text a}, P text a → ∃ c cs, text = c :: cs ∧ isSpace c = false)
    (hstep : ∀ {text a fuel cs rest as}, P text a → 2 * text.length ≤ fuel →
      EndsNumber (cs ++ rest) → Reads (afterItem closing a (m fuel)) cs rest as →
      Reads (m (fuel + 1)) (text ++ cs) rest as)
    {texts : List (List Char)} {as : List α} (h : List.Forall₂ P texts as) (hne : as ≠ [])
    (fuel : Nat) (rest : List Char) (hf : 2 * (sep.intercalate texts ++ close).length ≤ fuel) :
    Reads (m fuel) (sep.intercalate texts ++ close) rest as := by
  have hends := hb.endsNumber hc
  have hsep : 0 < sep.length ∧ 0 < close.length := by
    obtain ⟨ws, hsep, -⟩ := hb.sep
    obtain ⟨ws', hclose, -⟩ := hb.close
    simp [hsep, hclose]
  -- Every item takes one unit of fuel, and its text and what stands behind it pay for that.
  induction h generalizing fuel with
  | nil => exact absurd rfl hne
  | @cons text a texts as ha h ih =>
    obtain ⟨fuel, rfl⟩ : ∃ f, fuel = f + 1 := ⟨fuel - 1, by rw [List.length_append] at hf; omega⟩
    cases h with
    | nil =>
      rw [List.intercalate_singleton, List.length_append] at hf
      rw [List.intercalate_singleton]
      exact hstep ha (by omega) (hends rest).1 (hb.reads_last hc a _ rest)
    | @cons text' a' texts as ha' h =>
      obtain ⟨c, cs, htext, hspace⟩ := hstart ha'
      obtain ⟨ds, hds⟩ := exists_intercalate_cons sep htext texts
      rw [List.intercalate_cons_cons, List.append_assoc, List.append_assoc, List.length_append,
        List.length_append, List.length_append] at hf
      rw [List.intercalate_cons_cons, List.append_assoc, List.append_assoc]
      have hmore := ih (List.cons_ne_nil _ _) fuel (by rw [List.length_append]; omega)
      rw [hds, List.cons_append] at hmore ⊢
      refine hstep ha (by omega) ?_ (hb.reads_next hc a hspace hmore)
      rw [List.append_assoc]
      exact (hends _).2

end Brackets

/-- The items of an array are read up to its closing bracket. -/
theorem reads_items (hb : Brackets sep close ']') {texts : List (List Char)} {items : List Json}
    (h : List.Forall₂ ReadsBack texts items) (hne : items ≠ []) (fuel : Nat) (rest : List Char)
    (hf : 2 * (sep.intercalate texts ++ close).length ≤ fuel) :
    Reads (ReadM.items fuel) (sep.intercalate texts ++ close) rest items := by
  refine hb.reads_list (by decide) (fun hitem => ?_) (fun hitem hf hr hmore => ?_) h hne fuel rest hf
  · obtain ⟨c, cs, hc, hspace, -⟩ := hitem.starts
    exact ⟨c, cs, hc, hspace⟩
  · rw [ReadM.items]
    exact (hitem.reads _ _ hf hr).bind hmore

/-- Whether a text is that of a member, which is read back. -/
def MemberReadsBack (text : List Char) (m : WideText × Json) : Prop :=
  KeepsApart m.1 ∧ ∃ content,
    text = (writeString m.1).toList ++ ':' :: ' ' :: content ∧ ReadsBack content m.2

theorem MemberReadsBack.exists_cons {text : List Char} {m : WideText × Json}
    (h : MemberReadsBack text m) : ∃ cs, text = '"' :: cs := by
  obtain ⟨-, content, rfl, -⟩ := h
  exact ⟨_, by rw [toList_writeString, List.cons_append]⟩

/-- A member is read. What follows it is `next`, which a run reads that goes on from the member. -/
theorem reads_member {α : Type} {text cs rest : List Char} {m : WideText × Json} {b : α}
    (h : MemberReadsBack text m) {fuel : Nat} (hf : 2 * text.length ≤ fuel)
    (hr : EndsNumber (cs ++ rest)) {next : WideText → Json → ReadM α}
    (hnext : Reads (next m.1 m.2) cs rest b) :
    Reads (do
      if (← get).peek? ≠ some '"' then fail .key
      let key ← ReadM.string
      ReadM.space
      if !(← accept ':') then fail .colon
      ReadM.space
      let content ← ReadM.value fuel
      next key content) (text ++ cs) rest b := by
  obtain ⟨ds, hds⟩ := h.exists_cons
  obtain ⟨hkey, content, htext, hcontent⟩ := h
  obtain ⟨c, ds', hc, hspace, -⟩ := hcontent.starts
  have hsplit : text ++ cs = (writeString m.1).toList ++ ':' :: ' ' :: (content ++ cs) := by
    rw [htext, List.append_assoc, List.cons_append, List.cons_append]
  -- The value is shorter than the member, so its fuel is enough.
  have hlength : content.length ≤ text.length := by
    rw [htext, List.length_append, List.length_cons, List.length_cons]
    omega
  refine Reads.peek fun p => ?_
  rw [if_neg (by simp [hds, Cursor.peek?]), hsplit]
  refine (reads_string hkey _).bind ?_
  refine Reads.space [] (by simp) (by simp [isSpace]) (Reads.accept_cons ?_)
  rw [if_neg (by decide)]
  refine Reads.space [' '] (by simp [isSpace]) (by simp [hc, hspace]) ?_
  exact (hcontent.reads fuel _ (by omega) hr).bind hnext

/-- The members of an object are read up to its closing bracket. -/
theorem reads_members (hb : Brackets sep close '\x7d') {texts : List (List Char)}
    {ms : List (WideText × Json)} (h : List.Forall₂ MemberReadsBack texts ms) (hne : ms ≠ [])
    (fuel : Nat) (rest : List Char)
    (hf : 2 * (sep.intercalate texts ++ close).length ≤ fuel) :
    Reads (ReadM.members fuel) (sep.intercalate texts ++ close) rest ms := by
  refine hb.reads_list (by decide) (fun hm => ?_) (fun hm hf hr hmore => ?_) h hne fuel rest hf
  · obtain ⟨cs, hcs⟩ := hm.exists_cons
    exact ⟨_, cs, hcs, rfl⟩
  · rw [ReadM.members]
    exact reads_member hm hf hr hmore

/-- No member replaces another one of a different key. -/
theorem foldl_insert {before ms : List (WideText × Json)}
    (h : ((before ++ ms).map Prod.fst).Nodup) :
    ms.foldl (fun ms m => insert ms m.1 m.2) before = before ++ ms := by
  induction ms generalizing before with
  | nil => simp
  | cons m ms ih =>
    -- A key that is not there yet is put at the end.
    have hnew : m.1 ∉ before.map Prod.fst := by
      rw [List.map_append, List.nodup_append] at h
      exact fun hm => h.2.2 _ hm _ (by simp) rfl
    have hany : before.any (·.1 == m.1) = false := by
      rw [List.any_eq_false]
      exact fun m' hm' heq => hnew (List.mem_map.2 ⟨m', hm', by simpa using heq⟩)
    rw [List.foldl_cons, insert, if_neg (by simp [hany]), ih (by simpa using h)]
    simp

/-! ## Whole documents -/

theorem writeItems_eq_map (layout : Layout) (level : Nat) (items : List Json) :
    writeItems layout level items = items.map (write layout level) := by
  induction items with
  | nil => rfl
  | cons item items ih => rw [writeItems, ih, List.map_cons]

theorem writeMembers_eq_map (layout : Layout) (level : Nat) (ms : List (WideText × Json)) :
    writeMembers layout level ms =
      ms.map fun m => writeString m.1 ++ ": " ++ write layout level m.2 := by
  induction ms with
  | nil => rfl
  | cons m ms ih => rw [writeMembers, ih, List.map_cons]

namespace Layout

variable {layout : Layout}

theorem Spaced.brackets (h : layout.Spaced) (level : Nat) (closing : Char) :
    Brackets (layout.comma ++ layout.newLine (level + 1)).toList
      ((layout.newLine level).toList ++ [closing]) closing where
  sep := by
    obtain ⟨ws, hws, hspace⟩ := h.comma
    refine ⟨ws ++ (layout.newLine (level + 1)).toList, ?_, fun c hc => ?_⟩
    · rw [String.toList_append, hws, List.cons_append]
    · exact (List.mem_append.1 hc).elim (hspace c) (h.newLine _ c)
  close := ⟨_, rfl, h.newLine level⟩

variable {opening closing : String} {o c : Char}

theorem toList_enclose_nil (ho : opening.toList = [o]) (hc : closing.toList = [c]) (level : Nat) :
    (layout.enclose level opening closing []).toList = [o, c] := by
  simp [enclose, ho, hc]

theorem toList_enclose (ho : opening.toList = [o]) (hc : closing.toList = [c]) (level : Nat)
    {items : List String} (h : items ≠ []) :
    (layout.enclose level opening closing items).toList =
      o :: ((layout.newLine (level + 1)).toList ++
        ((layout.comma ++ layout.newLine (level + 1)).toList.intercalate
          (items.map String.toList) ++ ((layout.newLine level).toList ++ [c]))) := by
  simp [enclose, h, ho, hc, String.toList_intercalate]

theorem eq_of_mem_newLine {level : Nat} (h : c ∈ (Layout.indented.newLine level).toList) :
    c = '\n' ∨ c = ' ' := by
  change c ∈ ("\n".pushn ' ' (2 * level)).toList at h
  generalize 2 * level = n at h
  induction n with
  | zero => exact .inl (List.mem_singleton.1 h)
  | succ n ih =>
    rw [String.pushn, Nat.repeat, String.toList_push] at h
    exact (List.mem_append.1 h).elim ih fun h => .inr (List.mem_singleton.1 h)

theorem spaced_indented : Layout.indented.Spaced where
  newLine level c h := by rcases eq_of_mem_newLine h with rfl | rfl <;> rfl
  comma := ⟨[], rfl, by simp⟩

end Layout

/-- A word or a number is read as a value. -/
theorem reads_scalar {c : Char} {cs rest : List Char} {j : Json} (hc : c ∉ ['"', '[', '\x7b'])
    (h : Reads scalar (c :: cs) rest j) (fuel : Nat) :
    Reads (ReadM.value (fuel + 1)) (c :: cs) rest j := by
  simp only [List.mem_cons, List.not_mem_nil, or_false, not_or] at hc
  rw [ReadM.value]
  refine Reads.peek fun p => ?_
  rw [if_neg (by simpa [Cursor.peek?] using hc.1)]
  refine Reads.accept_of_ne (by simpa using hc.2.1) ?_
  rw [if_neg Bool.false_ne_true]
  refine Reads.accept_of_ne (by simpa using hc.2.2) ?_
  rwa [if_neg Bool.false_ne_true]

/-- A word or a number is read back. -/
theorem readsBack_scalar {c : Char} {cs : List Char} {j : Json}
    (hc : isSpace c = false ∧ c ∉ [']', '\x7d', '\ufeff', '"', '[', '\x7b'])
    (h : ∀ rest, EndsNumber rest → Reads scalar (c :: cs) rest j) : ReadsBack (c :: cs) j where
  starts := ⟨c, cs, rfl, hc.1, fun hmem => hc.2 (List.mem_append_left ['"', '[', '\x7b'] hmem)⟩
  reads fuel rest hf hr := by
    obtain ⟨fuel, rfl⟩ : ∃ f, fuel = f + 1 := ⟨fuel - 1, by rw [List.length_cons] at hf; omega⟩
    exact reads_scalar (fun hmem => hc.2 (List.mem_append_right [']', '\x7d', '\ufeff'] hmem))
      (h rest hr) fuel

theorem readsBack_string {value : WideText} (h : KeepsApart value) :
    ReadsBack (writeString value).toList (.string value) where
  starts := ⟨_, _, toList_writeString value, by decide⟩
  reads fuel rest hf hr := by
    obtain ⟨fuel, rfl⟩ : ∃ f, fuel = f + 1 :=
      ⟨fuel - 1, by rw [toList_writeString, List.length_cons] at hf; omega⟩
    rw [ReadM.value]
    refine Reads.peek fun p => ?_
    rw [if_pos (by simp [toList_writeString, Cursor.peek?])]
    exact (reads_string h rest).bind_pure _

/-- A sign or a digit starts neither white space nor anything but a number. -/
theorem readsBack_int {value : Int} (h : (Nat.toDigits 10 value.natAbs).length ≤ maxDigits) :
    ReadsBack (toString value).toList (.int value) := by
  have hread := fun rest (hr : EndsNumber rest) => reads_int hr h
  -- The text begins with a sign or a digit, so no other kind of value is tried.
  have hfirst : ∃ c cs, (toString value).toList = c :: cs ∧ (c = '-' ∨ c.isDigit = true) := by
    obtain ⟨c, cs, hc⟩ :=
      List.exists_cons_of_ne_nil (Nat.toDigits_ne_nil (n := value.natAbs) (b := 10))
    have hdigit : c.isDigit = true :=
      Numeral.isDigit_of_mem (n := value.natAbs) (by rw [hc]; exact List.mem_cons_self)
    rw [toList_toString_int, hc]
    split
    · exact ⟨_, _, rfl, .inl rfl⟩
    · exact ⟨_, _, rfl, .inr hdigit⟩
  obtain ⟨c, cs, htext, hc⟩ := hfirst
  rw [htext] at hread ⊢
  refine readsBack_scalar ?_ hread
  rcases hc with rfl | hc
  · decide
  · have hne (x : Char) (hx : x.isDigit = false) : c ≠ x := by
      rintro rfl
      exact absurd hc (by simp [hx])
    simp [isSpace, hne]

/-- An opening bracket is read as the start of an array. -/
theorem reads_openBracket {fuel : Nat} {cs rest : List Char} {j : Json}
    (h : Reads (do
      ReadM.space
      if ← accept ']' then return .array [] else return .array (← ReadM.items fuel)) cs rest j) :
    Reads (ReadM.value (fuel + 1)) ('[' :: cs) rest j := by
  rw [ReadM.value]
  refine Reads.peek fun p => ?_
  rw [if_neg (by simp [Cursor.peek?])]
  refine Reads.accept_cons ?_
  rwa [if_pos rfl]

/-- An opening brace is read as the start of an object. -/
theorem reads_openBrace {fuel : Nat} {cs rest : List Char} {j : Json}
    (h : Reads (do
      ReadM.space
      if ← accept '\x7d' then return .object []
      else return .object ((← ReadM.members fuel).foldl (fun ms m => insert ms m.1 m.2) []))
      cs rest j) :
    Reads (ReadM.value (fuel + 1)) ('\x7b' :: cs) rest j := by
  rw [ReadM.value]
  refine Reads.peek fun p => ?_
  rw [if_neg (by simp [Cursor.peek?])]
  refine Reads.accept_of_ne (by simp) ?_
  rw [if_neg Bool.false_ne_true]
  refine Reads.accept_cons ?_
  rwa [if_pos rfl]

/-- The brackets of an empty list are read back. -/
theorem readsBack_array_nil : ReadsBack ['[', ']'] (.array []) where
  starts := ⟨_, _, rfl, by decide⟩
  reads fuel rest hf _ := by
    obtain ⟨fuel, rfl⟩ : ∃ f, fuel = f + 1 := ⟨fuel - 1, by rw [List.length_cons] at hf; omega⟩
    refine reads_openBracket (Reads.space [] (by simp) (by simp [isSpace]) (Reads.accept_cons ?_))
    rw [if_pos rfl]
    exact Reads.pure _ _

/-- The brackets around some items are read back. -/
theorem readsBack_array (hb : Brackets sep close ']') {ws : List Char}
    (hws : ∀ c ∈ ws, isSpace c = true) {texts : List (List Char)} {items : List Json}
    (h : List.Forall₂ ReadsBack texts items) (hne : items ≠ []) :
    ReadsBack ('[' :: (ws ++ (sep.intercalate texts ++ close))) (.array items) where
  starts := ⟨_, _, rfl, by decide⟩
  reads fuel rest hf _ := by
    rw [List.length_cons, List.length_append] at hf
    obtain ⟨fuel, rfl⟩ : ∃ f, fuel = f + 1 := ⟨fuel - 1, by omega⟩
    have hread := reads_items hb h hne fuel rest (by omega)
    -- The first character is that of the first item, so it does not close the array.
    have hfirst : ∃ c cs, sep.intercalate texts = c :: cs ∧ isSpace c = false ∧ c ≠ ']' := by
      cases h with
      | nil => exact absurd rfl hne
      | cons hitem _ =>
        obtain ⟨c, cs, hc, hspace, hmem⟩ := hitem.starts
        obtain ⟨ds, hds⟩ := exists_intercalate_cons sep hc _
        exact ⟨c, ds, hds, hspace, fun hclose => hmem (by simp [hclose])⟩
    obtain ⟨c, cs, hc, hspace, hclose⟩ := hfirst
    refine reads_openBracket (Reads.space ws hws (by simp [hc, hspace])
      (Reads.accept_of_ne (by simp [hc, hclose]) ?_))
    rw [if_neg Bool.false_ne_true]
    exact hread.bind_pure _

/-- The brackets of an empty object are read back. -/
theorem readsBack_object_nil : ReadsBack ['\x7b', '\x7d'] (.object []) where
  starts := ⟨_, _, rfl, by decide⟩
  reads fuel rest hf _ := by
    obtain ⟨fuel, rfl⟩ : ∃ f, fuel = f + 1 := ⟨fuel - 1, by rw [List.length_cons] at hf; omega⟩
    refine reads_openBrace (Reads.space [] (by simp) (by simp [isSpace]) (Reads.accept_cons ?_))
    rw [if_pos rfl]
    exact Reads.pure _ _

/-- The brackets around some members are read back. -/
theorem readsBack_object (hb : Brackets sep close '\x7d') {ws : List Char}
    (hws : ∀ c ∈ ws, isSpace c = true) {texts : List (List Char)} {ms : List (WideText × Json)}
    (h : List.Forall₂ MemberReadsBack texts ms) (hne : ms ≠ [])
    (hkeys : (ms.map Prod.fst).Nodup) :
    ReadsBack ('\x7b' :: (ws ++ (sep.intercalate texts ++ close))) (.object ms) where
  starts := ⟨_, _, rfl, by decide⟩
  reads fuel rest hf _ := by
    rw [List.length_cons, List.length_append] at hf
    obtain ⟨fuel, rfl⟩ : ∃ f, fuel = f + 1 := ⟨fuel - 1, by omega⟩
    have hread := reads_members hb h hne fuel rest (by omega)
    have hfirst : ∃ cs, sep.intercalate texts = '"' :: cs := by
      cases h with
      | nil => exact absurd rfl hne
      | cons hm _ =>
        obtain ⟨cs, hcs⟩ := hm.exists_cons
        exact exists_intercalate_cons sep hcs _
    obtain ⟨cs, hcs⟩ := hfirst
    refine reads_openBrace (Reads.space ws hws (by simp [hcs, isSpace])
      (Reads.accept_of_ne (by simp [hcs]) ?_))
    rw [if_neg Bool.false_ne_true]
    -- The members are put in one by one, and none replaces another one, as their keys differ.
    have hobject := hread.bind_pure fun ms =>
      Json.object (ms.foldl (fun ms m => insert ms m.1 m.2) [])
    rwa [foldl_insert (by simpa using hkeys), List.nil_append] at hobject

/-- What is written is read back, with any spacing. -/
theorem readsBack_write {layout : Layout} (hl : layout.Spaced) {j : Json} (h : Plain j)
    (level : Nat) : ReadsBack (write layout level j).toList j := by
  have hnull : "null".toList = ['n', 'u', 'l', 'l'] := rfl
  have htrue : "true".toList = ['t', 'r', 'u', 'e'] := rfl
  have hfalse : "false".toList = ['f', 'a', 'l', 's', 'e'] := rfl
  -- The induction is on what makes the value plain, at every level of nesting. Containers without
  -- items are written without a line break.
  induction h generalizing level with
  | null =>
    rw [write, hnull]
    exact readsBack_scalar (by decide) fun rest _ _ => ⟨_, rfl⟩
  | bool value =>
    cases value with
    | true =>
      rw [write, htrue]
      exact readsBack_scalar (by decide) fun rest _ _ => ⟨_, rfl⟩
    | false =>
      rw [write, hfalse]
      exact readsBack_scalar (by decide) fun rest _ _ => ⟨_, rfl⟩
  | int value hdigits =>
    rw [write]
    exact readsBack_int hdigits
  | string value hvalue =>
    rw [write]
    exact readsBack_string hvalue
  | array items _ ih =>
    rw [write, writeItems_eq_map]
    by_cases hne : items = []
    · subst hne
      rw [List.map_nil, Layout.toList_enclose_nil rfl rfl]
      exact readsBack_array_nil
    · have htexts : List.Forall₂ ReadsBack
          ((items.map (write layout (level + 1))).map String.toList) items := by
        rw [List.forall₂_map_left_iff, List.forall₂_map_left_iff, List.forall₂_same]
        exact fun item hitem => ih item hitem (level + 1)
      rw [Layout.toList_enclose rfl rfl level (by simpa using hne)]
      exact readsBack_array (hl.brackets level ']') (hl.newLine _) htexts hne
  | object ms hkeys _ ih =>
    rw [write, writeMembers_eq_map]
    by_cases hne : ms = []
    · subst hne
      rw [List.map_nil, Layout.toList_enclose_nil rfl rfl]
      exact readsBack_object_nil
    · have htexts : List.Forall₂ MemberReadsBack
          ((ms.map fun m => writeString m.1 ++ ": " ++ write layout (level + 1) m.2).map
            String.toList) ms := by
        rw [List.forall₂_map_left_iff, List.forall₂_map_left_iff, List.forall₂_same]
        intro m hm
        exact ⟨hkeys.2 _ (List.mem_map_of_mem hm), _, by simp, ih m hm (level + 1)⟩
      rw [Layout.toList_enclose rfl rfl level (by simpa using hne)]
      exact readsBack_object (hl.brackets level '\x7d') (hl.newLine _) htexts hne hkeys.1

/-- A value with a line feed behind it is read as a document. -/
theorem ReadsBack.reads_document {text : List Char} {j : Json} (h : ReadsBack text j) :
    Reads document (text ++ ['\n']) [] j := by
  obtain ⟨c, cs, hc, hspace, -⟩ := h.starts
  have hends : EndsNumber (['\n'] ++ []) := by
    rintro c ⟨⟩
    decide
  refine Reads.space [] (by simp) (by simp [hc, hspace]) (Reads.peek fun p => ?_)
  refine (h.reads _ _ ?_ hends).bind ?_
  · -- The fuel is twice the length of the whole text, and one more.
    show 2 * text.length ≤ 2 * (text ++ ['\n'] ++ []).length + 1
    simp only [List.length_append]
    omega
  refine Reads.space ['\n'] (by simp [isSpace]) (by simp) (Reads.peek fun p => ?_)
  rw [if_neg (by simp)]
  exact Reads.pure _ _

/-- A document on indented lines is read back. A line feed may end it. -/
theorem ofString_toLines {j : Json} (h : Plain j) : ofString (j.toLines ++ "\n") = .ok j := by
  have hback := readsBack_write Layout.spaced_indented h 0
  obtain ⟨c, cs, hc, -, hmem⟩ := hback.starts
  have htext : (j.toLines ++ "\n").toList = (write .indented 0 j).toList ++ ['\n'] := by
    simp [toLines]
  -- A written document does not begin with a byte order mark.
  have hmark : (j.toLines ++ "\n").toList.head? ≠ some '\ufeff' := by
    rw [htext, hc, List.cons_append, List.head?_cons, Ne, Option.some.injEq]
    rintro rfl
    exact hmem (by decide)
  obtain ⟨q, hq⟩ := hback.reads_document .start
  rw [ofString, if_neg hmark, Cursor.ofString, htext]
  rw [List.append_nil] at hq
  show (document _).map _ = _
  rw [hq]
  rfl

/-! ## Ends of lines -/

theorem not_mem_intercalate {x : Char} {sep : List Char} {texts : List (List Char)} (hsep : x ∉ sep)
    (h : ∀ text ∈ texts, x ∉ text) : x ∉ sep.intercalate texts := by
  induction texts with
  | nil => simp
  | cons text texts ih =>
    obtain ⟨htext, htexts⟩ := List.forall_mem_cons.1 h
    cases texts with
    | nil => rwa [List.intercalate_singleton]
    | cons text' texts =>
      rw [List.intercalate_cons_cons, List.mem_append, List.mem_append]
      exact not_or.2 ⟨not_or.2 ⟨htext, hsep⟩, ih htexts⟩

/-- No text is written with a carriage return. -/
theorem not_mem_writeString (value : WideText) : '\r' ∉ (writeString value).toList := by
  -- What is read back as a number holds digits only.
  have hhex (n : Nat) : '\r' ∉ Text.hex 4 n := fun hmem =>
    absurd (isSome_hexDigit?_of_mem (hexValue?_hex 4 n) _ hmem) (by decide)
  have hescape (c : Char) : '\r' ∉ escapeChar c := by
    unfold escapeChar
    split
    case h_8 hr _ _ _ =>
      split
      · simp [hhex]
      · simpa using Ne.symm hr
    all_goals decide
  have hpoint (x : CodePoint) : '\r' ∉ escapePoint x := by
    cases x with
    | char c => exact hescape c
    | surrogate offset => simp [escapePoint, CodePoint.shown, hhex]
  rw [toList_writeString]
  simp [hpoint]

theorem not_mem_enclose {opening closing : String} (ho : '\r' ∉ opening.toList)
    (hc : '\r' ∉ closing.toList) (level : Nat) {items : List String}
    (h : ∀ item ∈ items, '\r' ∉ item.toList) :
    '\r' ∉ (Layout.indented.enclose level opening closing items).toList := by
  have hline (level : Nat) : '\r' ∉ (Layout.indented.newLine level).toList := fun hmem => by
    rcases Layout.eq_of_mem_newLine hmem with h | h <;> cases h
  unfold Layout.enclose
  split
  · simp [ho, hc]
  · -- Brackets, separators and items contain no carriage return, and nothing else is put together.
    have hsep : '\r' ∉ (Layout.indented.comma ++ Layout.indented.newLine (level + 1)).toList := by
      simpa [Layout.indented] using hline (level + 1)
    have hitems : ∀ text ∈ items.map String.toList, '\r' ∉ text := by simpa using h
    have hall := not_mem_intercalate hsep hitems
    simp only [String.toList_append, String.toList_intercalate, List.mem_append, not_or] at hall ⊢
    exact ⟨⟨⟨⟨ho, hline _⟩, hall⟩, hline _⟩, hc⟩

/-- No document is written with a carriage return. -/
theorem not_mem_write {j : Json} (h : Plain j) (level : Nat) :
    '\r' ∉ (write .indented level j).toList := by
  -- Texts escape a carriage return, and nothing else that is written contains one.
  induction h generalizing level with
  | null => rw [write]; decide
  | bool value => cases value <;> rw [write] <;> decide
  | int value =>
    rw [write, toList_toString_int, List.mem_append]
    refine not_or.2 ⟨by split <;> decide, fun hmem => ?_⟩
    exact absurd (Numeral.isDigit_of_mem hmem) (by decide)
  | string value =>
    rw [write]
    exact not_mem_writeString value
  | array items _ ih =>
    rw [write, writeItems_eq_map]
    refine not_mem_enclose (by decide) (by decide) level fun text htext => ?_
    obtain ⟨item, hitem, rfl⟩ := List.mem_map.1 htext
    exact ih item hitem _
  | object ms _ _ ih =>
    rw [write, writeMembers_eq_map]
    refine not_mem_enclose (by decide) (by decide) level fun text htext => ?_
    obtain ⟨m, hm, rfl⟩ := List.mem_map.1 htext
    simp [not_mem_writeString, ih m hm]

/-- The bytes of a document are read back as the document. -/
theorem exists_decode_toLines {j : Json} (h : Plain j) :
    ∃ cs, Text.Utf8.decode (j.toLines ++ "\n").toUTF8.toList = .ok cs ∧
      ofString (String.ofList (Text.unifyNewlines cs)) = .ok j := by
  refine ⟨_, Text.Utf8.decode_toUTF8 _, ?_⟩
  have hcr : '\r' ∉ (j.toLines ++ "\n").toList := by
    simpa [toLines] using not_mem_write h 0
  rw [Text.unifyNewlines_eq_self hcr, String.ofList_toList, ofString_toLines h]

end ParamExpansion.Json
