import ParamExpansion.Proofs.DefinitionFormat
import ParamExpansion.Proofs.Encoding
import ParamExpansion.Proofs.Evaluation
import ParamExpansion.Proofs.Newlines
import ParamExpansion.Proofs.Precedence

/-!
# What a file of definitions defines

A file is read exactly if all its lines that are not blank are definitions. The last definition of
a name counts, and the first line that is none is the error, whatever comes behind it. Definitions
that are put into a file are found in it again, provided that nothing in them breaks lines.
-/

namespace ParamExpansion

/-- The last value of a name among what is defined somewhere in a list. -/
theorem lastValue?_filterMap_eq_some_iff {α : Type} {f : α → Option (String × String)} {as : List α}
    {name value : String} : lastValue? (as.filterMap f) name = some value ↔
      ∃ before a after, as = before ++ a :: after ∧ f a = some (name, value) ∧
        ∀ b ∈ after, ∀ v, f b ≠ some (name, v) := by
  rw [lastValue?_eq_some_iff]
  constructor
  · -- The definitions are cut in front of the last one, and so is what they come from.
    rintro ⟨before, after, h, hafter⟩
    obtain ⟨as₁, as₂, rfl, -, h₂⟩ := List.filterMap_eq_append_iff.1 h
    obtain ⟨skipped, a, rest, rfl, -, ha, rfl⟩ := List.filterMap_eq_cons_iff.1 h₂
    refine ⟨as₁ ++ skipped, a, rest, by simp, ha, ?_⟩
    intro b hb v hv
    exact hafter (name, v) (List.mem_filterMap.2 ⟨b, hb, hv⟩) rfl
  · rintro ⟨before, a, after, rfl, ha, hafter⟩
    refine ⟨before.filterMap f, after.filterMap f, by simp [ha], ?_⟩
    intro d hd hname
    obtain ⟨b, hb, hd⟩ := List.mem_filterMap.1 hd
    exact hafter b hb d.2 (by rw [hd, ← hname])

theorem Bindings.get?_ofList (definitions : List (String × String)) (name : String) :
    (ofList definitions).get? name = lastValue? definitions name := by
  rw [ofList, get?_insertAll, get?_empty, Option.or_none]

namespace Definition

/-! ## Lines -/

/-- What a line defines, if it is a definition. -/
def read? (cs : List Char) : Option (String × String) := (read 1 cs).toOption

/-- What a line defines does not depend on its number. -/
theorem read?_eq_some_iff {cs : List Char} {d : String × String} (line : Int) :
    read? cs = some d ↔ read line cs = .ok d := by
  unfold read? read
  cases scan 1 1 grammar cs with
  | ok found => simp [Except.toOption]
  | error col => simp [Except.toOption]

theorem read?_eq_none_iff {cs : List Char} (line : Int) :
    read? cs = none ↔ ∃ e, read line cs = .error e := by
  unfold read? read
  cases scan 1 1 grammar cs with
  | ok found => simp [Except.toOption]
  | error col => simp [Except.toOption]

/-- A blank line defines nothing, since it has no equals sign. -/
theorem not_blank_of_read? {cs : List Char} {d : String × String} (h : read? cs = some d) :
    cs.all Text.isBlank = false := by
  obtain ⟨hjoin, -⟩ := join_of_read 1 ((read?_eq_some_iff 1).1 h)
  have hsign : Text.isBlank '=' = false := by decide
  simp [hjoin, hsign]

/-- Whether a line is blank or a definition. -/
def Readable (cs : List Char) : Prop := cs.all Text.isBlank = false → ∃ d, read? cs = some d

/-! ## Reading lines -/

theorem readLines_cons_of_blank {cs : List Char} (h : cs.all Text.isBlank = true) (line : Int)
    (lines : List (List Char)) : readLines line (cs :: lines) = readLines (line + 1) lines := by
  rw [readLines, if_pos h]

theorem readLines_cons_of_ok {cs : List Char} {d : String × String} (h : read? cs = some d)
    (line : Int) (lines : List (List Char)) :
    readLines line (cs :: lines) = (readLines (line + 1) lines).map (d :: ·) := by
  rw [readLines, if_neg (Bool.eq_false_iff.1 (not_blank_of_read? h)), (read?_eq_some_iff line).1 h]
  rfl

theorem readLines_cons_of_error {cs : List Char} (h : cs.all Text.isBlank = false) {line : Int}
    {e : SyntaxError} (he : read line cs = .error e) (lines : List (List Char)) :
    readLines line (cs :: lines) = .error e := by
  rw [readLines, if_neg (Bool.eq_false_iff.1 h), he]
  rfl

/-- Lines that can be read come before other ones without a change to these. -/
theorem readLines_append {before : List (List Char)} (h : ∀ l ∈ before, Readable l) (line : Int)
    (lines : List (List Char)) : readLines line (before ++ lines) =
      (readLines (line + before.length) lines).map (before.filterMap read? ++ ·) := by
  induction before generalizing line with
  | nil => cases hlines : readLines line lines <;> simp [hlines, Except.map]
  | cons cs before ih =>
    obtain ⟨hcs, hbefore⟩ := List.forall_mem_cons.1 h
    have hnumber : line + 1 + before.length = line + (cs :: before).length := by
      rw [List.length_cons]
      omega
    rw [List.cons_append]
    -- A line that gives no definition, and yet is no fault, is blank.
    cases hread : read? cs with
    | some d =>
      rw [readLines_cons_of_ok hread, ih hbefore, hnumber, List.filterMap_cons_some hread]
      cases readLines (line + (cs :: before).length) lines <;> rfl
    | none =>
      have hblank : cs.all Text.isBlank = true := by
        refine eq_true_of_ne_false fun hblank => ?_
        obtain ⟨d, hd⟩ := hcs hblank
        rw [hd] at hread
        cases hread
      rw [readLines_cons_of_blank hblank, ih hbefore, hnumber, List.filterMap_cons_none hread]

/-- The first line that cannot be read is the error. -/
theorem readLines_of_error {before : List (List Char)} (h : ∀ l ∈ before, Readable l) {line : Int}
    {cs : List Char} (hcs : cs.all Text.isBlank = false) {e : SyntaxError}
    (he : read (line + before.length) cs = .error e) (after : List (List Char)) :
    readLines line (before ++ cs :: after) = .error e := by
  rw [readLines_append h, readLines_cons_of_error hcs he]
  rfl

/-- Either all lines can be read or there is a first one that cannot. -/
theorem readable_or_exists (lines : List (List Char)) : (∀ l ∈ lines, Readable l) ∨
    ∃ before cs after, lines = before ++ cs :: after ∧ (∀ l ∈ before, Readable l) ∧
      cs.all Text.isBlank = false ∧ read? cs = none := by
  -- The first line that is not readable divides the lines.
  induction lines with
  | nil => exact .inl (by simp)
  | cons l lines ih =>
    by_cases hl : Readable l
    · rcases ih with hall | ⟨before, cs, after, rfl, hbefore, hcs⟩
      · exact .inl (List.forall_mem_cons.2 ⟨hl, hall⟩)
      · exact .inr ⟨l :: before, cs, after, rfl, List.forall_mem_cons.2 ⟨hl, hbefore⟩, hcs⟩
    · obtain ⟨hblank, hnone⟩ := Classical.not_imp.1 hl
      refine .inr ⟨[], l, lines, rfl, by simp, hblank, ?_⟩
      exact Option.eq_none_iff_forall_ne_some.2 fun d hd => hnone ⟨d, hd⟩

/-- Lines are read if each of them can be, and give what they define. -/
theorem readLines_eq_ok_iff (line : Int) {lines : List (List Char)}
    {ds : List (String × String)} : readLines line lines = .ok ds ↔
      (∀ l ∈ lines, Readable l) ∧ ds = lines.filterMap read? := by
  have hall (h : ∀ l ∈ lines, Readable l) :
      readLines line lines = .ok (lines.filterMap read?) := by
    have happend := readLines_append h line []
    rwa [List.append_nil, readLines, Except.map, List.append_nil] at happend
  -- A line that is not readable is an error, and the definitions do not come to an end.
  rcases readable_or_exists lines with h | ⟨before, cs, after, rfl, hbefore, hcs, hnone⟩
  · rw [hall h]
    simpa [eq_comm] using fun _ => h
  · obtain ⟨e, he⟩ := (read?_eq_none_iff (line + before.length)).1 hnone
    rw [readLines_of_error hbefore hcs he]
    refine iff_of_false nofun fun h => ?_
    obtain ⟨d, hd⟩ := h.1 cs (by simp) hcs
    rw [hd] at hnone
    cases hnone

/-! ## Files -/

section

variable {fs : FileSystem} {path : String} {content : List UInt8} {text : List Char}

/-- A file that holds a text is read line by line. -/
theorem load_eq_readLines (hread : fs.read path = .ok content)
    (hdecode : Text.Utf8.decode content = .ok text) : load fs path =
      (readLines 1 (Text.entryLines (Text.unifyNewlines text))).mapError .malformed := by
  rw [load, hread, mapError_ok, ok_bind, hdecode, mapError_ok, ok_bind, readFile,
    Text.entryLines_unifyNewlines]

theorem load_eq_ok_iff (hread : fs.read path = .ok content)
    (hdecode : Text.Utf8.decode content = .ok text) {ds : List (String × String)} :
    load fs path = .ok ds ↔
      (∀ l ∈ Text.entryLines (Text.unifyNewlines text), Readable l) ∧
        ds = (Text.entryLines (Text.unifyNewlines text)).filterMap read? := by
  rw [load_eq_readLines hread hdecode, ← readLines_eq_ok_iff 1]
  cases readLines 1 (Text.entryLines (Text.unifyNewlines text)) <;> simp [Except.mapError]

/-- Loading a file of definitions. It succeeds exactly if each line that is not blank is a
definition, and a name has the value that the last of its definitions gives it. Otherwise the first
line that is neither is the error, whatever comes behind it, and the error has the number of this
line. The number counts the breaks in front of the line. -/
theorem load_lines (hread : fs.read path = .ok content)
    (hdecode : Text.Utf8.decode content = .ok text) :
    let lines := Text.entryLines (Text.unifyNewlines text)
    ((∃ ds, load fs path = .ok ds) ↔
      ∀ l ∈ lines, l.all Text.isBlank = false → ∃ d, read 1 l = .ok d) ∧
    (∀ ds, load fs path = .ok ds → ∀ name value,
      (Bindings.ofList ds).get? name = some value ↔
        ∃ before l after, lines = before ++ l :: after ∧ read 1 l = .ok (name, value) ∧
          ∀ m ∈ after, ∀ v, read 1 m ≠ .ok (name, v)) ∧
    (∀ before l after e, lines = before ++ l :: after →
      (∀ m ∈ before, m.all Text.isBlank = false → ∃ d, read 1 m = .ok d) →
      l.all Text.isBlank = false → read (before.length + 1) l = .error e →
      load fs path = .error (.malformed e) ∧ e.line = before.length + 1 ∧
        (LoadError.malformed e).message path =
          s!"{path}:{before.length + 1}: {e.fault.message}") ∧
    ∀ before l after, lines = before ++ l :: after →
      ∃ pre post, Text.unifyNewlines text = pre ++ l ++ post ∧
        pre.countP Text.isLineBreak = before.length ∧
        (∀ c ∈ pre.getLast?, Text.isLineBreak c = true) ∧
        ∀ c ∈ post.head?, Text.isLineBreak c = true := by
  intro lines
  simp only [← read?_eq_some_iff 1, ne_eq]
  refine ⟨?_, ?_, ?_, ?_⟩
  · -- Loading succeeds if no line is faulty. The definitions are those of the lines in their order.
    simp only [load_eq_ok_iff hread hdecode]
    exact ⟨fun ⟨_, hall, _⟩ => hall, fun hall => ⟨_, hall, rfl⟩⟩
  · -- The last line that defines the name gives the value.
    intro ds hds name value
    obtain ⟨-, rfl⟩ := (load_eq_ok_iff hread hdecode).1 hds
    rw [Bindings.get?_ofList, lastValue?_filterMap_eq_some_iff]
  · -- The lines before the first faulty one only move its number.
    intro before l after e hlines hbefore hl he
    have hnumber : (before.length : Int) + 1 = 1 + before.length := Int.add_comm _ _
    have hload : load fs path = .error (.malformed e) := by
      rw [load_eq_readLines hread hdecode]
      show Except.mapError _ (readLines 1 lines) = _
      rw [hlines, readLines_of_error hbefore hl (hnumber ▸ he)]
      rfl
    obtain ⟨hline, -⟩ := error_of_read _ he
    refine ⟨hload, hline, ?_⟩
    rw [LoadError.message, SyntaxError.messageIn, hline]
    rfl
  · intro before l after hlines
    exact Text.exists_append_of_entryLines (Text.cr_notMem_unifyNewlines text) hlines

end

/-- The file `a=1`, a blank line, `a=2`, and the file `a=1`, a blank line, `b`, `=`, with lines that
end with a carriage return and a line feed. -/
theorem load_lines_blank :
    let fs : FileSystem := { entries :=
      [(["f"], .file [97, 61, 49, 13, 10, 32, 13, 10, 97, 61, 50]),
        (["g"], .file [97, 61, 49, 13, 10, 32, 13, 10, 98, 13, 10, 61])] }
    (∃ ds, load fs "f" = .ok ds ∧ (Bindings.ofList ds).get? "a" = some "2") ∧
      ∃ e, load fs "g" = .error (.malformed e) ∧ e.line = 3 := by
  intro fs
  have hf : fs.read "f" = .ok [97, 61, 49, 13, 10, 32, 13, 10, 97, 61, 50] := rfl
  have hg : fs.read "g" = .ok [97, 61, 49, 13, 10, 32, 13, 10, 98, 13, 10, 61] := rfl
  have hload : load fs "f" = .ok [("a", "1"), ("a", "2")] := rfl
  -- The blank line counts in the number of the faulty one, and gives no definition.
  constructor
  · refine ⟨_, hload, ((load_lines hf rfl).2.1 _ hload "a" "2").2 ?_⟩
    exact ⟨[['a', '=', '1'], [' ']], ['a', '=', '2'], [], rfl, rfl, by simp⟩
  · have hbefore : ∀ m ∈ [['a', '=', '1'], [' ']], m.all Text.isBlank = false →
        ∃ d, read 1 m = .ok d :=
      List.forall_mem_cons.2 ⟨fun _ => ⟨("a", "1"), rfl⟩,
        List.forall_mem_singleton.2 fun h => absurd h (by decide)⟩
    obtain ⟨he, hline, -⟩ := (load_lines hg rfl).2.2.1 [['a', '=', '1'], [' ']] ['b'] [['=']]
      ⟨.missingSign, 3, 1⟩ rfl hbefore rfl rfl
    exact ⟨_, he, hline⟩

/-! ## Definitions put into a file -/

/-- Whether some texts are these definitions. -/
def DefinitionsOf (texts : List String) (ds : List (String × String)) : Prop :=
  List.Forall₂ (fun t d => read 1 t.toList = .ok d) texts ds

/-- The content of a file with each text on a line. -/
def onLines (texts : List String) : String := String.join (texts.map (· ++ "\n"))

theorem toList_onLines (texts : List String) :
    (onLines texts).toList = (texts.map String.toList).flatMap (· ++ ['\n']) := by
  simp [onLines, String.toList_join, List.flatMap_map]

namespace DefinitionsOf

variable {texts : List String} {ds : List (String × String)}

theorem eq_filterMap (h : DefinitionsOf texts ds) :
    ds = (texts.map String.toList).filterMap read? := by
  induction h with
  | nil => rfl
  | cons ht _ ih => rw [List.map_cons, List.filterMap_cons_some ((read?_eq_some_iff 1).2 ht), ← ih]

theorem exists_of_mem (h : DefinitionsOf texts ds) {t : String} (ht : t ∈ texts) :
    ∃ d ∈ ds, read 1 t.toList = .ok d := by
  induction h with
  | nil => cases ht
  | @cons t' d texts ds hd _ ih =>
    rcases List.mem_cons.1 ht with rfl | ht
    · exact ⟨d, List.mem_cons_self, hd⟩
    · obtain ⟨d', hmem, hd'⟩ := ih ht
      exact ⟨d', List.mem_cons_of_mem _ hmem, hd'⟩

/-- The command line takes definitions as they are. -/
theorem foldlM_assign (h : DefinitionsOf texts ds) (o : CommandLine.Options) :
    texts.foldlM (fun o t => o.assign .var (some t)) o =
      .ok { o with definitions := o.definitions ++ ds.map some } := by
  induction h generalizing o with
  | nil => simp [pure, Except.pure]
  | @cons t d texts ds hd _ ih =>
    have hassign : o.assign .var (some t) =
        .ok { o with definitions := o.definitions ++ [some d] } := by
      simp only [CommandLine.Options.assign, hd]
    rw [List.foldlM_cons, hassign, ok_bind, ih]
    simp

end DefinitionsOf

/-- Two texts that define the same are the same. -/
theorem read?_inj {cs cs' : List Char} {d : String × String} (h : read? cs = some d)
    (h' : read? cs' = some d) : cs = cs' := by
  obtain ⟨hjoin, -⟩ := join_of_read 1 ((read?_eq_some_iff 1).1 h)
  obtain ⟨hjoin', -⟩ := join_of_read 1 ((read?_eq_some_iff 1).1 h')
  exact hjoin.trans hjoin'.symm

/-- Definitions that are put into a file. Given on the command line, they are taken as they are. The
file is read as the same definitions exactly if none of them holds a character that breaks lines,
and then a name has the value that the last of its definitions gives it. -/
theorem load_onLines {texts : List String} {ds : List (String × String)}
    (h : DefinitionsOf texts ds) :
    (∀ o : CommandLine.Options, texts.foldlM (fun o t => o.assign .var (some t)) o =
      .ok { o with definitions := o.definitions ++ ds.map some }) ∧
    (∀ name value, (Bindings.ofList ds).get? name = some value ↔
      ∃ before t after, texts = before ++ t :: after ∧ read 1 t.toList = .ok (name, value) ∧
        ∀ u ∈ after, ∀ v, read 1 u.toList ≠ .ok (name, v)) ∧
    ∀ fs path, FileSystem.read fs path = .ok (onLines texts).toUTF8.toList →
      (load fs path = .ok ds ↔ ∀ t ∈ texts, ∀ c ∈ t.toList, Text.isLineBreak c = false) := by
  refine ⟨h.foldlM_assign, ?_, ?_⟩
  · intro name value
    simp only [← read?_eq_some_iff 1, ne_eq]
    rw [Bindings.get?_ofList, h.eq_filterMap, List.filterMap_map,
      lastValue?_filterMap_eq_some_iff]
    rfl
  · intro fs path hread
    rw [load_eq_ok_iff hread (Text.Utf8.decode_toUTF8 _), Text.entryLines_unifyNewlines,
      toList_onLines]
    constructor
    · rintro ⟨-, hds⟩ t ht
      -- A line of the file defines the same as the text, so it is the text, and it has no breaks.
      obtain ⟨d, hd, htext⟩ := h.exists_of_mem ht
      rw [hds] at hd
      obtain ⟨l, hl, hline⟩ := List.mem_filterMap.1 hd
      rw [read?_inj ((read?_eq_some_iff 1).2 htext) hline]
      exact Text.isLineBreak_of_mem_entryLines hl
    · intro hbreaks
      rw [Text.entryLines_flatMap (by simpa using hbreaks)]
      refine ⟨?_, h.eq_filterMap⟩
      rintro _ hl -
      obtain ⟨t, ht, rfl⟩ := List.mem_map.1 hl
      obtain ⟨d, -, hd⟩ := h.exists_of_mem ht
      exact ⟨d, (read?_eq_some_iff 1).2 hd⟩

/-- The definitions `a=1` and `a= =2`, of which the second one replaces the first one. -/
theorem load_onLines_twice :
    let fs : FileSystem :=
      { entries := [(["f"], .file (onLines ["a=1", "a= =2"]).toUTF8.toList)] }
    load fs "f" = .ok [("a", "1"), ("a", " =2")] ∧
      (Bindings.ofList [("a", "1"), ("a", " =2")]).get? "a" = some " =2" := by
  intro fs
  have h : DefinitionsOf ["a=1", "a= =2"] [("a", "1"), ("a", " =2")] := .cons rfl (.cons rfl .nil)
  have hread : fs.read "f" = .ok (onLines ["a=1", "a= =2"]).toUTF8.toList := rfl
  obtain ⟨-, hlast, hload⟩ := load_onLines h
  refine ⟨(hload fs "f" hread).2 (by simp [Text.isLineBreak]), (hlast "a" " =2").2 ?_⟩
  exact ⟨["a=1"], "a= =2", [], rfl, rfl, by simp⟩

/-- The definition of `a` as a form feed and `b` is taken from the command line. In a file the form
feed breaks the line, and what is behind it is no definition. -/
theorem load_formFeed :
    let fs : FileSystem := { entries := [(["f"], .file (onLines ["a=\x0cb"]).toUTF8.toList)] }
    read 1 "a=\x0cb".toList = .ok ("a", "\x0cb") ∧
      load fs "f" = .error (.malformed ⟨.missingSign, 2, 1⟩) := by
  intro fs
  have hread : fs.read "f" = .ok (onLines ["a=\x0cb"]).toUTF8.toList := rfl
  exact ⟨rfl, load_eq_readLines hread (Text.Utf8.decode_toUTF8 _)⟩

end Definition

end ParamExpansion
