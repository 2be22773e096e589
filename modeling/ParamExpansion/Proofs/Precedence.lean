import Mathlib.Data.List.Induction
import ParamExpansion.Proofs.RunSteps

/-!
# Which definition of a variable counts

Of several definitions of a name the last one counts, within a list of definitions as well as among
the settings of an expander. So a definition of the command line is stronger than one of a file, a
later file is stronger than an earlier one, and the environment is the weakest of all.
-/

namespace ParamExpansion

/-! ## Definitions -/

/-- The value that the last definition of a name gives it. -/
def lastValue? (definitions : List (String × String)) (name : String) : Option String :=
  definitions.reverse.lookup name

theorem lastValue?_cons (d : String × String) (ds : List (String × String)) (name : String) :
    lastValue? (d :: ds) name = (lastValue? ds name).or (if name = d.1 then some d.2 else none) := by
  obtain ⟨key, value⟩ := d
  rw [lastValue?, List.reverse_cons, List.lookup_append, List.lookup_cons, List.lookup_nil]
  by_cases h : name = key
  · simp only [h, beq_self_eq_true, if_true]
    rfl
  · simp only [beq_false_of_ne h, if_neg h]
    rfl

/-- A name has a value if it has a definition that no later one replaces. -/
theorem lastValue?_eq_some_iff {definitions : List (String × String)} {name value : String} :
    lastValue? definitions name = some value ↔
      ∃ before after, definitions = before ++ (name, value) :: after ∧ ∀ d ∈ after, d.1 ≠ name := by
  rw [lastValue?, List.lookup_eq_some_iff]
  -- Looking up from the end means looking up in the reverse.
  constructor
  · rintro ⟨after, before, h, hafter⟩
    refine ⟨before.reverse, after.reverse, by simpa using congrArg List.reverse h, ?_⟩
    intro d hd hname
    simpa [hname] using hafter d (List.mem_reverse.1 hd)
  · rintro ⟨before, after, rfl, hafter⟩
    refine ⟨after.reverse, before.reverse, by simp, ?_⟩
    intro d hd
    exact bne_iff_ne.2 (hafter d (List.mem_reverse.1 hd)).symm

/-- A list of definitions replaces the values of the names that it defines. -/
theorem Bindings.get?_insertAll (b : Bindings) (definitions : List (String × String))
    (name : String) :
    (b.insertAll definitions).get? name = (lastValue? definitions name).or (b.get? name) := by
  induction definitions generalizing b with
  | nil => rfl
  | cons d ds ih =>
    have hinsert : b.insertAll (d :: ds) = (b.insert d.1 d.2).insertAll ds := rfl
    rw [hinsert, ih, get?_insert, lastValue?_cons, Option.or_assoc]
    by_cases h : name = d.1 <;> simp [h]

/-! ## Settings -/

namespace Setting

/-- The definitions that a setting adds. -/
def definitions : Setting → List (String × String)
  | .named definitions => definitions
  | _ => []

/-- The positional values that a setting adds. -/
def values : Setting → List String
  | .positional values => values
  | _ => []

/-- Whether missing values are errors, if the setting says so. -/
def strict? : Setting → Option Bool
  | .strict b => some b
  | _ => none

/-- The verbosity, if it is set. -/
def verbosity? : Setting → Option Nat
  | .verbosity level => some level
  | _ => none

/-- The value of a name that the last setting that defines it gives it. -/
def lastValue? (settings : List Setting) (name : String) : Option String :=
  settings.reverse.findSome? fun s => ParamExpansion.lastValue? s.definitions name

theorem lastValue?_append (settings more : List Setting) (name : String) :
    lastValue? (settings ++ more) name = (lastValue? more name).or (lastValue? settings name) := by
  rw [lastValue?, List.reverse_append, List.findSome?_append]
  rfl

@[simp] theorem lastValue?_singleton (s : Setting) (name : String) :
    lastValue? [s] name = ParamExpansion.lastValue? s.definitions name := by
  simp only [lastValue?, List.reverse_singleton, List.findSome?_cons, List.findSome?_nil]
  cases ParamExpansion.lastValue? s.definitions name <;> rfl

end Setting

namespace Expander

/-- Whether an expander is as some settings make it. -/
structure IsSetBy (x : Expander) (settings : List Setting) : Prop where
  named : ∀ name, x.values.resolve (.named name) = Setting.lastValue? settings name
  positional : x.values.positional = settings.flatMap Setting.values
  strict : x.values.strict = (settings.reverse.findSome? Setting.strict?).getD false
  verbosity : x.verbosity = (settings.reverse.findSome? Setting.verbosity?).getD 0

/-- A setting comes on top of those made before. -/
theorem IsSetBy.set {x : Expander} {settings : List Setting} (h : x.IsSetBy settings)
    (s : Setting) : (x.set s).IsSetBy (settings ++ [s]) := by
  -- The new definitions are looked up before the old ones.
  have hdefinitions : ∀ name, (x.set s).values.resolve (.named name) =
      (lastValue? s.definitions name).or (x.values.resolve (.named name)) := by
    intro name
    cases s with
    | named definitions => exact Bindings.get?_insertAll _ _ _
    | _ => rfl
  refine ⟨?_, ?_, ?_, ?_⟩
  · intro name
    rw [hdefinitions, h.named, Setting.lastValue?_append, Setting.lastValue?_singleton]
  · rw [List.flatMap_append, ← h.positional]
    cases s <;> simp [Expander.set, Setting.values]
  · rw [List.reverse_concat, List.findSome?_cons]
    cases s <;> simp [Expander.set, Setting.strict?, h.strict]
  · rw [List.reverse_concat, List.findSome?_cons]
    cases s <;> simp [Expander.set, Setting.verbosity?, h.verbosity]

/-- An expander is as its settings make it. -/
theorem isSetBy_ofSettings (settings : List Setting) : (ofSettings settings).IsSetBy settings := by
  -- The last setting is made last, so the induction is from the end.
  induction settings using List.reverseRecOn with
  | nil => exact ⟨fun _ => rfl, rfl, rfl, rfl⟩
  | append_singleton settings s ih =>
    have hset : ofSettings (settings ++ [s]) = (ofSettings settings).set s := by
      simp [ofSettings]
    rw [hset]
    exact ih.set s

end Expander

/-! ## The settings of a run -/

namespace CommandLine

open RunM

namespace Options

/-- Definitions are given if there are no gaps among them. -/
theorem mapM_require_eq_ok_iff {definitions? : List (Option (String × String))}
    {definitions : List (String × String)} {s s' : RunState} :
    definitions?.mapM (require .noDefinition) s = .ok definitions s' ↔
      s' = s ∧ definitions? = definitions.map some := by
  have hrequire (d? : Option (String × String)) (d : String × String) :
      require .noDefinition d? s = .ok d s ↔ d? = some d := by
    cases d? with
    | none => exact ⟨nofun, nofun⟩
    | some d' => exact ⟨fun h => by cases h; rfl, fun h => by cases h; rfl⟩
  simp only [mapM_eq_ok_iff fun d? => (Idle.require _ d?).quiet, hrequire]
  rw [← List.forall₂_map_right_iff, List.forall₂_eq_eq_eq]

/-- A file of definitions is loaded if it is named and can be read. -/
theorem loadFile_eq_ok_iff {s : RunState} {path? : Option String} {setting : Setting} :
    (do loadFile (← require .unnamedFile path?)) s = .ok setting s ↔
      ∃ f : String × List (String × String), path? = some f.1 ∧ setting = .named f.2 ∧
        Definition.load s.files (FileSystem.normalPath f.1) = .ok f.2 := by
  cases path? with
  | none => exact ⟨nofun, nofun⟩
  | some path =>
    have hrequire : require .unnamedFile (some path) s = .ok path s := rfl
    rw [bind_ok hrequire, loadFile, get_bind]
    cases hload : Definition.load s.files (FileSystem.normalPath path) with
    | ok definitions =>
      constructor
      · rintro ⟨⟩
        exact ⟨(path, definitions), rfl, rfl, hload⟩
      · rintro ⟨f, ⟨⟩, rfl, h⟩
        cases hload.symm.trans h
        rfl
    | error e =>
      constructor
      -- A null character in the path breaks the run down, any other error is reported.
      · cases e with
        | unreadable error => cases error <;> exact nofun
        | _ => exact nofun
      · rintro ⟨f, ⟨⟩, -, h⟩
        cases hload.symm.trans h

/-- Files of definitions are loaded if all of them are named and can be read. -/
theorem mapM_loadFile_eq_ok_iff {paths? : List (Option String)} {loaded : List Setting}
    {s s' : RunState} :
    (paths?.mapM fun path? => do loadFile (← require .unnamedFile path?) : RunM (List Setting)) s =
        .ok loaded s' ↔
      s' = s ∧ ∃ files : List (String × List (String × String)),
        paths? = files.map (fun f => some f.1) ∧ loaded = files.map (fun f => .named f.2) ∧
        ∀ f ∈ files, Definition.load s.files (FileSystem.normalPath f.1) = .ok f.2 := by
  rw [mapM_eq_ok_iff fun _ => ((Idle.require _ _).bind idle_loadFile).quiet]
  refine and_congr_right fun _ => ?_
  -- Each file is named and can be loaded, in the state that all of them find.
  constructor
  · intro h
    induction h with
    | nil => exact ⟨[], rfl, rfl, by simp⟩
    | cons hfile _ ih =>
      obtain ⟨f, rfl, rfl, hload⟩ := loadFile_eq_ok_iff.1 hfile
      obtain ⟨files, rfl, rfl, hloads⟩ := ih
      exact ⟨f :: files, rfl, rfl, List.forall_mem_cons.2 ⟨hload, hloads⟩⟩
  · rintro ⟨files, rfl, rfl, hload⟩
    rw [List.forall₂_map_left_iff, List.forall₂_map_right_iff, List.forall₂_same]
    exact fun f hf => loadFile_eq_ok_iff.2 ⟨f, rfl, rfl, hload f hf⟩

/-- The settings of a run whose files hold `files` and whose command line holds `definitions`. -/
def settingsOf (o : Options) (environment : List (String × String))
    (files : List (List (String × String))) (definitions : List (String × String)) :
    List Setting :=
  [.strict o.strict, .verbosity o.verbosity] ++
    (if o.usesEnvironment then [.named environment] else []) ++ files.map .named ++
    [.named definitions, .positional o.operands]

/-- A run has its settings if its files can be read. The files are given with what they hold. -/
theorem settings_eq_ok_iff {o : Options} {environment : List (String × String)} {s s' : RunState}
    {settings : List Setting} : o.settings environment s = .ok settings s' ↔
      s' = s ∧ ∃ (files : List (String × List (String × String)))
        (definitions : List (String × String)),
        o.variableFiles = files.map (fun f => some f.1) ∧ o.definitions = definitions.map some ∧
        (∀ f ∈ files, Definition.load s.files (FileSystem.normalPath f.1) = .ok f.2) ∧
        settings = o.settingsOf environment (files.map Prod.snd) definitions := by
  have hsettings (files : List (String × List (String × String)))
      (definitions : List (String × String)) :
      o.settingsOf environment (files.map Prod.snd) definitions =
        [.strict o.strict, .verbosity o.verbosity] ++
          (if o.usesEnvironment then [.named environment] else []) ++
          files.map (fun f => .named f.2) ++ [.named definitions, .positional o.operands] := by
    rw [settingsOf, List.map_map]
    rfl
  rw [Options.settings, bind_eq_ok_iff]
  -- None of the steps changes the state, so each of them can be turned around.
  constructor
  · rintro ⟨loaded, t, hloaded, hrest⟩
    obtain ⟨rfl, files, hfiles, rfl, hload⟩ := mapM_loadFile_eq_ok_iff.1 hloaded
    obtain ⟨definitions, t', hgiven, hend⟩ := bind_eq_ok_iff.1 hrest
    obtain ⟨rfl, hdefinitions⟩ := mapM_require_eq_ok_iff.1 hgiven
    cases hend
    exact ⟨rfl, files, definitions, hfiles, hdefinitions, hload, (hsettings files definitions).symm⟩
  · rintro ⟨rfl, files, definitions, hfiles, hdefinitions, hload, rfl⟩
    refine ⟨_, _, mapM_loadFile_eq_ok_iff.2 ⟨rfl, files, hfiles, rfl, hload⟩, ?_⟩
    refine bind_eq_ok_iff.2 ⟨_, _, mapM_require_eq_ok_iff.2 ⟨rfl, hdefinitions⟩, ?_⟩
    rw [hsettings]
    rfl

/-- Without a word about the environment it is used if the command line gives no variables. -/
theorem usesEnvironment_iff (o : Options) :
    o.usesEnvironment = true ↔ o.useEnvironment = some true ∨
      o.useEnvironment = none ∧ o.variableFiles = [] ∧ o.definitions = [] ∧ o.operands = [] := by
  unfold usesEnvironment
  cases o.useEnvironment with
  | none => simp [and_assoc]
  | some used => simp

section

variable (o : Options) (environment definitions : List (String × String))
  (files : List (List (String × String)))

/-- Of the settings of a run those of the command line come last, and the environment comes before
the files. -/
theorem lastValue?_settingsOf (name : String) :
    Setting.lastValue? (o.settingsOf environment files definitions) name =
      (lastValue? definitions name).or ((files.reverse.findSome? (lastValue? · name)).or
        (if o.usesEnvironment then lastValue? environment name else none)) := by
  have hfiles : Setting.lastValue? (files.map .named) name =
      files.reverse.findSome? (lastValue? · name) := by
    rw [Setting.lastValue?, ← List.map_reverse, List.findSome?_map]
    rfl
  have henvironment : Setting.lastValue? (if o.usesEnvironment then [.named environment] else [])
      name = if o.usesEnvironment then lastValue? environment name else none := by
    cases o.usesEnvironment with
    | false => rfl
    | true => exact Setting.lastValue?_singleton _ name
  have hoperands : Setting.lastValue? [.named definitions, .positional o.operands] name =
      lastValue? definitions name := by
    have h := Setting.lastValue?_append [.named definitions] [.positional o.operands] name
    rw [Setting.lastValue?_singleton, Setting.lastValue?_singleton] at h
    exact h
  -- The settings of the first list define no names.
  have hnone : Setting.lastValue? [.strict o.strict, .verbosity o.verbosity] name = none := rfl
  rw [settingsOf, Setting.lastValue?_append, Setting.lastValue?_append, Setting.lastValue?_append,
    hoperands, hfiles, henvironment, hnone, Option.or_none]

theorem positional_settingsOf :
    (o.settingsOf environment files definitions).flatMap Setting.values = o.operands := by
  have hfiles : (files.map Setting.named).flatMap Setting.values = [] := by
    simp [List.flatMap_map, Setting.values]
  have henvironment :
      (if o.usesEnvironment then [Setting.named environment] else []).flatMap Setting.values = [] := by
    cases o.usesEnvironment <;> rfl
  rw [settingsOf, List.flatMap_append, List.flatMap_append, List.flatMap_append, hfiles, henvironment]
  simp [Setting.values]

/-- The verbosity is set once. -/
theorem verbosity_settingsOf :
    (o.settingsOf environment files definitions).reverse.findSome? Setting.verbosity? =
      some o.verbosity := by
  have hfiles : (files.map Setting.named).reverse.findSome? Setting.verbosity? = none := by
    simp [Setting.verbosity?]
  have henvironment : (if o.usesEnvironment then [Setting.named environment] else
      []).reverse.findSome? Setting.verbosity? = none := by
    cases o.usesEnvironment <;> rfl
  rw [settingsOf, List.reverse_append, List.reverse_append, List.reverse_append,
    List.findSome?_append, List.findSome?_append, List.findSome?_append, hfiles, henvironment]
  rfl

end

end Options

/-- The last definition of a name counts. The settings of an expander are made one after the other,
and those of a run, whose files of definitions can be read, are made so that a definition of the
command line is stronger than one of a file, and that is stronger than the environment. Positional
values are numbered from one, and zero names all of them. -/
theorem last_definition_counts :
    (∀ settings : List Setting, (Expander.ofSettings settings).IsSetBy settings) ∧
    ∀ (o : Options) (files : List (String × List (String × String)))
      (definitions environment : List (String × String)) (s : RunState),
      (o.variableFiles = files.map fun f => some f.1) → o.definitions = definitions.map some →
      (∀ f ∈ files, Definition.load s.files (FileSystem.normalPath f.1) = .ok f.2) →
      ∃ settings, o.settings environment s = .ok settings s ∧
        let v := (Expander.ofSettings settings).values
        (∀ name, v.resolve (.named name) =
          (lastValue? definitions name).or
            ((files.reverse.findSome? fun f => lastValue? f.2 name).or
              (if o.usesEnvironment then lastValue? environment name else none))) ∧
        (o.usesEnvironment = true ↔ o.useEnvironment = some true ∨
          o.useEnvironment = none ∧ o.variableFiles = [] ∧ o.definitions = [] ∧ o.operands = []) ∧
        (∀ i (h : i < o.operands.length), v.resolve (.index (i + 1)) = some o.operands[i]) ∧
        (∀ i, o.operands.length < i → v.resolve (.index i) = none) ∧
        v.resolve (.index 0) = some (" ".intercalate o.operands) := by
  refine ⟨Expander.isSetBy_ofSettings, ?_⟩
  intro o files definitions environment s hfiles hdefinitions hload
  refine ⟨_, Options.settings_eq_ok_iff.2
    ⟨rfl, files, definitions, hfiles, hdefinitions, hload, rfl⟩, ?_⟩
  intro v
  -- The settings made from the command line are a case of the general statement.
  have hset := Expander.isSetBy_ofSettings
    (o.settingsOf environment (files.map Prod.snd) definitions)
  have hpositional : v.positional = o.operands :=
    hset.positional.trans (o.positional_settingsOf _ _ _)
  refine ⟨?_, o.usesEnvironment_iff, ?_, ?_, ?_⟩
  · -- Definitions of the command line come last, then those of the files from the last file on, and
    -- then the environment.
    intro name
    rw [hset.named, Options.lastValue?_settingsOf, ← List.map_reverse, List.findSome?_map]
    rfl
  · intro i hi
    show v.positional[i]? = _
    rw [hpositional, List.getElem?_eq_getElem hi]
  · intro i hi
    obtain ⟨n, rfl⟩ : ∃ n, i = n + 1 := ⟨i - 1, by omega⟩
    show v.positional[n]? = _
    rw [hpositional, List.getElem?_eq_none (by omega)]
  · show some (" ".intercalate v.positional) = _
    rw [hpositional]

/-- A name that the command line defines twice, one that a file defines twice, and one that only the
environment defines. -/
theorem last_definition_counts_collisions :
    let o : Options :=
      { definitions := [some ("a", "1"), some ("a", "2")], variableFiles := [some "f", some "g"]
        useEnvironment := some true, operands := ["p"] }
    let s : RunState :=
      { files := { entries := [(["f"], .file [97, 61, 51, 10]),
          (["g"], .file [98, 61, 52, 10, 98, 61, 53])] } }
    ∃ settings, o.settings [("a", "x"), ("e", "y")] s = .ok settings s ∧
      let v := (Expander.ofSettings settings).values
      v.resolve (.named "a") = some "2" ∧ v.resolve (.named "b") = some "5" ∧
        v.resolve (.named "e") = some "y" ∧ v.resolve (.index 1) = some "p" := by
  intro o s
  have hf : Definition.load s.files (FileSystem.normalPath "f") = .ok [("a", "3")] := rfl
  have hg : Definition.load s.files (FileSystem.normalPath "g") = .ok [("b", "4"), ("b", "5")] := rfl
  obtain ⟨settings, hs, hnamed, -, hindex, -⟩ := last_definition_counts.2 o
    [("f", [("a", "3")]), ("g", [("b", "4"), ("b", "5")])] [("a", "1"), ("a", "2")]
    [("a", "x"), ("e", "y")] s rfl rfl (by simpa using ⟨hf, hg⟩)
  refine ⟨settings, hs, ?_, ?_, ?_, hindex 0 (by decide)⟩
  · exact (hnamed "a").trans (by decide)
  · exact (hnamed "b").trans (by decide)
  · exact (hnamed "e").trans (by decide)

end CommandLine

end ParamExpansion
