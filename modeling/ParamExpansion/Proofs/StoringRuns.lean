import ParamExpansion.Proofs.ExpandingRuns
import ParamExpansion.Proofs.StoredRuns

/-!
# Runs that store templates in a file

A run that stores the templates of its input in a file opens the file before it turns to the input,
and opening the file makes it empty. So a run that fails before leaves the file as it was, and one
that fails later leaves it empty. A run that ends well leaves the document of all templates in it.
-/

namespace ParamExpansion.CommandLine

namespace Options

open RunM

variable {o : Options} {w : World} {s s' : RunState} {path : String}

/-! ## Collecting the templates -/

theorem idle_readInput (o : Options) (bytes : List UInt8) : Idle (o.readInput bytes) := by
  unfold readInput
  cases given? o.input with
  | none => exact .pure _
  | some path =>
    refine .get_bind fun s => ?_
    dsimp only
    split
    · refine (Idle.fail _).bind fun _ => ?_
      split
      · exact .pure _
      · exact .breakDown _
    · split
      · exact .pure _
      · exact .breakDown _

theorem idle_templates (line : Nat) (lines : List String) : Idle (templates line lines) := by
  induction lines generalizing line with
  | nil => exact .pure []
  | cons l lines ih =>
    rw [templates]
    cases Template.ofString l with
    | ok t => exact (ih (line + 1)).bind fun ts => .pure (t :: ts)
    | error e => exact .fail _

theorem templates_eq_ok_iff {line : Nat} {lines : List String} {ts : List Template} :
    templates line lines s = .ok ts s' ↔ s' = s ∧ TemplatesOf lines ts := by
  constructor
  · -- The induction is on the lines, since the number of a line changes only the report.
    induction lines generalizing line ts with
    | nil =>
      rintro ⟨⟩
      exact ⟨rfl, .nil⟩
    | cons l lines ih =>
      rw [templates]
      intro h
      cases hl : Template.ofString l with
      | error e =>
        rw [hl] at h
        cases h
      | ok t =>
        rw [hl] at h
        obtain ⟨ts', s'', hts', ⟨⟩⟩ := bind_eq_ok_iff.1 h
        obtain ⟨rfl, hlines⟩ := ih hts'
        exact ⟨rfl, .cons hl hlines⟩
  · rintro ⟨rfl, hts⟩
    rw [templates_of_ok hts]
    rfl

theorem idle_checkInput (input : Input) : Idle (checkInput input) := by
  unfold checkInput
  cases input.fault with
  | none => exact .pure ()
  | some fault => exact .fail _

theorem checkInput_eq_ok_iff {input : Input} :
    checkInput input s = .ok () s' ↔ s' = s ∧ input.fault = none := by
  unfold checkInput
  cases input.fault with
  | none => exact ⟨fun h => by cases h; exact ⟨rfl, rfl⟩, fun h => by cases h.1; rfl⟩
  | some fault => exact ⟨nofun, fun h => by cases h.2⟩

/-- The templates of the whole input. -/
def collect (o : Options) (bytes : List UInt8) : RunM (List Template) := do
  let input ← o.readInput bytes
  let ts ← templates 0 input.lines
  checkInput input
  return ts

theorem idle_collect (o : Options) (bytes : List UInt8) : Idle (o.collect bytes) :=
  (idle_readInput o bytes).bind fun input => (idle_templates 0 input.lines).bind fun ts =>
    (idle_checkInput input).bind fun _ => .pure ts

/-- The templates are collected if the input can be read to its end and each line is one. -/
theorem collect_eq_ok_iff {bytes : List UInt8} {ts : List Template} :
    o.collect bytes s = .ok ts s' ↔ s' = s ∧ ∃ input, o.readInput bytes s = .ok input s ∧
      input.fault = none ∧ TemplatesOf input.lines ts := by
  unfold collect
  constructor
  · -- Every step leaves the state as it is, so the steps can be looked at in the first one.
    intro h
    obtain ⟨input, t, hinput, hrest⟩ := bind_eq_ok_iff.1 h
    obtain rfl := (idle_readInput o bytes).quiet hinput
    obtain ⟨ts', t', htemplates, hlast⟩ := bind_eq_ok_iff.1 hrest
    obtain ⟨rfl, hts⟩ := templates_eq_ok_iff.1 htemplates
    obtain ⟨⟨⟩, t'', hcheck, ⟨⟩⟩ := bind_eq_ok_iff.1 hlast
    obtain ⟨rfl, hfault⟩ := checkInput_eq_ok_iff.1 hcheck
    exact ⟨rfl, input, hinput, hfault, hts⟩
  · rintro ⟨rfl, input, hinput, hfault, hts⟩
    rw [bind_ok hinput, bind_ok (templates_eq_ok_iff.2 ⟨rfl, hts⟩),
      bind_ok (checkInput_eq_ok_iff.2 ⟨rfl, hfault⟩)]
    rfl

/-! ## Opening the file -/

/-- Whether a run stores templates in the file with this path. -/
structure StoresIn (o : Options) (path : String) : Prop where
  emit : o.emit = true
  stored : given? o.stored = none
  output : given? o.output = some path

/-- What a run that stores templates does before it turns to its input: it makes the file empty,
once it is prepared. -/
def openOutput (o : Options) (path : String) (environment : List (String × String)) :
    RunM (List Setting) := do
  let settings ← o.prepare environment
  changeFiles (·.clear path)
  return settings

theorem carryOut_of_storesIn (h : o.StoresIn path) : o.carryOut w = (do
    let _ ← o.openOutput path w.environment
    let ts ← o.collect w.input
    write (storedText ts)) := by
  -- Writing is the last step, so all that can fail comes before it.
  have hproduce (x : Expander) : o.produce x w.input = (do
      let ts ← o.collect w.input
      write (storedText ts)) := by
    unfold produce
    rw [h.stored]
    simp only [h.emit, if_true, collect, bind_assoc, pure_bind]
    rfl
  unfold carryOut openOutput prepare
  simp only [h.output, h.emit, if_true, hproduce]
  cases given? o.debugFile with
  | none => simp only [bind_assoc, pure_bind]
  | some d => simp only [bind_assoc, pure_bind]

/-- Whether nothing is written to a path, as far as traces are concerned. -/
def TracesApart (o : Options) (fs : FileSystem) (path : String) : Prop :=
  ∀ d, given? o.debugFile = some d → fs.Apart path d

theorem changeFiles_of_error {change : FileSystem → Except FileError FileSystem} {e : FileError}
    (h : change s.files = .error e) : changeFiles change s = .error (.broken (.file e)) s := by
  rw [changeFiles, RunM.get_bind]
  simp only [h]
  rfl

/-- Preparing a run changes no file but that for traces. -/
theorem exists_idleEnd_prepare (o : Options) (environment : List (String × String))
    (fs : FileSystem) : ∃ fs₁, IdleEnd { files := fs₁ } (o.prepare environment { files := fs }) ∧
      ∀ p, o.TracesApart fs p → fs₁.content? p = fs.content? p ∧
        ∀ q, fs.Apart p q → fs₁.Apart p q := by
  unfold prepare TracesApart
  cases given? o.debugFile with
  | none => exact ⟨fs, idle_settings o environment _, fun p _ => ⟨rfl, fun q hq => hq⟩⟩
  | some d =>
    dsimp only
    -- Clearing the file for the trace is the only change, and it leaves every file that is apart
    -- from it.
    cases hclear : fs.clear d with
    | error e =>
      refine ⟨fs, ?_, fun p _ => ⟨rfl, fun q hq => hq⟩⟩
      rw [bind_error (changeFiles_of_error hclear)]
      exact .error _ _ rfl
    | ok fs₁ =>
      refine ⟨fs₁, ?_, fun p hp => ?_⟩
      · rw [bind_ok (changeFiles_eq_ok_iff.2 ⟨fs₁, hclear, rfl⟩)]
        exact idle_settings o environment _
      · exact ⟨FileSystem.content?_of_change_of_apart hclear (hp d rfl),
          fun q hq => hq.of_change hclear⟩

/-- The ways in which the opening of the file ends: it has not been reached or is impossible, and
then all files but that for traces are as before, or the file is empty. -/
inductive OpenEnd (o : Options) (path : String) (fs : FileSystem) :
    EStateM.Result Status RunState (List Setting) → Prop where
  | closed (status : Status) (messages : String) (fs₁ : FileSystem) : status.exitCode = 1 →
    (∀ p, o.TracesApart fs p → fs₁.content? p = fs.content? p) →
    OpenEnd o path fs (.error status { files := fs₁, messages })
  | opened (settings : List Setting) (fs₂ : FileSystem) :
    fs₂.content? path = some [] → (∀ f, ∃ fs₃, fs₂.change path f = .ok fs₃) →
    (∀ p, o.TracesApart fs p → fs.Apart p path → fs₂.content? p = fs.content? p) →
    OpenEnd o path fs (.ok settings { files := fs₂ })

theorem openEnd_openOutput (o : Options) (path : String) (environment : List (String × String))
    (fs : FileSystem) : OpenEnd o path fs (o.openOutput path environment { files := fs }) := by
  obtain ⟨fs₁, hprepare, hfiles⟩ := exists_idleEnd_prepare o environment fs
  unfold openOutput
  generalize hr : o.prepare environment { files := fs } = r at hprepare
  -- Failures before the output file is opened leave it as it was, and once it is opened it is
  -- empty.
  cases hprepare with
  | error status messages hstatus =>
    rw [bind_error hr]
    exact .closed status messages fs₁ hstatus fun p hp => (hfiles p hp).1
  | ok settings =>
    rw [bind_ok hr]
    cases hclear : fs₁.clear path with
    | error e =>
      rw [bind_error (changeFiles_of_error hclear)]
      exact .closed _ _ fs₁ rfl fun p hp => (hfiles p hp).1
    | ok fs₂ =>
      rw [bind_ok (changeFiles_eq_ok_iff.2 ⟨fs₂, hclear, rfl⟩)]
      refine .opened settings fs₂ (FileSystem.content?_of_change hclear)
        (FileSystem.exists_change_of_change hclear) fun p hp hpath => ?_
      have happart := (hfiles p hp).2 path hpath
      rw [FileSystem.content?_of_change_of_apart hclear happart, (hfiles p hp).1]

/-! ## The whole run -/

variable {words : List String}

/-- A run that has written nothing leaves the files as they are. -/
theorem finish_of_empty (ho : given? o.output = some path) (hs : s.written = "") (status : Status) :
    (o.finish s status).files = s.files ∧ (o.finish s status).status = status := by
  simp [finish, ho, hs]

/-- What a run has written is put behind what the file holds. -/
theorem finish_of_append (ho : given? o.output = some path) (hs : s.written ≠ "")
    {fs : FileSystem} (happend : s.files.append path s.written = .ok fs) (status : Status) :
    (o.finish s status).files = fs ∧ (o.finish s status).status = status := by
  simp [finish, ho, hs, happend]

/-- A run that does not open the file fails and leaves it as it was. -/
theorem run_of_closed (h : ofWords words = .ok o) (ho : o.StoresIn path) {status : Status}
    (hopen : o.openOutput path w.environment { files := w.files } = .error status s)
    (hs : s.written = "") :
    (run words w).status = status ∧ (run words w).files = s.files := by
  have hcarry : o.carryOut w { files := w.files } = .error status s := by
    rw [carryOut_of_storesIn ho, bind_error hopen]
  rw [run_eq_finish_of_error h hcarry]
  exact (finish_of_empty ho.output hs status).symm

/-- A run that opens the file and cannot collect the templates fails and leaves the file empty. -/
theorem run_of_opened_error (h : ofWords words = .ok o) (ho : o.StoresIn path)
    {settings : List Setting} {fs : FileSystem}
    (hopen : o.openOutput path w.environment { files := w.files } = .ok settings { files := fs })
    {status : Status} (hcollect : o.collect w.input { files := fs } = .error status s) :
    (run words w).status.exitCode = 1 ∧ (run words w).files = fs := by
  -- Collecting the templates has changed no file and written nothing.
  have hend := idle_collect o w.input { files := fs }
  have hcarry : o.carryOut w { files := w.files } = .error status s := by
    rw [carryOut_of_storesIn ho, bind_ok hopen, bind_error hcollect]
  rw [hcollect] at hend
  cases hend with
  | error _ messages hstatus =>
    obtain ⟨hfiles, hst⟩ := finish_of_empty (s := { files := fs, messages }) ho.output rfl status
    rw [run_eq_finish_of_error h hcarry]
    exact ⟨(congrArg Status.exitCode hst).trans hstatus, hfiles⟩

theorem storedText_ne_empty (ts : List Template) : storedText ts ≠ "" := by
  intro h
  have hlist := congrArg String.toList h
  simp [storedText] at hlist

/-- A run that opens the file and collects the templates leaves their document in it. -/
theorem run_of_opened_ok (h : ofWords words = .ok o) (ho : o.StoresIn path)
    {settings : List Setting} {fs : FileSystem}
    (hopen : o.openOutput path w.environment { files := w.files } = .ok settings { files := fs })
    (hempty : fs.content? path = some []) (hchange : ∀ f, ∃ fs', fs.change path f = .ok fs')
    {ts : List Template} (hcollect : o.collect w.input { files := fs } = .ok ts s) :
    (run words w).status.exitCode = 0 ∧
      (run words w).files.content? path = some (storedText ts).toUTF8.toList := by
  obtain rfl := (idle_collect o w.input).quiet hcollect
  -- Collecting the templates changes nothing, so the document is all that is written, to an empty
  -- file.
  have hcarry : o.carryOut w { files := w.files } =
      .ok () { files := fs, written := storedText ts } := by
    have happend : "" ++ storedText ts = storedText ts := String.empty_append
    rw [carryOut_of_storesIn ho, bind_ok hopen, bind_ok hcollect, ← happend]
    rfl
  obtain ⟨fs', hfs'⟩ := hchange (· ++ (storedText ts).toUTF8.toList)
  obtain ⟨hfiles, hstatus⟩ := finish_of_append
    (s := { files := fs, written := storedText ts }) ho.output (storedText_ne_empty ts) hfs' .done
  have hcontent := FileSystem.content?_of_change hfs'
  rw [run_eq_finish_of_ok h hcarry, hfiles, hstatus, hcontent, hempty]
  exact ⟨rfl, rfl⟩

/-- The document in the file is a list of all templates in order. -/
theorem ofString_storedText {lines : List String} {ts : List Template} (hts : TemplatesOf lines ts)
    (hshort : Json.Short (lines.flatMap String.toList).length) :
    Json.ofString (storedText ts) = .ok (.array (ts.map (·.toStored.toJson))) :=
  Json.ofString_toLines (.array _ (by simpa using plain_of_lines hts hshort))

/-- A command line that asks for storing in the file `F`. -/
theorem ofWords_emitAst_output :
    ofWords ["--emit-ast", "-o", "F"] = .ok { emit := true, output := some "F" } := by
  let words : List Word := [.option { flag? := some .emitAst, word := "--emit-ast" },
    .option { flag? := some .output, word := "-o", short := true }, .operand "F"]
  have hread : Word.readAll ["--emit-ast", "-o", "F"] = .ok words := rfl
  have hend (p : Progress) : p.takeWords [] = .ok p := by
    rw [Progress.takeWords]
    rfl
  have htake : Progress.takeWords {} words =
      .ok { options := { emit := true, output := some "F" } } :=
    Progress.takeWords_option_eq_ok_iff.2 ⟨_, _, rfl, rfl,
      Progress.takeWords_option_eq_ok_iff.2 ⟨_, _, rfl, rfl, hend _⟩⟩
  exact ofWords_eq hread htake rfl

end Options

open Options

/-- Storing the templates of the input in a file that takes no traces. Such a run ends well exactly
if it opens the file, reads its input to the end and finds a template on each line, and then the file
holds one document, the list of these templates in order. If the run fails, the file holds what it
has held, unless it has been opened: then it is empty. -/
theorem run_storing {words : List String} {o : Options} (h : ofWords words = .ok o)
    (hemit : o.emit = true) {path : String} (hpath : given? o.output = some path) (w : World)
    (hd : o.TracesApart w.files path) :
    let r := run words w
    let opened := o.openOutput path w.environment { files := w.files }
    (r.status.exitCode = 0 ∨ r.status.exitCode = 1) ∧
    (r.status.exitCode = 0 → ∃ settings s input ts, opened = .ok settings s ∧
      o.readInput w.input s = .ok input s ∧ input.fault = none ∧ TemplatesOf input.lines ts ∧
      r.files.content? path = some (storedText ts).toUTF8.toList ∧
      (Json.Short (input.lines.flatMap String.toList).length →
        Json.ofString (storedText ts) = .ok (.array (ts.map (·.toStored.toJson))))) ∧
    (r.status.exitCode = 1 →
      (∃ status s, opened = .error status s) ∧ r.files.content? path = w.files.content? path ∨
      (∃ settings s, opened = .ok settings s) ∧ r.files.content? path = some []) ∧
    ∀ settings s, opened = .ok settings s →
      (∀ p, o.TracesApart w.files p → w.files.Apart p path →
        s.files.content? p = w.files.content? p) ∧
      ∀ input ts, o.readInput w.input s = .ok input s → input.fault = none →
        TemplatesOf input.lines ts → r.status.exitCode = 0 := by
  intro r opened
  have hmode : o.stored = none := hasOneMode_of_ofWords h hemit
  have ho : o.StoresIn path := ⟨hemit, by rw [hmode]; rfl, hpath⟩
  have hend : OpenEnd o path w.files opened := openEnd_openOutput o path w.environment w.files
  generalize hopen : opened = result at hend
  -- The output file is opened or not. If it is, collecting the templates decides how the run ends.
  cases hend with
  | closed status messages fs₁ hstatus hsame =>
    obtain ⟨hr, hfiles⟩ := run_of_closed h ho hopen rfl
    have hexit : r.status.exitCode = 1 := (congrArg Status.exitCode hr).trans hstatus
    have hcontent : r.files.content? path = w.files.content? path :=
      (congrArg (·.content? path) hfiles).trans (hsame path hd)
    refine ⟨.inr hexit, fun hzero => ?_, fun _ => .inl ⟨⟨_, _, rfl⟩, hcontent⟩, nofun⟩
    rw [hexit] at hzero
    cases hzero
  | opened settings fs₂ hempty hchange hframe =>
    have hcollected := idle_collect o w.input { files := fs₂ }
    generalize hcollect : o.collect w.input { files := fs₂ } = collected at hcollected
    cases hcollected with
    | error status messages _ =>
      obtain ⟨hexit, hfiles⟩ := run_of_opened_error h ho hopen hcollect
      have hexit : r.status.exitCode = 1 := hexit
      have hcontent : r.files.content? path = some [] :=
        (congrArg (·.content? path) hfiles).trans hempty
      refine ⟨.inr hexit, fun hzero => ?_, fun _ => .inr ⟨⟨_, _, rfl⟩, hcontent⟩, ?_⟩
      · rw [hexit] at hzero
        cases hzero
      · rintro _ _ ⟨⟩
        refine ⟨hframe, fun input ts hinput hfault hts => ?_⟩
        rw [collect_eq_ok_iff.2 ⟨rfl, input, hinput, hfault, hts⟩] at hcollect
        cases hcollect
    | ok ts =>
      obtain ⟨hexit, hcontent⟩ := run_of_opened_ok h ho hopen hempty hchange hcollect
      have hexit : r.status.exitCode = 0 := hexit
      obtain ⟨-, input, hinput, hfault, hts⟩ := collect_eq_ok_iff.1 hcollect
      refine ⟨.inl hexit, fun _ => ⟨settings, _, input, ts, rfl, hinput, hfault, hts, hcontent,
        ofString_storedText hts⟩, fun hone => ?_, ?_⟩
      · rw [hexit] at hone
        cases hone
      · rintro _ _ ⟨⟩
        exact ⟨hframe, fun _ _ _ _ _ => hexit⟩

/-- The document of the input `a` takes the place of the list that the file has held. -/
theorem run_storing_letter :
    let w : World := { input := [97], files := { entries := [(["F"], .file [91, 93, 10])] } }
    ∃ t, Template.ofString "a" = .ok t ∧
      (run ["--emit-ast", "-o", "F"] w).status.exitCode = 0 ∧
      (run ["--emit-ast", "-o", "F"] w).files.content? "F" =
        some (storedText [t]).toUTF8.toList := by
  intro w
  obtain ⟨t, ht, -⟩ := Template.ofString_render (t := ⟨[.text "a"]⟩)
    ⟨by decide, by simp, trivial⟩ (by decide)
  have ht : Template.ofString "a" = .ok t := ht
  have hts : TemplatesOf (Input.ofBytes true w.input).lines [t] := .cons ht .nil
  obtain ⟨-, hzero, -, hgood⟩ := run_storing ofWords_emitAst_output rfl rfl w nofun
  have hexit := (hgood _ _ rfl).2 _ [t] rfl rfl hts
  obtain ⟨settings, s, input, ts, -, ⟨⟩, -, hts', hcontent, -⟩ := hzero hexit
  -- The templates of the lines are determined by the lines.
  obtain rfl : ts = [t] :=
    List.right_unique_forall₂' (fun _ _ _ hl hl' => Except.ok.inj (hl.symm.trans hl')) hts' hts
  exact ⟨t, ht, hexit, hcontent⟩

/-- The input `${:` is no template. That is found when the file has been opened, so the list that it
has held is lost. -/
theorem run_storing_openBrace :
    let w : World :=
      { input := [36, 123, 58], files := { entries := [(["F"], .file [91, 93, 10])] } }
    (run ["--emit-ast", "-o", "F"] w).status.exitCode = 1 ∧
      w.files.content? "F" = some [91, 93, 10] ∧
      (run ["--emit-ast", "-o", "F"] w).files.content? "F" = some [] := by
  intro w
  let o : Options := { emit := true, output := some "F" }
  have ho : o.StoresIn "F" := ⟨rfl, rfl, rfl⟩
  have hopen : o.openOutput "F" w.environment { files := w.files } =
      .ok _ { files := { entries := [(["F"], .file [])] } } := rfl
  -- The line is no template, so collecting the templates fails.
  obtain ⟨status, s, hcollect⟩ : ∃ status s,
      o.collect w.input { files := { entries := [(["F"], .file [])] } } = .error status s := by
    cases hcollect : o.collect w.input { files := { entries := [(["F"], .file [])] } } with
    | error status s => exact ⟨status, s, rfl⟩
    | ok ts s =>
      obtain ⟨-, _, ⟨⟩, -, hts⟩ := collect_eq_ok_iff.1 hcollect
      obtain ⟨t, ts, ht, -, -⟩ := List.forall₂_cons_left_iff.1 hts
      cases Template.ofString_openBrace_colon.symm.trans ht
  obtain ⟨hexit, hfiles⟩ := run_of_opened_error ofWords_emitAst_output ho hopen hcollect
  rw [hfiles]
  exact ⟨hexit, rfl, rfl⟩

end ParamExpansion.CommandLine
