import ParamExpansion.Proofs.Modes
import ParamExpansion.Proofs.RunSteps
import ParamExpansion.Proofs.StoredDocuments
import ParamExpansion.Proofs.StoredEvaluation
import ParamExpansion.Proofs.ViablePrefix

/-!
# Runs that store and runs that expand what is stored

Storing the templates of an input and expanding them later leaves behind what expanding the input
does: the same output and the same messages, also if an evaluation fails on the way. If a line of
the input is no template, nothing is stored, and the first such line is reported.

The runs that are compared find different files. Two such runs are alike as long as the files have
the same content where the runs read them: they write the same texts, and end with the same value or
for the same reason. Alike steps make alike runs.
-/

namespace ParamExpansion

/-! ## Files -/

/-- A file that can be read is not missing. -/
theorem FileSystem.isMissing_of_read {fs : FileSystem} {path : String} {content : List UInt8}
    (h : fs.read path = .ok content) : fs.isMissing path = false := by
  unfold read at h
  unfold isMissing
  cases hl : fs.locate path with
  | error e => rw [hl] at h; cases h
  | ok names =>
    rw [hl, ok_bind] at h
    rw [ok_bind]
    cases he : fs.lookUp names with
    | error e => rw [he] at h; cases h
    | ok entry =>
      rw [he, ok_bind] at h
      cases entry with
      | none => cases h
      | some entry => rfl

namespace CommandLine

/-! ## Runs that find different files -/

namespace RunM

variable {α β : Type} {fs fs' : FileSystem}

/-- Two ends of a part of a run that differ in nothing but the files. -/
inductive SameEnd (fs fs' : FileSystem) :
    EStateM.Result Status RunState α → EStateM.Result Status RunState α → Prop where
  | ok (a : α) (written messages : String) :
    SameEnd fs fs' (.ok a ⟨fs, written, messages⟩) (.ok a ⟨fs', written, messages⟩)
  | error (status : Status) (written messages : String) :
    SameEnd fs fs' (.error status ⟨fs, written, messages⟩) (.error status ⟨fs', written, messages⟩)

/-- Whether two parts of runs do the same with different files. -/
def Alike (fs fs' : FileSystem) (m m' : RunM α) : Prop :=
  ∀ written messages, SameEnd fs fs' (m ⟨fs, written, messages⟩) (m' ⟨fs', written, messages⟩)

/-! ## Alike steps -/

namespace Alike

theorem pure (a : α) : Alike fs fs' (pure a) (pure a) := fun _ _ => .ok _ _ _

theorem throw (status : Status) : Alike fs fs' (throw status : RunM α) (throw status) :=
  fun _ _ => .error _ _ _

theorem say (message : String) : Alike fs fs' (say message) (say message) := fun _ _ => .ok _ _ _

theorem write (text : String) : Alike fs fs' (write text) (write text) := fun _ _ => .ok _ _ _

/-- Parts of runs are alike if their steps are. -/
theorem bind {m m' : RunM α} {f f' : α → RunM β} (hm : Alike fs fs' m m')
    (hf : ∀ a, Alike fs fs' (f a) (f' a)) : Alike fs fs' (m >>= f) (m' >>= f') := by
  intro written messages
  have hsame := hm written messages
  generalize hr : m ⟨fs, written, messages⟩ = r, hr' : m' ⟨fs', written, messages⟩ = r' at hsame
  cases hsame with
  | ok a written' messages' =>
    rw [bind_ok hr, bind_ok hr']
    exact hf a written' messages'
  | error status written' messages' =>
    rw [bind_error hr, bind_error hr']
    exact .error _ _ _

theorem get_bind {f f' : RunState → RunM α}
    (h : ∀ written messages,
      Alike fs fs' (f ⟨fs, written, messages⟩) (f' ⟨fs', written, messages⟩)) :
    Alike fs fs' (get >>= f) (get >>= f') :=
  fun written messages => h written messages written messages

theorem fail (message : String) : Alike fs fs' (fail message : RunM α) (fail message) :=
  (say message).bind fun _ => throw .failed

theorem breakDown (cause : Breakdown) :
    Alike fs fs' (breakDown cause : RunM α) (breakDown cause) := throw _

theorem require (cause : Breakdown) (a? : Option α) :
    Alike fs fs' (require cause a?) (require cause a?) := by
  cases a? with
  | none => exact breakDown cause
  | some a => exact pure a

theorem mapM {f f' : α → RunM β} {as : List α} (h : ∀ a ∈ as, Alike fs fs' (f a) (f' a)) :
    Alike fs fs' (as.mapM f) (as.mapM f') := by
  induction as with
  | nil => exact pure []
  | cons a as ih =>
    rw [List.mapM_cons, List.mapM_cons]
    obtain ⟨ha, has⟩ := List.forall_mem_cons.1 h
    exact ha.bind fun b => (ih has).bind fun bs => pure (b :: bs)

theorem forM {f : α → RunM Unit} (h : ∀ a, Alike fs fs' (f a) (f a)) (as : List α) :
    Alike fs fs' (as.forM f) (as.forM f) := by
  induction as with
  | nil => exact pure ()
  | cons a as ih => exact (h a).bind fun _ => ih

end Alike

end RunM

/-! ## Settings -/

namespace Options

open RunM

variable {fs fs' : FileSystem}

/-- The same definitions are loaded from different files, or loading fails for the same reason. -/
theorem alike_loadFile {path : String}
    (h : Definition.load fs' (FileSystem.normalPath path) =
      Definition.load fs (FileSystem.normalPath path)) :
    Alike fs fs' (loadFile path) (loadFile path) := by
  refine .get_bind fun written messages => ?_
  simp only [h]
  split
  · exact .pure _
  · exact .breakDown _
  · exact .fail _

/-- The settings do not depend on the files, apart from the definitions in them. -/
theorem alike_settings {o : Options} (environment : List (String × String))
    (h : ∀ path, some path ∈ o.variableFiles →
      Definition.load fs' (FileSystem.normalPath path) =
        Definition.load fs (FileSystem.normalPath path)) :
    Alike fs fs' (o.settings environment) (o.settings environment) := by
  have hfile (path? : Option String) (hpath : path? ∈ o.variableFiles) :
      Alike fs fs' (do loadFile (← require .unnamedFile path?))
        (do loadFile (← require .unnamedFile path?)) := by
    -- Without a name nothing is loaded.
    cases path? with
    | none => exact .breakDown .unnamedFile
    | some path =>
      rw [require, pure_bind]
      exact alike_loadFile (h path hpath)
  unfold settings
  refine (Alike.mapM hfile).bind fun files => ?_
  refine (Alike.mapM fun _ _ => .require _ _).bind fun definitions => ?_
  exact .pure _

end Options

/-! ## The templates of an input -/

/-- Whether some lines form these templates. -/
def TemplatesOf (lines : List String) (ts : List Template) : Prop :=
  List.Forall₂ (fun l t => Template.ofString l = .ok t) lines ts

theorem exists_templatesOf {lines : List String}
    (h : ∀ l ∈ lines, ∃ t, Template.ofString l = .ok t) : ∃ ts, TemplatesOf lines ts := by
  induction lines with
  | nil => exact ⟨[], List.Forall₂.nil⟩
  | cons l lines ih =>
    obtain ⟨⟨t, ht⟩, hlines⟩ := List.forall_mem_cons.1 h
    obtain ⟨ts, hts⟩ := ih hlines
    exact ⟨t :: ts, List.Forall₂.cons ht hts⟩

namespace Options

open RunM

/-! ## Stored templates in a file -/

/-- The document that a run stores for the templates of an input. -/
def storedText (ts : List Template) : String :=
  (Json.array (ts.map (·.toStored.toJson))).toLines ++ "\n"

/-- The documents of the templates of lines are read back unless the lines are too long. -/
theorem plain_of_lines {lines : List String} {ts : List Template}
    (h : TemplatesOf lines ts)
    (hlines : Json.Short (lines.flatMap String.toList).length) :
    ∀ t ∈ ts, Json.Plain t.toStored.toJson := by
  induction h with
  | nil => simp
  | cons ht _ ih =>
    rw [List.flatMap_cons, List.length_append, String.length_toList] at hlines
    exact List.forall_mem_cons.2 ⟨Template.plain_toStored ht (hlines.of_le (Nat.le_add_right _ _)),
      ih (hlines.of_le (Nat.le_add_left _ _))⟩

/-- The stored templates are found in the file. -/
theorem readStored_storedText {ts : List Template} (hts : ∀ t ∈ ts, Json.Plain t.toStored.toJson)
    {path : String} {s : RunState}
    (hread : s.files.read path = .ok (storedText ts).toUTF8.toList) :
    readStored path s = .ok (ts.map (·.toStored.toJson)) s := by
  have hplain : Json.Plain (.array (ts.map (·.toStored.toJson))) :=
    .array _ (by simpa using hts)
  obtain ⟨cs, hcs, hdocument⟩ : ∃ cs, Text.Utf8.decode (storedText ts).toUTF8.toList = .ok cs ∧
      Json.ofString (String.ofList (Text.unifyNewlines cs)) = _ :=
    Json.exists_decode_toLines hplain
  have hmissing := FileSystem.isMissing_of_read hread
  unfold readStored
  rw [RunM.get_bind]
  simp only [hmissing, hread, hcs, hdocument]
  rfl

/-- The number of a line counts on from the stored one, as long as it has few digits. -/
theorem storedLine_natCast {n line : Nat} (h : Json.Short (n + line)) :
    storedLine line (.int n) = pure (.int (n + line : Nat)) := by
  have hdigits : ¬ Json.ReadM.maxDigits < (Nat.toDigits 10 ((n : Int) + line).natAbs).length := by
    have habs : ((n : Int) + line).natAbs = n + line := by omega
    rw [habs]
    exact Nat.not_lt.2 h
  simp only [storedLine, if_neg hdigits, Int.natCast_add]

/-- An error in a stored template is reported like one in the line itself. -/
theorem reportStored_toStored {α : Type} {line : Nat} {p : Position}
    (h : Json.Short (p.line + line)) (message : String) :
    (reportStored line (some p.toStored) (.string message) : RunM α) = report line p message := by
  simp only [reportStored, Option.getD_some, Position.toStored, storedLine_natCast h, pure_bind]
  rfl

/-! ## Expanding stored templates -/

variable {o : Options} {fs fs' : FileSystem} (emit : Bool) (stored : Option String)

/-- The traces are written to the standard error output in every mode. -/
theorem alike_trace (ho : given? o.debugFile = none) (lines : List String) :
    Alike fs fs' (o.trace lines) ((o.inMode emit stored).trace lines) := by
  have hmode : (o.inMode emit stored).trace lines = o.trace lines := rfl
  rw [hmode]
  unfold trace
  rw [ho]
  exact .forM .say lines

/-- The standard error output shows the whole trace of a stored template. -/
theorem traceStored_eq (ho : given? o.debugFile = none) (events : List (Event WideText)) :
    o.traceStored events = o.trace (events.map (·.line)) := by
  have hall : events.takeWhile (fun _ => true) = events :=
    List.takeWhile_eq_self_iff.2 fun _ _ => rfl
  unfold traceStored
  rw [ho]
  simp [hall]

/-- A line is expanded like its stored template. -/
theorem alike_expandStored_cons (ho : given? o.debugFile = none) (x : Expander) (path : String)
    {line : Nat} {text : String} {t : Template} (ht : Template.ofString text = .ok t)
    (hline : Json.Short (line + text.length)) {texts : List String}
    {documents : List Json}
    (h : Alike fs fs' (o.expandLines x (line + 1) texts)
      ((o.inMode emit stored).expandStored x path (line + 1) documents)) :
    Alike fs fs' (o.expandLines x line (text :: texts))
      ((o.inMode emit stored).expandStored x path line (t.toStored.toJson :: documents)) := by
  have hexpand : x.expand text = (x.evaluate t).mapError .eval := by rw [Expander.expand, ht]
  have hevents : (x.evaluateStored t.toStored).events.map (·.line) =
      (x.evaluate t).events.map (·.line) := by
    rw [x.evaluateStored_toStored]
    simp [Traced.toStored]
  have houtcome : (x.evaluateStored t.toStored).outcome =
      ((x.evaluate t).outcome.map WideText.plain).mapError EvalError.toStored := by
    rw [x.evaluateStored_toStored, Traced.toStored]
  rw [expandLines, expandStored, Template.ofJson_toStored, hexpand]
  dsimp only
  rw [traceStored_eq (o := o.inMode emit stored) ho, hevents, houtcome]
  refine (alike_trace emit stored ho _).bind fun _ => ?_
  rw [Traced.outcome_mapError]
  -- The number in a message counts lines on, so it has to be short enough to be reported.
  cases he : (x.evaluate t).outcome with
  | ok expansion => exact (Alike.write expansion).bind fun _ => h
  | error e =>
    have hp := Template.liesIn_of_mem_positions ht (Expander.position_mem_of_evaluate he)
    have hle := (hp.1.le_length hp.2).1
    have hshort : Json.Short (e.position.line + line) := hline.of_le (by omega)
    simp only [Except.map, mapError_error, EvalError.toStored, reportStored_toStored hshort]
    exact (Alike.fail _).bind fun _ => h

/-- Lines are expanded like their stored templates. -/
theorem alike_expandStored (ho : given? o.debugFile = none) (x : Expander) (path : String)
    {lines : List String} {ts : List Template}
    (h : TemplatesOf lines ts)
    (hne : ∀ l ∈ lines, l ≠ "") {line : Nat}
    (hline : Json.Short (line + (lines.flatMap String.toList).length)) :
    Alike fs fs' (o.expandLines x line lines)
      ((o.inMode emit stored).expandStored x path line (ts.map (·.toStored.toJson))) := by
  induction h generalizing line with
  | nil => exact .pure ()
  | @cons l t lines ts ht _ ih =>
    obtain ⟨hl, hlines⟩ := List.forall_mem_cons.1 hne
    -- A line has a character, so the characters that are left make up for the lines passed.
    have hpos : 0 < l.length := Nat.pos_of_ne_zero fun h0 => hl (String.length_eq_zero_iff.1 h0)
    rw [List.flatMap_cons, List.length_append, String.length_toList] at hline
    exact alike_expandStored_cons emit stored ho x path ht (hline.of_le (by omega))
      (ih hlines (hline.of_le (by omega)))

/-! ## Templates of lines -/

theorem templates_of_ok {lines : List String} {ts : List Template}
    (h : TemplatesOf lines ts) (line : Nat) :
    templates line lines = pure ts := by
  induction h generalizing line with
  | nil => rfl
  | cons ht _ ih =>
    rw [templates, ht]
    dsimp only
    rw [ih, pure_bind]

/-- The first line that is no template is reported. -/
theorem templates_of_error {before : List String} {ts : List Template}
    (h : TemplatesOf before ts) {l : String}
    {e : ParseError} (hl : Template.ofString l = .error e) (after : List String) (line : Nat) :
    templates line (before ++ l :: after) = report (line + before.length) e.position e.message := by
  induction h generalizing line with
  | nil => rw [List.nil_append, templates, hl]; rfl
  | cons ht _ ih =>
    rw [List.cons_append, templates, ht]
    dsimp only
    rw [ih, List.length_cons, Nat.add_assoc, Nat.add_comm 1]
    rfl

/-! ## Whole runs -/

/-- Whether a run reads the standard input and writes to the standard output and the standard error
output. -/
structure UsesStandardStreams (o : Options) : Prop where
  input : given? o.input = none
  output : given? o.output = none
  debugFile : given? o.debugFile = none

theorem UsesStandardStreams.inMode {o : Options} (h : o.UsesStandardStreams) (emit : Bool)
    (stored : Option String) : (o.inMode emit stored).UsesStandardStreams :=
  ⟨h.input, h.output, h.debugFile⟩

/-- Whether a world gives a run the same variables as another world, and holds a document. -/
structure Keeps (o : Options) (w w' : World) (path document : String) : Prop where
  environment : w'.environment = w.environment
  definitions : ∀ file, some file ∈ o.variableFiles →
    Definition.load w'.files (FileSystem.normalPath file) =
      Definition.load w.files (FileSystem.normalPath file)
  document : w'.files.read (FileSystem.normalPath path) = .ok document.toUTF8.toList

variable {w w' : World}

theorem carryOut_eq (h : o.UsesStandardStreams) :
    o.carryOut w = (do
      let settings ← o.settings w.environment
      o.produce (Expander.ofSettings settings) w.input) := by
  unfold carryOut
  rw [h.debugFile, h.output]

theorem readInput_eq (h : o.UsesStandardStreams) (bytes : List UInt8) :
    o.readInput bytes = pure (Input.ofBytes true bytes) := by
  unfold readInput
  rw [h.input]

theorem produce_of_plain (h : o.UsesStandardStreams) (hp : o.IsPlain) (x : Expander)
    {bytes : List UInt8} (hfault : (Input.ofBytes true bytes).fault = none) :
    o.produce x bytes = o.expandLines x 0 (Input.ofBytes true bytes).lines := by
  have hstored : given? o.stored = none := by rw [hp.stored]; rfl
  unfold produce
  rw [hstored]
  dsimp only
  rw [readInput_eq h, pure_bind, hp.emit, if_neg Bool.false_ne_true, checkInput, hfault]
  exact bind_pure _

theorem produce_emit (h : o.UsesStandardStreams) (x : Expander) (bytes : List UInt8) :
    (o.inMode true none).produce x bytes = (do
      let ts ← templates 0 (Input.ofBytes true bytes).lines
      checkInput (Input.ofBytes true bytes)
      write (storedText ts)) := by
  have hstored : given? (o.inMode true none).stored = none := rfl
  unfold produce
  rw [hstored]
  dsimp only
  rw [readInput_eq (h.inMode true none), pure_bind]
  rfl

theorem produce_stored {path : String} (hpath : path ≠ "") (x : Expander) (bytes : List UInt8) :
    (o.inMode false (some path)).produce x bytes = (do
      let documents ← readStored (FileSystem.normalPath path)
      (o.inMode false (some path)).expandStored x (FileSystem.normalPath path) 0 documents) := by
  have hstored : given? (o.inMode false (some path)).stored = some path :=
    Option.filter_some_pos (by simpa using hpath)
  unfold produce
  rw [hstored]

/-- Alike runs leave the same texts behind and end with the same status. -/
theorem run_of_sameEnd {words words' : List String} {o' : Options} (h : ofWords words = .ok o)
    (h' : ofWords words' = .ok o') (ho : given? o.output = none) (ho' : given? o'.output = none)
    (hr : SameEnd w.files w'.files (o.carryOut w { files := w.files })
      (o'.carryOut w' { files := w'.files })) :
    (run words' w').output = (run words w).output ∧
      (run words' w').messages = (run words w).messages ∧
      (run words' w').status = (run words w).status := by
  generalize hd : o.carryOut w { files := w.files } = r,
    hd' : o'.carryOut w' { files := w'.files } = r' at hr
  cases hr with
  | ok _ written messages => rw [run_of_ok h ho hd, run_of_ok h' ho' hd']; exact ⟨rfl, rfl, rfl⟩
  | error status written messages =>
    rw [run_of_error h ho hd, run_of_error h' ho' hd']
    exact ⟨rfl, rfl, rfl⟩

/-- A run that stores the templates of an input writes their document. -/
theorem output_run_emitAst {words : List String} (h : ofWords words = .ok o) (hp : o.IsPlain)
    (hs : o.UsesStandardStreams) {settings : List Setting} {s : RunState}
    (hsettings : o.settings w.environment { files := w.files } = .ok settings s)
    (hfault : (Input.ofBytes true w.input).fault = none) {ts : List Template}
    (hts : TemplatesOf (Input.ofBytes true w.input).lines ts) :
    (run ("--emit-ast" :: words) w).output = storedText ts := by
  obtain rfl : s = { files := w.files } := quiet_settings o w.environment hsettings
  have hcarry : (o.inMode true none).carryOut w { files := w.files } =
      .ok () { files := w.files, written := storedText ts } := by
    rw [carryOut_eq (hs.inMode true none)]
    refine (bind_ok hsettings _).trans ?_
    rw [produce_emit hs, templates_of_ok hts, pure_bind, checkInput, hfault]
    rfl
  rw [run_of_ok (ofWords_emitAst h hp) hs.output hcarry]

/-- The expansion of what has been stored does what the expansion of the lines does. -/
theorem sameEnd_carryOut (hp : o.IsPlain) (hs : o.UsesStandardStreams) {path : String}
    (hpath : path ≠ "") (hfault : (Input.ofBytes true w.input).fault = none)
    (hshort : Json.Short w.input.length) {ts : List Template}
    (hts : TemplatesOf (Input.ofBytes true w.input).lines ts) {document : String}
    (hkeeps : o.Keeps w w' path document)
    (hdocument : ∀ settings s, o.settings w.environment { files := w.files } = .ok settings s →
      document = storedText ts) :
    SameEnd w.files w'.files (o.carryOut w { files := w.files })
      ((o.inMode false (some path)).carryOut w' { files := w'.files }) := by
  have hsettings := alike_settings w.environment hkeeps.definitions "" ""
  rw [carryOut_eq hs, carryOut_eq (hs.inMode false (some path)), hkeeps.environment]
  -- Both runs read their settings first. If that fails, they end before anything else matters.
  generalize hr : o.settings w.environment ⟨w.files, "", ""⟩ = r,
    hr' : o.settings w.environment ⟨w'.files, "", ""⟩ = r' at hsettings
  have hr' : (o.inMode false (some path)).settings w.environment ⟨w'.files, "", ""⟩ = r' := hr'
  cases hsettings with
  | error status written messages =>
    rw [bind_error hr, bind_error hr']
    exact .error _ _ _
  | ok settings written messages =>
    obtain ⟨-, rfl, rfl⟩ := RunState.mk.inj (quiet_settings o w.environment hr)
    -- The same settings let the storing run go on to its document, so that is what is read.
    have hread := hdocument _ _ hr ▸ hkeeps.document
    have hlines := hshort.of_le (Input.length_flatMap_lines_le hfault)
    have hplain := plain_of_lines hts hlines
    have hstored := readStored_storedText hplain (s := ⟨w'.files, "", ""⟩) hread
    rw [bind_ok hr, bind_ok hr', produce_of_plain hs hp _ hfault, produce_stored hpath,
      bind_ok hstored]
    have hne : ∀ l ∈ (Input.ofBytes true w.input).lines, l ≠ "" :=
      fun l hl => Input.ne_empty_of_mem_lines hfault hl
    exact alike_expandStored _ _ hs.debugFile _ _ hts hne (by rwa [Nat.zero_add]) "" ""

/-- A run that stores templates reports the first line that is none, and writes nothing. -/
theorem carryOut_emitAst_of_error (hs : o.UsesStandardStreams) {settings : List Setting}
    {s : RunState} (hsettings : o.settings w.environment { files := w.files } = .ok settings s)
    {before after : List String} {l : String} {ts : List Template} {e : ParseError}
    (hlines : (Input.ofBytes true w.input).lines = before ++ l :: after)
    (hts : TemplatesOf before ts)
    (hl : Template.ofString l = .error e) :
    (o.inMode true none).carryOut w { files := w.files } = .error .failed
      { files := w.files,
        messages := s!"{e.position.line + before.length}:{e.position.col} {e.message}\n" } := by
  obtain rfl : s = { files := w.files } := quiet_settings o w.environment hsettings
  rw [carryOut_eq (hs.inMode true none)]
  refine (bind_ok hsettings _).trans ?_
  -- The lines before the faulty one are templates, so it is the one that is reported.
  rw [produce_emit hs, hlines, templates_of_error hts hl, Nat.zero_add]
  refine (bind_error (report_eq _ _ _ _) _).trans ?_
  rw [String.empty_append]
  rfl

end Options

open Options RunM

/-- Storing the templates of the input and expanding them later, with the same variables, does what
expanding the input does: the output, the messages and the status are the same. The numbers in the
document have to be short enough to be read, and they are if the size of the input is. If a line is
no template, nothing is stored, and the first such line is reported. -/
theorem run_stored {words : List String} {o : Options} (h : ofWords words = .ok o) (hp : o.IsPlain)
    (hs : o.UsesStandardStreams) (w : World) :
    (∀ path w', path ≠ "" → path.toList.head? ≠ some '-' →
      (Input.ofBytes true w.input).fault = none →
      (∀ l ∈ (Input.ofBytes true w.input).lines, ∃ t, Template.ofString l = .ok t) →
      Json.Short w.input.length →
      o.Keeps w w' path (run ("--emit-ast" :: words) w).output →
      (run ("--ast" :: path :: words) w').output = (run words w).output ∧
        (run ("--ast" :: path :: words) w').messages = (run words w).messages ∧
        (run ("--ast" :: path :: words) w').status = (run words w).status) ∧
    ∀ before l after e settings s,
      (Input.ofBytes true w.input).lines = before ++ l :: after →
      (∀ m ∈ before, ∃ t, Template.ofString m = .ok t) → Template.ofString l = .error e →
      o.settings w.environment { files := w.files } = .ok settings s →
      (run ("--emit-ast" :: words) w).output = "" ∧
        (run ("--emit-ast" :: words) w).status.exitCode = 1 ∧
        (run ("--emit-ast" :: words) w).messages =
          s!"{e.position.line + before.length}:{e.position.col} {e.message}\n" := by
  -- Either all lines are templates, or one of them is the first that is none.
  constructor
  · -- The stored file holds what was written, so the two runs differ only in where the templates
    -- come from.
    intro path w' hpath hdash hfault hlines hshort hkeeps
    obtain ⟨ts, hts⟩ := exists_templatesOf hlines
    have hdocument : ∀ settings s, o.settings w.environment { files := w.files } = .ok settings s →
        (run ("--emit-ast" :: words) w).output = storedText ts :=
      fun settings s hset => output_run_emitAst h hp hs hset hfault hts
    exact run_of_sameEnd h (ofWords_ast h hp hdash) hs.output hs.output
      (sameEnd_carryOut hp hs hpath hfault hshort hts hkeeps hdocument)
  · intro before l after e settings s hlines hbefore hl hset
    obtain ⟨ts, hts⟩ := exists_templatesOf hbefore
    have hcarry := carryOut_emitAst_of_error hs hset hlines hts hl
    rw [run_of_error (ofWords_emitAst h hp) hs.output hcarry]
    exact ⟨rfl, rfl, rfl⟩

/-- The input `${x?}`, whose evaluation fails, and the input `${:`, which is no template. -/
theorem run_stored_withError :
    ∃ w w' : World, (Input.ofBytes true w.input).lines = ["$\x7bx?\x7d"] ∧
      w'.files.read "d" = .ok (run ["--emit-ast"] w).output.toUTF8.toList ∧
      ((run ["--ast", "d"] w').output = (run [] w).output ∧
        (run ["--ast", "d"] w').messages = (run [] w).messages ∧
        (run ["--ast", "d"] w').status = (run [] w).status) ∧
      (run ["--emit-ast"] { input := [36, 123, 58] }).messages =
        "1:4 Expected identifier, found ':'\n" := by
  have hplain : IsPlain {} := ⟨rfl, rfl⟩
  have hstreams : UsesStandardStreams {} := ⟨rfl, rfl, rfl⟩
  let w : World := { input := [36, 123, 120, 63, 125] }
  let document := (run ["--emit-ast"] w).output
  have hread (content : List UInt8) : FileSystem.read
      { entries := [(["d"], .file content)] } (FileSystem.normalPath "d") = .ok content := rfl
  have hlines : (Input.ofBytes true w.input).lines = ["$\x7bx?\x7d"] := rfl
  -- The line is the text of a well formed template.
  have ht : ∃ t, Template.ofString "$\x7bx?\x7d" = .ok t := by
    have hname : (Identifier.named "x").WellFormed :=
      ⟨'x', [], rfl, by decide, List.forall_mem_singleton.2 rfl⟩
    obtain ⟨t, ht, -⟩ := Template.ofString_render
      (t := ⟨[.withError (.named "x") none false .start]⟩) ⟨⟨hname, by simp⟩, trivial⟩ (by decide)
    exact ⟨t, ht⟩
  have hstored := (run_stored ofWords_nil hplain hstreams w).1 "d"
    { files := { entries := [(["d"], .file document.toUTF8.toList)] } } (by decide) (by decide) rfl
    (by rw [hlines]; simpa using ht)
    (by decide : (Nat.toDigits 10 5).length ≤ Json.ReadM.maxDigits)
    ⟨rfl, by simp, hread _⟩
  have herror := (run_stored ofWords_nil hplain hstreams { input := [36, 123, 58] }).2 [] _ [] _ _ _ rfl
    (by simp) Template.ofString_openBrace_colon rfl
  exact ⟨_, _, hlines, hread _, hstored, herror.2.2⟩

end CommandLine

end ParamExpansion
