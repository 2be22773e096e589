import ParamExpansion.Proofs.FailingParameters
import ParamExpansion.Proofs.Files
import ParamExpansion.Proofs.LineErrors
import ParamExpansion.Proofs.Modes
import ParamExpansion.Proofs.Precedence
import ParamExpansion.Proofs.Rendering
import ParamExpansion.Proofs.RunSteps
import ParamExpansion.Proofs.Traces

/-!
# Runs that expand the standard input

A run expands its input line by line and stops at the first line that has no expansion. What the
lines before it expand to has been written then, nothing of the line itself, and the report gives the
place of the error in the input.
-/

namespace ParamExpansion

/-! ## Lines of a stream -/

namespace Text

theorem unifyNewlines_cons {c : Char} (h : c ≠ '\r') (cs : List Char) :
    unifyNewlines (c :: cs) = c :: unifyNewlines cs := by
  rw [unifyNewlines]
  · simp [h]
  · simp [h]

/-- Making the ends of lines alike before or after cutting gives the same lines. -/
theorem map_unifyNewlines_streamLines (cs : List Char) :
    (streamLines cs).map unifyNewlines = cutLines (unifyNewlines cs) := by
  fun_induction streamLines cs with
  | case1 cs ih => simp [unifyNewlines, cutLines, ih]
  | case2 => rfl
  -- A carriage return ends the line only because no line feed follows it.
  | case3 c cs hnot hc ih =>
    have hsingle : unifyNewlines [c] = ['\n'] := by rcases hc with rfl | rfl <;> rfl
    have hcons : unifyNewlines (c :: cs) = '\n' :: unifyNewlines cs := by
      rcases hc with rfl | rfl
      · exact unifyNewlines_cons (by decide) cs
      · rw [unifyNewlines]
        exact fun ds hds => hnot ds rfl hds
    rw [List.map_cons, hsingle, ih, hcons, cutLines, if_pos rfl]
  -- Another character comes in front of the first line on both sides.
  | case4 c cs hnot hc ih =>
    simp only [not_or] at hc
    rw [unifyNewlines_cons hc.2, cutLines, if_neg hc.1, ← ih]
    cases streamLines cs with
    | nil =>
      rw [prependToFirst, List.map_singleton, unifyNewlines_cons hc.2]
      rfl
    | cons line lines => simp [prependToFirst, unifyNewlines_cons hc.2]

end Text

namespace CommandLine

open RunM

/-- The lines of an input that is a text are those of the text, with line feeds at their ends. -/
theorem Input.ofBytes_of_decode {bytes : List UInt8} {cs : List Char}
    (h : Text.Utf8.decode bytes = .ok cs) : ofBytes true bytes =
      { lines := Text.lines (String.ofList (Text.unifyNewlines cs)) } := by
  unfold ofBytes
  rw [h]
  simp only [if_pos, Text.lines, String.toList_ofList, ← Text.map_unifyNewlines_streamLines,
    List.map_map]
  rfl

namespace Options

/-- Whether a run expands the standard input to the standard output and writes no trace. -/
structure ExpandsStream (o : Options) : Prop where
  input : given? o.input = none
  output : given? o.output = none
  stored : given? o.stored = none
  emit : o.emit = false
  verbosity : o.verbosity = 0

/-- What a run does before it turns to its input: the file for traces is opened, and the variables are
read. -/
def prepare (o : Options) (environment : List (String × String)) : RunM (List Setting) := do
  match given? o.debugFile with
  | some path => changeFiles (·.clear path)
  | none => pure ()
  o.settings environment

variable {o : Options} {x : Expander} {s s' : RunState}

/-! ## Traces -/

/-- Whether the file for traces, if there is one, can be written to. -/
def CanTrace (o : Options) (fs : FileSystem) : Prop :=
  ∀ path, given? o.debugFile = some path → ∃ fs', fs.append path "" = .ok fs'

/-- A trace without lines leaves everything but the files as it is. -/
theorem trace_nil (h : o.CanTrace s.files) :
    ∃ fs, o.trace [] s = .ok () { s with files := fs } ∧ o.CanTrace fs := by
  unfold trace
  cases hfile : given? o.debugFile with
  | none => exact ⟨s.files, rfl, h⟩
  | some path =>
    obtain ⟨fs, hfs⟩ := h path hfile
    refine ⟨fs, ?_, ?_⟩
    · -- Appending nothing to the file still changes the file system.
      have hlines : String.join (([] : List String).map (· ++ "\n")) = "" := rfl
      dsimp only
      rw [hlines, changeFiles, get_bind, hfs]
      rfl
    · intro path' hpath'
      obtain rfl : path = path' := by simpa [hfile] using hpath'
      exact FileSystem.exists_change_of_change hfs _

theorem changeFiles_eq_ok_iff {change : FileSystem → Except FileError FileSystem} :
    changeFiles change s = .ok () s' ↔ ∃ fs, change s.files = .ok fs ∧ s' = { s with files := fs } := by
  rw [changeFiles, get_bind]
  cases change s.files with
  | error e => exact ⟨nofun, nofun⟩
  | ok fs =>
    constructor
    · rintro ⟨⟩
      exact ⟨fs, rfl, rfl⟩
    · rintro ⟨fs', ⟨⟩, rfl⟩
      rfl

/-- A prepared run has written nothing, it can write traces, and its settings are those of the command
line. -/
theorem prepare_eq_ok {environment : List (String × String)} {fs : FileSystem}
    {settings : List Setting} (h : o.prepare environment { files := fs } = .ok settings s) :
    s.written = "" ∧ s.messages = "" ∧ o.CanTrace s.files ∧
      (Expander.ofSettings settings).verbosity = o.verbosity := by
  -- Clearing the file for the trace writes nothing, and the file can be appended to from then on.
  obtain ⟨t, hwritten, hmessages, htrace, hsettings⟩ : ∃ t : RunState, t.written = "" ∧
      t.messages = "" ∧ o.CanTrace t.files ∧ o.settings environment t = .ok settings s := by
    unfold prepare at h
    cases hfile : given? o.debugFile with
    | none =>
      rw [hfile] at h
      exact ⟨_, rfl, rfl, fun path hpath => by simp [hfile] at hpath, h⟩
    | some path =>
      rw [hfile] at h
      obtain ⟨⟨⟩, t, hclear, hsettings⟩ := bind_eq_ok_iff.1 h
      obtain ⟨fs', hfs', rfl⟩ := changeFiles_eq_ok_iff.1 hclear
      refine ⟨_, rfl, rfl, ?_, hsettings⟩
      intro path' hpath'
      obtain rfl : path = path' := by simpa [hfile] using hpath'
      exact FileSystem.exists_change_of_change hfs' _
  -- Settling the variables changes no file and sets the verbosity once.
  obtain ⟨rfl, files, definitions, -, -, -, rfl⟩ := settings_eq_ok_iff.1 hsettings
  refine ⟨hwritten, hmessages, htrace, ?_⟩
  rw [(Expander.isSetBy_ofSettings _).verbosity, verbosity_settingsOf]
  rfl

/-! ## Expanding lines -/

/-- A line that has an expansion is expanded, and the run goes on. -/
theorem expandLines_cons_of_ok (hx : x.verbosity = 0) (hs : o.CanTrace s.files) {text value : String}
    (h : (x.expand text).outcome = .ok value) (line : Nat) (texts : List String) :
    ∃ fs, o.CanTrace fs ∧ o.expandLines x line (text :: texts) s =
      o.expandLines x (line + 1) texts { s with files := fs, written := s.written ++ value } := by
  obtain ⟨fs, htrace, hfs⟩ := trace_nil hs
  refine ⟨fs, hfs, ?_⟩
  rw [expandLines]
  dsimp only
  rw [Expander.events_expand_eq_nil hx, h]
  exact bind_ok htrace _

/-- A line that has no expansion is reported, and nothing is written for it. -/
theorem expandLines_cons_of_error (hx : x.verbosity = 0) (hs : o.CanTrace s.files) {text : String}
    {e : ExpansionError} (h : (x.expand text).outcome = .error e) (line : Nat)
    (texts : List String) : ∃ fs, o.expandLines x line (text :: texts) s = .error .failed
      { s with
        files := fs
        messages := s.messages ++
          s!"{e.position.line + line}:{e.position.col} {e.message}" ++ "\n" } := by
  obtain ⟨fs, htrace, -⟩ := trace_nil hs
  refine ⟨fs, ?_⟩
  rw [expandLines]
  dsimp only
  rw [Expander.events_expand_eq_nil hx, h]
  exact bind_ok htrace _

/-- As long as the lines have expansions, these are written one after the other. -/
theorem expandLines_append (hx : x.verbosity = 0) (hs : o.CanTrace s.files)
    {texts values : List String}
    (h : texts.map (fun l => (x.expand l).outcome) = values.map .ok) (line : Nat)
    (more : List String) : ∃ fs, o.CanTrace fs ∧ o.expandLines x line (texts ++ more) s =
      o.expandLines x (line + texts.length) more
        { s with files := fs, written := s.written ++ String.join values } := by
  -- The induction is on the lines that expand. Each one adds its value and may add to the trace.
  induction texts generalizing values line s with
  | nil =>
    obtain rfl : values = [] := by simpa using h.symm
    exact ⟨s.files, hs, by simp⟩
  | cons text texts ih =>
    obtain ⟨value, values, rfl, hvalue, hvalues⟩ := List.map_eq_cons_iff.1 h.symm
    obtain ⟨fs, hfs, hfirst⟩ := expandLines_cons_of_ok hx hs hvalue.symm line (texts ++ more)
    obtain ⟨fs', hfs', hrest⟩ := ih (s := { s with files := fs, written := s.written ++ value }) hfs
      hvalues.symm (line + 1)
    refine ⟨fs', hfs', ?_⟩
    rw [List.cons_append, hfirst, hrest]
    simp [String.append_assoc, Nat.add_comm, Nat.add_left_comm]

/-! ## Whole runs -/

variable {w : World}

theorem carryOut_eq_prepare (ho : given? o.output = none) :
    o.carryOut w = (do
      let settings ← o.prepare w.environment
      o.produce (Expander.ofSettings settings) w.input) := by
  unfold carryOut prepare
  rw [ho]
  cases given? o.debugFile with
  | none => rfl
  | some path => exact (bind_assoc _ _ _).symm

theorem produce_of_decode (ho : o.ExpandsStream) (x : Expander) {bytes : List UInt8} {cs : List Char}
    (hd : Text.Utf8.decode bytes = .ok cs) : o.produce x bytes =
      o.expandLines x 0 (Text.lines (String.ofList (Text.unifyNewlines cs))) := by
  have hinput : o.readInput bytes = pure (Input.ofBytes true bytes) := by
    unfold readInput
    rw [ho.input]
  unfold produce
  rw [ho.stored]
  dsimp only
  rw [hinput, pure_bind, ho.emit, if_neg Bool.false_ne_true, Input.ofBytes_of_decode hd]
  exact bind_pure _

end Options

open Options

/-- Expanding the standard input. If every line has an expansion, these are written one after the
other. Otherwise those of the lines before the first one without are written, and the report gives the
number of this line with the column and the message of its own error: an error of a single line lies
on this line, no further than behind its last character. That of an evaluation lies at the dollar sign
of a parameter, which is the first one evaluated for the line whose own lookup fails. -/
theorem run_lines {words : List String} {o : Options} (h : ofWords words = .ok o)
    (ho : o.ExpandsStream) {w : World} {settings : List Setting} {s : RunState}
    (hp : o.prepare w.environment { files := w.files } = .ok settings s) {cs : List Char}
    (hd : Text.Utf8.decode w.input = .ok cs) :
    let x := Expander.ofSettings settings
    let lines := Text.lines (String.ofList (Text.unifyNewlines cs))
    (∀ values : List String, lines.map (fun l => (x.expand l).outcome) = values.map .ok →
      (run words w).status.exitCode = 0 ∧ (run words w).messages = "" ∧
        (run words w).output = String.join values) ∧
    ∀ before l after values e, lines = before ++ l :: after →
      before.map (fun l => (x.expand l).outcome) = values.map .ok →
      (x.expand l).outcome = .error e →
      (run words w).status.exitCode = 1 ∧
        (run words w).messages = s!"{before.length + 1}:{e.position.col} {e.message}\n" ∧
        (run words w).output = String.join values ∧
        e.position.line = 1 ∧ e.position.col ≤ (Text.body l).length + 1 ∧
        ∀ d, e = .eval d → l.toList[e.position.col - 1]? = some '$' ∧
          ∃ t visited n rest, Template.ofString l = .ok t ∧
            t.nodes.flatMap x.visited = visited ++ n :: rest ∧ (∀ m ∈ visited, ¬ x.Fails m) ∧
            x.Fails n ∧ n.position? = some e.position ∧
            t.parameters.filter (·.position? = some e.position) = [n] := by
  intro x lines
  obtain ⟨hwritten, hmessages, htrace, hverbosity⟩ := prepare_eq_ok hp
  have hx : x.verbosity = 0 := hverbosity.trans ho.verbosity
  -- Once it is prepared, the run expands the lines from the first one on.
  have hrun : o.carryOut w { files := w.files } = o.expandLines x 0 lines s := by
    rw [carryOut_eq_prepare ho.output, bind_ok hp, produce_of_decode ho x hd]
  constructor
  · intro values hvalues
    obtain ⟨fs, -, hlines⟩ := expandLines_append hx htrace hvalues 0 []
    rw [List.append_nil] at hlines
    rw [run_of_ok h ho.output (hrun.trans hlines), hwritten, hmessages]
    exact ⟨rfl, rfl, String.empty_append⟩
  · intro before l after values e hl hbefore he
    have hline : Text.IsLine l := Text.isLine_of_mem_lines (hl ▸ List.mem_append_cons_self)
    obtain ⟨hfirst, hcol, hdollar⟩ := Expander.error_on_line hline he
    -- What the lines before it have written stays, and the line itself only adds its report.
    obtain ⟨fs, hfs, hlines⟩ := expandLines_append hx htrace hbefore 0 (l :: after)
    obtain ⟨fs', hend⟩ := expandLines_cons_of_error
      (s := { s with files := fs, written := s.written ++ String.join values }) hx hfs he
      before.length after
    rw [← hl, Nat.zero_add, hend] at hlines
    rw [run_of_error h ho.output (hrun.trans hlines), hwritten, hmessages, hfirst]
    refine ⟨rfl, ?_, String.empty_append, rfl, hcol, ?_⟩
    · dsimp only
      rw [String.empty_append, Nat.add_comm 1]
      rfl
    · intro d hd
      refine ⟨hdollar d hd, ?_⟩
      subst hd
      exact Expander.exists_first_failure he

/-- A line without a parameter is its own expansion. -/
theorem outcome_expand_a (x : Expander) : (x.expand "a\n").outcome = .ok "a\n" := by
  obtain ⟨u, hu, hs⟩ := Template.ofString_render (t := ⟨[.text "a\n"]⟩)
    ⟨by decide, by simp, trivial⟩ (by decide)
  have hnodes : u.nodes.map Node.unplaced = [.text "a\n"] := congrArg Template.nodes hs
  obtain ⟨n, hn, htext⟩ := List.map_eq_singleton_iff.1 hnodes
  obtain rfl : n = .text "a\n" := by cases n <;> simp_all [Node.unplaced]
  have hexpand := x.outcome_expand_of_ok hu
  rw [hn] at hexpand
  exact hexpand

/-- The input `a` and `${:`, whose second line is no template, and the input `a` and `${a-$b}`, whose
second line lacks the value of the parameter in the default. -/
theorem run_lines_openBrace :
    (let w : World := { input := [97, 10, 36, 123, 58] }
    (run [] w).status.exitCode = 1 ∧ (run [] w).output = "a\n" ∧
      (run [] w).messages = "2:4 Expected identifier, found ':'\n") ∧
    let w : World := { input := [97, 10, 36, 123, 97, 45, 36, 98, 125] }
    (run ["-u"] w).status.exitCode = 1 ∧ (run ["-u"] w).output = "a\n" ∧
      (run ["-u"] w).messages = "2:5 'b' is unset\n" ∧
      ∃ t n, Template.ofString "$\x7ba-$b\x7d" = .ok t ∧
        t.parameters.filter (·.position? = some ⟨4, 1, 5⟩) = [n] ∧
        Expander.Fails { values := { strict := true } } n := by
  -- Once a line is no template, and once it lacks a value.
  constructor
  · intro w
    have hstream : ExpandsStream {} := ⟨rfl, rfl, rfl, rfl, rfl⟩
    have hprepare : prepare {} w.environment { files := w.files } =
        .ok (settingsOf {} [] [] []) { files := w.files } := rfl
    have hdecode : Text.Utf8.decode w.input = .ok ['a', '\n', '$', '\x7b', ':'] := rfl
    let x := Expander.ofSettings (settingsOf {} [] [] [])
    have hsecond : (x.expand "$\x7b:").outcome =
        .error (.parse ⟨.expectedIdentifier (some (.mark .colon)), ⟨3, 1, 4⟩⟩) := by
      rw [Expander.expand, Template.ofString_openBrace_colon]
      rfl
    have hfailure := (run_lines ofWords_nil hstream hprepare hdecode).2 ["a\n"] "$\x7b:" [] ["a\n"] _
      rfl (congrArg (fun outcome => [outcome]) (outcome_expand_a x)) hsecond
    exact ⟨hfailure.1, hfailure.2.2.1, hfailure.2.1⟩
  · intro w
    have hstream : ExpandsStream { strict := true } := ⟨rfl, rfl, rfl, rfl, rfl⟩
    have hprepare : prepare { strict := true } w.environment { files := w.files } =
        .ok (settingsOf { strict := true } [] [] []) { files := w.files } := rfl
    have hdecode : Text.Utf8.decode w.input =
        .ok ['a', '\n', '$', '\x7b', 'a', '-', '$', 'b', '\x7d'] := rfl
    let x := Expander.ofSettings (settingsOf { strict := true } [] [] [])
    have hsecond : (x.expand "$\x7ba-$b\x7d").outcome =
        .error (.eval ⟨.unset (.named "b") false, ⟨4, 1, 5⟩⟩) := by
      rw [Expander.outcome_expand_of_ok x Template.ofString_default]
      rfl
    obtain ⟨hexit, hmessages, houtput, -, -, hfirst⟩ :=
      (run_lines ofWords_noUnset hstream hprepare hdecode).2 ["a\n"] "$\x7ba-$b\x7d" [] ["a\n"] _
        rfl (congrArg (fun outcome => [outcome]) (outcome_expand_a x)) hsecond
    obtain ⟨-, t, _, n, _, ht, -, -, hfails, -, hone⟩ := hfirst _ rfl
    exact ⟨hexit, houtput, hmessages, t, n, ht, hone, hfails⟩

end CommandLine

end ParamExpansion
