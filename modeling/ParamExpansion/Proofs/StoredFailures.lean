import ParamExpansion.Proofs.StoredRuns
import ParamExpansion.Proofs.SuitedValues

/-!
# How the expansion of stored templates ends

Documents are expanded one after the other, up to the first one that cannot be. It is reported if it
is no stored template, or if the template lacks a value. Without a report a run breaks down where an
identifier is no object, where values are not of the kinds that a template holds, where the text of a
template holds a lone surrogate, and where a number has too many digits.
-/

namespace ParamExpansion

open Stored (CountsOn)

/-! ## Documents -/

namespace Stored

/-- The value that is so many lines further on. -/
def countOn (lines : Nat) : Json → Json
  | .int n => .int (n + lines)
  | .bool b => .int (b.toInt + lines)
  | .float x => .float ⟨(Float.ofBits x.bits + Float.ofNat lines).toBits⟩
  | value => value

/-- Whether a document, behind so many others, is read without finding an identifier that is no
object, and if it is a stored template, whether its values are of the right kinds. -/
structure SuitedDocument (lines : Nat) (document : Json) : Prop where
  object : ∀ found, Node.ofJson document ≠ .error (.identifierNotObject found)
  values : ∀ n, Node.ofJson document = .ok n → n.AllSuited lines

/-- The text of a suited template can be written. -/
theorem SuitedDocument.isPlain {lines : Nat} {document : Json} {n : Node} {text : WideText}
    (h : SuitedDocument lines document) (hn : Node.ofJson document = .ok n) {x : Expander}
    (he : (x.evaluateStored n).outcome = .ok text) : text.isPlain := by
  have hlands := lands_evaluateStored x (h.values n hn)
  rwa [Run.Lands, he] at hlands

/-- A suited template fails only in lacking a value, and that can be reported. -/
theorem SuitedDocument.exists_lacking {lines : Nat} {document : Json} {n : Node} {e : EvalError}
    (h : SuitedDocument lines document) (hn : Node.ofJson document = .ok n) {x : Expander}
    (he : (x.evaluateStored n).outcome = .error e) :
    ∃ message place?, e = .lacking message place? ∧ Place.Suited lines place? := by
  have hlands := lands_evaluateStored x (h.values n hn)
  rwa [Run.Lands, he] at hlands

end Stored

namespace Expander

variable (x : Expander)

/-- Whether a document is expanded to a text, which can be written. -/
def Expands (document : Json) (text : String) : Prop :=
  ∃ n, Stored.Node.ofJson document = .ok n ∧ (x.evaluateStored n).outcome = .ok (.plain text)

/-- The lines of the trace for a document. -/
def traceOf (document : Json) : String :=
  match Stored.Node.ofJson document with
  | .ok n => String.join ((x.evaluateStored n).events.map (·.line ++ "\n"))
  | .error _ => ""

/-- The documents that are expanded, one by one, up to the first one that is not. -/
theorem exists_expanded (documents : List Json) : ∃ before texts rest,
    documents = before ++ rest ∧ List.Forall₂ x.Expands before texts ∧
    ∀ document ∈ rest.head?, ∀ text, ¬ x.Expands document text := by
  induction documents with
  | nil => exact ⟨[], [], [], rfl, .nil, by simp⟩
  | cons document documents ih =>
    -- The first document that does not expand divides the documents.
    by_cases h : ∃ text, x.Expands document text
    · obtain ⟨text, htext⟩ := h
      obtain ⟨before, texts, rest, rfl, hbefore, hrest⟩ := ih
      exact ⟨document :: before, text :: texts, rest, rfl, .cons htext hbefore, hrest⟩
    · refine ⟨[], [], document :: documents, rfl, .nil, ?_⟩
      rintro document' ⟨⟩ text htext
      exact h ⟨text, htext⟩

end Expander

namespace CommandLine

/-- What is reported of a template that lacks a value, behind so many other lines. -/
def lackingReport (lines : Nat) (message : Json) (place? : Option Stored.Place) : String :=
  let place := Stored.Place.orStart place?
  s!"{(Stored.countOn lines place.line).label}:{place.col.label} {message.label}\n"

/-- How the expansion of stored templates goes on behind so many documents that have been expanded:
which documents are left, how the run ends, and what it reports. -/
inductive Ending (x : Expander) (path : String) (lines : Nat) :
    List Json → Status → String → Prop where
  /-- Nothing is left. -/
  | done : Ending x path lines [] .done ""
  /-- The next document is no stored template. -/
  | invalid {document : Json} {documents : List Json} {e : Stored.DecodeError}
      (he : Stored.Node.ofJson document = .error e)
      (hobject : ∀ found, e ≠ .identifierNotObject found) :
      Ending x path lines (document :: documents) .failed
        s!"Error: invalid AST #{lines + 1} in {path}: {e.message}\n"
  /-- The next template lacks a value. -/
  | lacking {document : Json} {documents : List Json} {n : Stored.Node} {message : Json}
      {place? : Option Stored.Place} (hn : Stored.Node.ofJson document = .ok n)
      (he : (x.evaluateStored n).outcome = .error (.lacking message place?))
      (hplace : Stored.Place.Suited lines place?) :
      Ending x path lines (document :: documents) .failed (lackingReport lines message place?)
  /-- An identifier of the next document is no object. -/
  | noObject {document found : Json} {documents : List Json}
      (he : Stored.Node.ofJson document = .error (.identifierNotObject found)) :
      Ending x path lines (document :: documents) (.broken .identifierNotObject) ""
  /-- The evaluation of the next template fails in another way. -/
  | unsuited {document : Json} {documents : List Json} {n : Stored.Node} {e : Stored.EvalError}
      (hn : Stored.Node.ofJson document = .ok n) (he : (x.evaluateStored n).outcome = .error e)
      (hlacking : ∀ message place?, e ≠ .lacking message place?) :
      Ending x path lines (document :: documents) (.broken (.stored e)) ""
  /-- The next template stands for a text with a lone surrogate in it. -/
  | unencodable {document : Json} {documents : List Json} {n : Stored.Node} {text : WideText}
      (hn : Stored.Node.ofJson document = .ok n) (he : (x.evaluateStored n).outcome = .ok text)
      (htext : text.isPlain = false) :
      Ending x path lines (document :: documents) (.broken .unencodable) ""
  /-- The next template lacks a value at a place that cannot be reported. -/
  | unplaced {document : Json} {documents : List Json} {n : Stored.Node} {message : Json}
      {place? : Option Stored.Place} {cause : Breakdown} (hn : Stored.Node.ofJson document = .ok n)
      (he : (x.evaluateStored n).outcome = .error (.lacking message place?))
      (hplace : ¬ Stored.Place.Suited lines place?)
      (hcause : cause = .longNumber ∨ cause = .stored .unsuited) :
      Ending x path lines (document :: documents) (.broken cause) ""

theorem append_newline_ne_empty (message : String) : message ++ "\n" ≠ "" := by
  intro h
  simpa using congrArg String.length h

/-- Where the values of the next document are of the right kinds a run does not break down. -/
theorem Ending.reported {x : Expander} {path report : String} {lines : Nat} {documents : List Json}
    {status : Status} (h : Ending x path lines documents status report)
    (hsuited : ∀ document ∈ documents.head?, Stored.SuitedDocument lines document) :
    status = .done ∧ report = "" ∨ status = .failed ∧ report ≠ "" := by
  -- A suited document rules out every ending without a report.
  cases h with
  | done => exact .inl ⟨rfl, rfl⟩
  | invalid he hobject => exact .inr ⟨rfl, append_newline_ne_empty _⟩
  | lacking hn he hplace => exact .inr ⟨rfl, append_newline_ne_empty _⟩
  | noObject he => exact absurd he ((hsuited _ rfl).object _)
  | unsuited hn he hlacking =>
    obtain ⟨message, place?, rfl, -⟩ := (hsuited _ rfl).exists_lacking hn he
    exact absurd rfl (hlacking message place?)
  | unencodable hn he htext =>
    rw [(hsuited _ rfl).isPlain hn he] at htext
    cases htext
  | unplaced hn he hplace hcause =>
    obtain ⟨message, place?, ⟨⟩, hsuited⟩ := (hsuited _ rfl).exists_lacking hn he
    exact absurd hsuited hplace

namespace Options

open RunM

variable {o : Options} {s : RunState}

/-! ## Steps -/

/-- How a run ends and what it leaves behind. -/
def endOf : EStateM.Result Status RunState Unit → Status × RunState
  | .ok _ s => (.done, s)
  | .error status s => (status, s)

theorem forM_say (lines : List String) (s : RunState) : lines.forM say s =
    .ok () { s with messages := s.messages ++ String.join (lines.map (· ++ "\n")) } := by
  induction lines generalizing s with
  | nil => simp [pure, EStateM.pure]
  | cons line lines ih =>
    have hsay : say line s = .ok () { s with messages := s.messages ++ line ++ "\n" } := rfl
    refine (bind_ok hsay _).trans ((ih _).trans ?_)
    simp [String.append_assoc]

theorem trace_eq (ho : given? o.debugFile = none) (lines : List String) :
    o.trace lines s =
      .ok () { s with messages := s.messages ++ String.join (lines.map (· ++ "\n")) } := by
  unfold trace
  rw [ho]
  exact forM_say lines s

theorem storedLine_of_countsOn {lines : Nat} {value : Json} (h : CountsOn lines value) :
    storedLine lines value = pure (Stored.countOn lines value) := by
  cases value with
  | int n => simp only [storedLine, if_neg (Nat.not_lt.2 h), Stored.countOn]
  | bool b | float y => rfl
  | _ => exact h.elim

theorem exists_storedLine {lines : Nat} {value : Json} (h : ¬ CountsOn lines value) :
    ∃ cause, (cause = .longNumber ∨ cause = .stored .unsuited) ∧
      storedLine lines value = breakDown cause := by
  -- A number of a line is too long to be written, or it is no number.
  cases value with
  | int n =>
    have hdigits : Json.ReadM.maxDigits < (Nat.toDigits 10 (n + lines).natAbs).length :=
      Nat.lt_of_not_le h
    refine ⟨.longNumber, .inl rfl, ?_⟩
    rw [storedLine, if_pos hdigits]
    rfl
  | bool b | float y => exact absurd trivial h
  | _ => exact ⟨.stored .unsuited, .inr rfl, rfl⟩

/-- The lack of a value is reported if its place allows for it. -/
theorem reportStored_of_suited {lines : Nat} {place? : Option Stored.Place}
    (h : Stored.Place.Suited lines place?) (message : Json) :
    (reportStored lines place? message : RunM Unit) s = .error .failed
      { s with messages := s.messages ++ lackingReport lines message place? } := by
  refine (congrFun (congrArg (· >>= _) (storedLine_of_countsOn h)) s).trans ?_
  rw [pure_bind]
  exact fail_eq _ s

theorem exists_reportStored {lines : Nat} {place? : Option Stored.Place}
    (h : ¬ Stored.Place.Suited lines place?) (message : Json) :
    ∃ cause, (cause = .longNumber ∨ cause = .stored .unsuited) ∧
      (reportStored lines place? message : RunM Unit) s = .error (.broken cause) s := by
  obtain ⟨cause, hcause, hline⟩ := exists_storedLine h
  have hbroken : storedLine lines (Stored.Place.orStart place?).line s = .error (.broken cause) s := by
    rw [hline]
    rfl
  exact ⟨cause, hcause, bind_error hbroken _⟩

variable {x : Expander}

/-! ## Expanding documents -/

/-- What is traced for a document is written to the standard error output. -/
theorem expandStored_cons (ho : given? o.debugFile = none) {document : Json} {n : Stored.Node}
    (hn : Stored.Node.ofJson document = .ok n) (path : String) (line : Nat) (documents : List Json) :
    o.expandStored x path line (document :: documents) s = (do
      match (x.evaluateStored n).outcome with
      | .ok (.plain expansion) => write expansion
      | .ok (.torn ..) => breakDown .unencodable
      | .error (.lacking message place) => reportStored line place message
      | .error e => breakDown (.stored e)
      o.expandStored x path (line + 1) documents : RunM Unit)
      { s with messages := s.messages ++ x.traceOf document } := by
  rw [expandStored, hn]
  dsimp only
  rw [traceStored_eq ho]
  refine (bind_ok (trace_eq ho _) _).trans ?_
  rw [Expander.traceOf, hn, List.map_map]
  rfl

/-- As long as the documents are expanded, their texts are written one after the other. -/
theorem expandStored_append (ho : given? o.debugFile = none) (path : String) {before : List Json}
    {texts : List String} (h : List.Forall₂ x.Expands before texts) (line : Nat)
    (rest : List Json) : o.expandStored x path line (before ++ rest) s =
      o.expandStored x path (line + before.length) rest
        { s with
          written := s.written ++ String.join texts
          messages := s.messages ++ String.join (before.map x.traceOf) } := by
  induction h generalizing line s with
  | nil => simp
  | cons hd _ ih =>
    -- The trace and the text of a document are put behind those of the documents before it.
    obtain ⟨n, hn, htext⟩ := hd
    rw [List.cons_append, expandStored_cons ho hn, htext]
    refine (bind_ok rfl _).trans ?_
    rw [ih]
    simp [String.append_assoc, Nat.add_comm, Nat.add_left_comm]

/-- A document that is no stored template ends the run. -/
theorem expandStored_of_error {document : Json} {e : Stored.DecodeError}
    (he : Stored.Node.ofJson document = .error e) (path : String) (line : Nat) (rest : List Json) :
    ∃ status report, Ending x path line (document :: rest) status report ∧
      o.expandStored x path line (document :: rest) s =
        .error status { s with messages := s.messages ++ report } := by
  -- One kind of error is not reported.
  by_cases hobject : ∃ found, e = .identifierNotObject found
  · obtain ⟨found, rfl⟩ := hobject
    refine ⟨_, _, .noObject he, ?_⟩
    rw [expandStored, he, String.append_empty]
    rfl
  · have hne : ∀ found, e ≠ .identifierNotObject found := not_exists.1 hobject
    refine ⟨_, _, .invalid he hne, ?_⟩
    rw [expandStored, he]
    cases e with
    | identifierNotObject found => exact absurd rfl (hne found)
    | _ => exact fail_eq _ s

/-- A template that is not expanded to a text ends the run. -/
theorem expandStored_of_ok (ho : given? o.debugFile = none) {document : Json} {n : Stored.Node}
    (hn : Stored.Node.ofJson document = .ok n) {e : Stored.EvalError}
    (he : (x.evaluateStored n).outcome = .error e) (path : String) (line : Nat)
    (rest : List Json) : ∃ status report, Ending x path line (document :: rest) status report ∧
      o.expandStored x path line (document :: rest) s = .error status
        { s with messages := s.messages ++ x.traceOf document ++ report } := by
  rw [expandStored_cons ho hn, he]
  cases e with
  -- Of all errors only a lack is caught, and its report may break down in turn.
  | lacking message place? =>
    by_cases hplace : Stored.Place.Suited line place?
    · exact ⟨_, _, .lacking hn he hplace, bind_error (reportStored_of_suited hplace message) _⟩
    · obtain ⟨cause, hcause, hbroken⟩ := exists_reportStored hplace message
      refine ⟨_, _, .unplaced hn he hplace hcause, ?_⟩
      rw [String.append_empty]
      exact bind_error hbroken _
  | _ =>
    refine ⟨_, _, .unsuited hn he (fun _ _ h => nomatch h), ?_⟩
    rw [String.append_empty]
    rfl

/-- Where the next document is not expanded, or there is none, the run ends. -/
theorem expandStored_ends (ho : given? o.debugFile = none) (path : String) (line : Nat)
    {rest : List Json} (hrest : ∀ document ∈ rest.head?, ∀ text, ¬ x.Expands document text) :
    ∃ status report, Ending x path line rest status report ∧
      endOf (o.expandStored x path line rest s) = (status,
        { s with messages := s.messages ++ String.join ((rest.take 1).map x.traceOf) ++ report }) := by
  cases rest with
  | nil =>
    refine ⟨_, _, .done, ?_⟩
    simp [expandStored, endOf, pure, EStateM.pure]
  | cons document rest =>
    have htrace : String.join (((document :: rest).take 1).map x.traceOf) = x.traceOf document := by
      simp
    rw [htrace]
    cases hd : Stored.Node.ofJson document with
    | error e =>
      -- What is not read is not evaluated either, so it leaves no trace.
      have hquiet : x.traceOf document = "" := by rw [Expander.traceOf, hd]
      obtain ⟨status, report, hending, hrun⟩ := expandStored_of_error hd path line rest
      exact ⟨status, report, hending, by rw [hrun, hquiet, String.append_empty]; rfl⟩
    | ok n =>
      cases hout : (x.evaluateStored n).outcome with
      | ok text =>
        cases text with
        | plain text => exact absurd ⟨n, hd, hout⟩ (hrest document rfl text)
        | torn points hpoints =>
          refine ⟨_, _, .unencodable hd hout rfl, ?_⟩
          rw [expandStored_cons ho hd, hout, String.append_empty]
          rfl
      | error e =>
        obtain ⟨status, report, hending, hrun⟩ := expandStored_of_ok ho hd hout path line rest
        exact ⟨status, report, hending, by rw [hrun]; rfl⟩

/-- Documents are expanded up to the first one that is not, where the run ends. -/
theorem exists_expandStored_eq (ho : given? o.debugFile = none) (x : Expander) (path : String)
    (documents : List Json) (s : RunState) : ∃ before texts rest status report,
      documents = before ++ rest ∧ List.Forall₂ x.Expands before texts ∧
      Ending x path before.length rest status report ∧
      endOf (o.expandStored x path 0 documents s) = (status,
        { s with
          written := s.written ++ String.join texts
          messages :=
            s.messages ++ String.join ((before ++ rest.take 1).map x.traceOf) ++ report }) := by
  obtain ⟨before, texts, rest, rfl, hbefore, hrest⟩ := x.exists_expanded documents
  obtain ⟨status, report, hending, hend⟩ := expandStored_ends
    (s := { s with
      written := s.written ++ String.join texts
      messages := s.messages ++ String.join (before.map x.traceOf) }) ho path before.length hrest
  refine ⟨before, texts, rest, status, report, rfl, hbefore, hending, ?_⟩
  rw [expandStored_append ho path hbefore, Nat.zero_add, hend]
  simp [String.append_assoc]

/-! ## Whole runs -/

/-- What a run makes of the text of a file of stored templates. -/
def expandText (o : Options) (x : Expander) (path : String) :
    Except Json.ReadError Json → RunM Unit
  | .ok (.array documents) => o.expandStored x path 0 documents
  | .ok _ => fail s!"Error: {path} does not hold a list of ASTs"
  | .error (.malformed fault position) =>
    fail s!"Error: {path} is not valid JSON: {fault.describe position}"
  | .error .longNumber => breakDown .longNumber

variable {w : World}

theorem produce_of_read {path : String} (hpath : given? o.stored = some path) (x : Expander)
    (input : List UInt8) {bytes : List UInt8} {cs : List Char}
    (hread : s.files.read (FileSystem.normalPath path) = .ok bytes)
    (hdecode : Text.Utf8.decode bytes = .ok cs) :
    o.produce x input s = o.expandText x (FileSystem.normalPath path)
      (Json.ofString (String.ofList (Text.unifyNewlines cs))) s := by
  have hmissing := FileSystem.isMissing_of_read hread
  unfold produce readStored expandText
  rw [hpath]
  dsimp only
  rw [bind_assoc, get_bind]
  simp only [hmissing, hread, hdecode]
  -- What the text holds decides on both sides, and only a list of documents is expanded.
  cases Json.ofString (String.ofList (Text.unifyNewlines cs)) with
  | ok value => cases value <;> rfl
  | error e => cases e <;> rfl

/-- A run with a file of stored templates ends as the expansion of its text does. -/
theorem run_of_text {words : List String} (h : ofWords words = .ok o) (hs : o.UsesStandardStreams)
    {path : String} (hpath : given? o.stored = some path) {settings : List Setting}
    (hsettings : o.settings w.environment { files := w.files } = .ok settings s)
    {bytes : List UInt8} {cs : List Char}
    (hread : w.files.read (FileSystem.normalPath path) = .ok bytes)
    (hdecode : Text.Utf8.decode bytes = .ok cs) {status : Status} {s' : RunState}
    (hend : endOf (o.expandText (Expander.ofSettings settings) (FileSystem.normalPath path)
      (Json.ofString (String.ofList (Text.unifyNewlines cs))) { files := w.files }) = (status, s')) :
    run words w = ⟨s'.written, s'.messages, s'.files, status⟩ := by
  obtain rfl : s = { files := w.files } := quiet_settings o w.environment hsettings
  -- Settling the variables and reading the file leave the state as it is, so only the expansion
  -- counts.
  have hcarry := (congrFun (carryOut_eq hs) _).trans
    ((bind_ok hsettings _).trans (produce_of_read hpath _ w.input hread hdecode))
  cases hr : o.expandText (Expander.ofSettings settings) (FileSystem.normalPath path)
      (Json.ofString (String.ofList (Text.unifyNewlines cs))) { files := w.files } with
  | ok _ t =>
    rw [hr] at hend
    obtain ⟨rfl, rfl⟩ := Prod.mk.inj hend
    exact run_of_ok h hs.output (hcarry.trans hr)
  | error status' t =>
    rw [hr] at hend
    obtain ⟨rfl, rfl⟩ := Prod.mk.inj hend
    exact run_of_error h hs.output (hcarry.trans hr)

end Options

open Options RunM

/-- A run with a file of stored templates. The documents are expanded in turn up to the first one that
cannot be, and the run ends there in one of these ways: a document that is no stored template and a
template that lacks a value are reported, and so is a file that is no document or does not hold a
list. The run breaks down without a report at an identifier that is no object, at a template with
values of the wrong kinds, at a text with a lone surrogate in it, and at a number with too many
digits. If every document is suited it ends well or with a report. -/
theorem run_stored_ends {words : List String} {o : Options} (h : ofWords words = .ok o)
    (hs : o.UsesStandardStreams) {path : String} (hpath : given? o.stored = some path) {w : World}
    {settings : List Setting} {s : RunState}
    (hsettings : o.settings w.environment { files := w.files } = .ok settings s)
    {bytes : List UInt8} {cs : List Char}
    (hread : w.files.read (FileSystem.normalPath path) = .ok bytes)
    (hdecode : Text.Utf8.decode bytes = .ok cs) :
    let file := FileSystem.normalPath path
    let content := Json.ofString (String.ofList (Text.unifyNewlines cs))
    let x := Expander.ofSettings settings
    let r := run words w
    (∀ documents, content = .ok (.array documents) → ∃ before texts rest report,
      documents = before ++ rest ∧ List.Forall₂ x.Expands before texts ∧
      Ending x file before.length rest r.status report ∧
      r.output = String.join texts ∧
      r.messages = String.join ((before ++ rest.take 1).map x.traceOf) ++ report ∧
      ((∀ i document, documents[i]? = some document → Stored.SuitedDocument i document) →
        r.status = .done ∧ report = "" ∨ r.status = .failed ∧ report ≠ "")) ∧
    (∀ value, content = .ok value → (∀ documents, value ≠ .array documents) →
      r.status = .failed ∧ r.messages = s!"Error: {file} does not hold a list of ASTs" ++ "\n") ∧
    (∀ fault p, content = .error (.malformed fault p) →
      r.status = .failed ∧
        r.messages = s!"Error: {file} is not valid JSON: {fault.describe p}\n") ∧
    (content = .error .longNumber → r.status = .broken .longNumber ∧ r.messages = "") := by
  intro file content x r
  have hrun {status s'} (hend : endOf (o.expandText x file content { files := w.files }) =
      (status, s')) : r = ⟨s'.written, s'.messages, s'.files, status⟩ :=
    run_of_text h hs hpath hsettings hread hdecode hend
  refine ⟨?_, ?_, ?_, ?_⟩
  · intro documents hcontent
    obtain ⟨before, texts, rest, status, report, rfl, hbefore, hending, hend⟩ :=
      exists_expandStored_eq hs.debugFile x file documents { files := w.files }
    rw [String.empty_append, String.empty_append] at hend
    have hr := hrun ((congrArg (endOf <| o.expandText x file · _) hcontent).trans hend)
    rw [hr]
    refine ⟨before, texts, rest, report, rfl, hbefore, hending, rfl, rfl, ?_⟩
    intro hsuited
    -- The run ends at the first document that is left, so it is enough that this one is suited.
    refine hending.reported fun document hdocument => hsuited _ _ ?_
    rw [List.getElem?_append_right (Nat.le_refl _), Nat.sub_self, ← List.head?_eq_getElem?]
    exact hdocument
  · intro value hcontent hvalue
    have hfail : o.expandText x file content =
        fail s!"Error: {file} does not hold a list of ASTs" := by
      rw [hcontent]
      cases value with
      | array documents => exact absurd rfl (hvalue documents)
      | _ => rfl
    have hr := hrun (congrArg endOf ((congrFun hfail _).trans (fail_eq _ _)))
    rw [hr]
    exact ⟨rfl, String.empty_append⟩
  · intro fault p hcontent
    have hfail : o.expandText x file content =
        fail s!"Error: {file} is not valid JSON: {fault.describe p}" := by
      rw [hcontent]
      rfl
    have hr := hrun (congrArg endOf ((congrFun hfail _).trans (fail_eq _ _)))
    rw [hr]
    exact ⟨rfl, String.empty_append⟩
  · intro hcontent
    have hr := hrun (congrArg (endOf <| o.expandText x file · _) hcontent)
    rw [hr]
    exact ⟨rfl, rfl⟩

/-! ## Single documents -/

/-- A world in which a file of the name `d` holds a document. -/
def worldOf (document : Json) : World :=
  { files := { entries := [(["d"], .file (document.toLines ++ "\n").toUTF8.toList)] } }

theorem read_worldOf (document : Json) : (worldOf document).files.read (FileSystem.normalPath "d") =
    .ok (document.toLines ++ "\n").toUTF8.toList := rfl

/-- A stored template of one node. -/
def templateOf (node : Json) : Json := .object [("type", .string "Ast"), ("nodes", .array [node])]

theorem plain_templateOf {node : Json} (h : Json.Plain node) :
    Json.Plain (.array [templateOf node]) := by
  have hnodes : Json.Plain (.array [node]) := .array _ (List.forall_mem_singleton.2 h)
  have htemplate : Json.Plain (templateOf node) :=
    .object _ (by simp) (by simp [hnodes])
  exact .array _ (List.forall_mem_singleton.2 htemplate)

/-- The options of the command line `--ast d`. -/
def storedOptions : Options := Options.inMode {} false (some "d")

theorem ofWords_storedOptions : ofWords ["--ast", "d"] = .ok storedOptions := by
  exact ofWords_ast ofWords_nil ⟨rfl, rfl⟩ (by decide)

theorem exists_settings_worldOf (document : Json) : ∃ settings,
    storedOptions.settings (worldOf document).environment { files := (worldOf document).files } =
      .ok settings { files := (worldOf document).files } ∧
    (Expander.ofSettings settings).verbosity = 0 := ⟨_, rfl, rfl⟩

/-- A run breaks down without a report if the expansion of the documents in the file does. -/
theorem run_worldOf {documents : List Json} (h : Json.Plain (.array documents)) {cause : Breakdown}
    (hend : ∀ (x : Expander) s, x.verbosity = 0 →
      storedOptions.expandStored x "d" 0 documents s = .error (.broken cause) s) :
    let r := run ["--ast", "d"] (worldOf (.array documents))
    r.status = .broken cause ∧ r.messages = "" := by
  intro r
  obtain ⟨cs, hdecode, hcontent⟩ := Json.exists_decode_toLines h
  obtain ⟨settings, hsettings, hverbosity⟩ := exists_settings_worldOf (.array documents)
  have hend := congrArg endOf (hend (Expander.ofSettings settings)
    { files := (worldOf (.array documents)).files } hverbosity)
  have hr : r = _ := run_of_text ofWords_storedOptions ⟨rfl, rfl, rfl⟩ rfl hsettings
    (read_worldOf _) hdecode ((congrArg (endOf <| storedOptions.expandText _ _ · _) hcontent).trans hend)
  rw [hr]
  exact ⟨rfl, rfl⟩

/-- A length whose identifier is a text. -/
def lengthOfText : Json := .object [("type", .string "Length"), ("identifier", .string "x")]

/-- A text of any value. -/
def textOf (value : Json) : Json := .object [("type", .string "Text"), ("value", value)]

/-- A text that is a single surrogate. -/
def loneSurrogate : Json := .string (.torn [.surrogate 0] rfl)

/-- A parameter with a message of its own. -/
def requiredName : Json :=
  .object
    [("type", .string "WithError"),
     ("identifier", .object [("type", .string "Named"), ("name", .string "x")]),
     ("error", .string "no x")]

theorem plain_lengthOfText : Json.Plain lengthOfText :=
  .object _ (by simp) (by simp)

theorem plain_loneSurrogate : Json.Plain loneSurrogate := .string _ rfl

theorem plain_textOf {value : Json} (h : Json.Plain value) : Json.Plain (textOf value) :=
  .object _ (by simp) (by simp [h])

theorem plain_requiredName : Json.Plain requiredName := by
  have hid : Json.Plain (.object [("type", .string "Named"), ("name", .string "x")]) :=
    .object _ (by simp) (by simp)
  exact .object _ (by simp) (by simp [hid])

/-- A template of one node is read if the node is. -/
theorem ofJson_templateOf (node : Json) : Stored.Node.ofJson (templateOf node) = (do
    return .sequence [← Stored.Node.ofJson node]) := by
  rw [templateOf, Stored.Node.ofJson]
  show (do return Stored.Node.sequence (← Stored.Node.ofJsons [node])) = _
  rw [Stored.Node.ofJsons, Stored.Node.ofJsons]
  cases Stored.Node.ofJson node <;> rfl

theorem ofJson_lengthOfText : Stored.Node.ofJson (templateOf lengthOfText) =
    .error (.identifierNotObject (.string "x")) := by
  rw [ofJson_templateOf, lengthOfText, Stored.Node.ofJson]
  rfl

theorem ofJson_textOf (value : Json) : Stored.Node.ofJson (templateOf (textOf value)) =
    .ok (.sequence [.text value]) := by
  rw [ofJson_templateOf, textOf, Stored.Node.ofJson]
  rfl

/-- A text is evaluated, but silently. -/
theorem traceOf_textOf {x : Expander} (hx : x.verbosity = 0) (value : Json) :
    x.traceOf (templateOf (textOf value)) = "" := by
  have hevents : (x.evaluateStored (.sequence [.text value])).events = [] := by
    rw [Expander.evaluateStored, hx]
    rfl
  rw [Expander.traceOf, ofJson_textOf]
  simp [hevents]

theorem ofJson_requiredName : Stored.Node.ofJson (templateOf requiredName) = .ok (.sequence
    [.withError (.named (.string "x")) (.string "no x") (.bool false) none]) := by
  rw [ofJson_templateOf, requiredName, Stored.Node.ofJson]
  rfl

/-- An identifier that is no object, a text that is a number, and a text that is a surrogate. The
documents are lists of objects, and the runs end without a report. -/
theorem run_stored_breaks_down :
    let r := run ["--ast", "d"] (worldOf (.array [templateOf lengthOfText]))
    let r' := run ["--ast", "d"] (worldOf (.array [templateOf (textOf (.int 1))]))
    let r'' := run ["--ast", "d"] (worldOf (.array [templateOf (textOf loneSurrogate)]))
    (r.status = .broken .identifierNotObject ∧ r.messages = "") ∧
      (r'.status = .broken (.stored .unsuited) ∧ r'.messages = "") ∧
      r''.status = .broken .unencodable ∧ r''.messages = "" := by
  -- An identifier that is no object, a text that is a number, and a text that cannot be written.
  refine ⟨?_, ?_, ?_⟩
  · refine run_worldOf (plain_templateOf plain_lengthOfText) ?_
    intro x s _
    rw [expandStored, ofJson_lengthOfText]
    rfl
  · refine run_worldOf (plain_templateOf (plain_textOf (.int 1 (by decide)))) ?_
    intro x s hx
    rw [expandStored_cons rfl (ofJson_textOf _), traceOf_textOf hx, String.append_empty]
    rfl
  · refine run_worldOf (plain_templateOf (plain_textOf plain_loneSurrogate)) ?_
    intro x s hx
    rw [expandStored_cons rfl (ofJson_textOf _), traceOf_textOf hx, String.append_empty]
    rfl

theorem suited_requiredName : Stored.SuitedDocument 0 (templateOf requiredName) := by
  have hshort : Json.Short 1 := (by decide : (Nat.toDigits 10 1).length ≤ Json.ReadM.maxDigits)
  constructor
  · intro found h
    cases ofJson_requiredName.symm.trans h
  · intro n h
    cases ofJson_requiredName.symm.trans h
    exact List.forall_mem_singleton.2 ⟨⟨"x", rfl⟩, hshort⟩

/-- The values of a parameter with a message are of the right kinds, so the run ends well or with a
report. -/
theorem run_stored_ends_withError :
    Stored.SuitedDocument 0 (templateOf requiredName) ∧
      (run ["--ast", "d"] (worldOf (.array [templateOf requiredName]))).status ∈
        [Status.done, .failed] := by
  obtain ⟨cs, hdecode, hcontent⟩ := Json.exists_decode_toLines (plain_templateOf plain_requiredName)
  obtain ⟨settings, hsettings, -⟩ := exists_settings_worldOf (.array [templateOf requiredName])
  obtain ⟨hlist, -⟩ := run_stored_ends ofWords_storedOptions ⟨rfl, rfl, rfl⟩ rfl hsettings
    (read_worldOf _) hdecode
  obtain ⟨before, texts, rest, report, -, -, -, -, -, hends⟩ := hlist _ hcontent
  -- The file has one document, which lacks a value that it requires.
  have hall : ∀ i document, [templateOf requiredName][i]? = some document →
      Stored.SuitedDocument i document := by
    intro i document hdocument
    cases i with
    | zero =>
      obtain rfl := Option.some.inj hdocument
      exact suited_requiredName
    | succ i => cases hdocument
  refine ⟨suited_requiredName, ?_⟩
  rcases hends hall with ⟨hdone, -⟩ | ⟨hfailed, -⟩
  · rw [hdone]
    exact List.mem_cons_self
  · rw [hfailed]
    exact List.mem_cons_of_mem _ List.mem_cons_self

end CommandLine

end ParamExpansion
