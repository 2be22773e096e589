import Mathlib.Data.List.Forall2
import ParamExpansion.CommandLine.Run
import ParamExpansion.Proofs.Encoding
import ParamExpansion.Proofs.Newlines

/-!
# Steps of a run

A part of a run is taken apart at its steps. Some parts only read: they leave everything as it is,
and all that they can do is to end the run with a report. What the whole run leaves behind is told
by how its steps end.

The lines of an input without a fault are those of a text, and no longer than the input.
-/

namespace ParamExpansion.CommandLine

namespace RunM

variable {α β : Type}

theorem bind_ok {m : RunM α} {s s' : RunState} {a : α} (h : m s = .ok a s') (f : α → RunM β) :
    (m >>= f) s = f a s' := by
  show EStateM.bind m f s = _
  rw [EStateM.bind, h]

theorem bind_error {m : RunM α} {s s' : RunState} {status : Status} (h : m s = .error status s')
    (f : α → RunM β) : (m >>= f) s = .error status s' := by
  show EStateM.bind m f s = _
  rw [EStateM.bind, h]

/-- Steps end with a value if each of them does, where the one before has ended. -/
theorem bind_eq_ok_iff {m : RunM α} {f : α → RunM β} {s s' : RunState} {b : β} :
    (m >>= f) s = .ok b s' ↔ ∃ a t, m s = .ok a t ∧ f a t = .ok b s' := by
  cases h : m s with
  | ok a t => simp [bind_ok h]
  | error status t => simp [bind_error h]

theorem get_bind (f : RunState → RunM α) (s : RunState) : (get >>= f) s = f s s := rfl

/-! ## Idle steps -/

/-- An end of a part of a run that has changed nothing. If the run ends with it, it has failed, and
nothing but a report may have been made. -/
inductive IdleEnd (s : RunState) : EStateM.Result Status RunState α → Prop where
  | ok (a : α) : IdleEnd s (.ok a s)
  | error (status : Status) (messages : String) : status.exitCode = 1 →
    IdleEnd s (.error status { s with messages })

/-- Whether a part of a run changes nothing. -/
def Idle (m : RunM α) : Prop := ∀ s, IdleEnd s (m s)

/-- Whether a part of a run leaves everything as it is when it does not end the run. -/
def Quiet (m : RunM α) : Prop := ∀ ⦃s a s'⦄, m s = .ok a s' → s' = s

namespace Idle

theorem quiet {m : RunM α} (h : Idle m) : Quiet m := by
  intro s a s' hr
  have hend := h s
  rw [hr] at hend
  cases hend
  rfl

theorem pure (a : α) : Idle (pure a : RunM α) := fun _ => .ok a

theorem bind {m : RunM α} {f : α → RunM β} (hm : Idle m) (hf : ∀ a, Idle (f a)) :
    Idle (m >>= f) := by
  intro s
  have hend := hm s
  generalize hr : m s = r at hend
  cases hend with
  | ok a =>
    rw [bind_ok hr]
    exact hf a s
  | error status messages hstatus =>
    rw [bind_error hr]
    exact .error status messages hstatus

theorem get_bind {f : RunState → RunM α} (h : ∀ s, Idle (f s)) : Idle (get >>= f) :=
  fun s => h s s

theorem fail (message : String) : Idle (fail message : RunM α) := fun _ => .error .failed _ rfl

theorem breakDown (cause : Breakdown) : Idle (breakDown cause : RunM α) :=
  fun s => .error (.broken cause) s.messages rfl

theorem require (cause : Breakdown) (a? : Option α) : Idle (require cause a?) := by
  cases a? with
  | none => exact breakDown cause
  | some a => exact pure a

theorem mapM {f : α → RunM β} (h : ∀ a, Idle (f a)) (as : List α) : Idle (as.mapM f) := by
  induction as with
  | nil => exact pure []
  | cons a as ih =>
    rw [List.mapM_cons]
    exact (h a).bind fun b => ih.bind fun bs => pure (b :: bs)

end Idle

/-- Steps that leave everything as it is are made one after the other, each of them where all of
them begin. -/
theorem mapM_eq_ok_iff {f : α → RunM β} (h : ∀ a, Quiet (f a)) {as : List α} {bs : List β}
    {s s' : RunState} : as.mapM f s = .ok bs s' ↔
      s' = s ∧ List.Forall₂ (fun a b => f a s = .ok b s) as bs := by
  -- Steps that change nothing can be looked at one by one, all from the state at the beginning.
  induction as generalizing bs s' with
  | nil =>
    constructor
    · rintro ⟨⟩
      exact ⟨rfl, .nil⟩
    · rintro ⟨rfl, ⟨⟩⟩
      rfl
  | cons a as ih =>
    rw [List.mapM_cons, bind_eq_ok_iff]
    constructor
    · rintro ⟨b, t, ha, hrest⟩
      obtain rfl := h a ha
      obtain ⟨bs, t', has, hend⟩ := bind_eq_ok_iff.1 hrest
      obtain ⟨rfl, hbs⟩ := ih.1 has
      cases hend
      exact ⟨rfl, .cons ha hbs⟩
    · rintro ⟨rfl, hbs⟩
      cases hbs with
      | cons ha hbs => exact ⟨_, _, ha, bind_eq_ok_iff.2 ⟨_, _, ih.2 ⟨rfl, hbs⟩, rfl⟩⟩

end RunM

namespace Options

open RunM

variable {o : Options} {w : World}

/-! ## Variables -/

theorem idle_loadFile (path : String) : Idle (loadFile path) := by
  refine .get_bind fun s => ?_
  split
  · exact .pure _
  · exact .breakDown _
  · exact .fail _

theorem idle_settings (o : Options) (environment : List (String × String)) :
    Idle (o.settings environment) := by
  unfold settings
  refine (Idle.mapM (fun _ => (Idle.require _ _).bind idle_loadFile) _).bind fun files => ?_
  refine (Idle.mapM (fun _ => .require _ _) _).bind fun definitions => ?_
  exact .pure _

theorem quiet_settings (o : Options) (environment : List (String × String)) :
    Quiet (o.settings environment) := (idle_settings o environment).quiet

/-! ## Reports and ends -/

theorem fail_eq {α : Type} (message : String) (s : RunState) : (fail message : RunM α) s =
    .error .failed { s with messages := s.messages ++ (message ++ "\n") } := by
  rw [← String.append_assoc]
  rfl

theorem report_eq {α : Type} (line : Nat) (p : Position) (message : String) (s : RunState) :
    (report line p message : RunM α) s = .error .failed
      { s with messages := s.messages ++ s!"{p.line + line}:{p.col} {message}" ++ "\n" } := rfl

section

variable {words : List String} {s : RunState} {status : Status}

theorem run_eq_finish_of_ok (h : ofWords words = .ok o)
    (hr : o.carryOut w { files := w.files } = .ok () s) : run words w = o.finish s .done := by
  simp only [run, h, hr]

theorem run_eq_finish_of_error (h : ofWords words = .ok o)
    (hr : o.carryOut w { files := w.files } = .error status s) :
    run words w = o.finish s status := by
  simp only [run, h, hr]

theorem run_of_ok (h : ofWords words = .ok o) (ho : given? o.output = none)
    (hr : o.carryOut w { files := w.files } = .ok () s) :
    run words w = ⟨s.written, s.messages, s.files, .done⟩ := by
  rw [run_eq_finish_of_ok h hr]
  simp only [finish, ho]

theorem run_of_error (h : ofWords words = .ok o) (ho : given? o.output = none)
    (hr : o.carryOut w { files := w.files } = .error status s) :
    run words w = ⟨s.written, s.messages, s.files, status⟩ := by
  rw [run_eq_finish_of_error h hr]
  simp only [finish, ho]

end

end Options

/-! ## How long lines of input are

No line of an input is empty, since it has at least its end, and together the lines have no more
characters than the input has bytes.
-/

namespace Input

open Text

/-- An input without a fault is a text, whose lines are those of the input. -/
theorem exists_decode_of_fault_eq_none {bytes : List UInt8} (h : (ofBytes true bytes).fault = none) :
    ∃ cs, Utf8.decode bytes = .ok cs ∧ (ofBytes true bytes).lines =
      (streamLines cs).map fun line => String.ofList (unifyNewlines line) := by
  unfold ofBytes at h ⊢
  cases hd : Utf8.decode bytes with
  | ok cs => exact ⟨cs, rfl, by simp⟩
  | error fault =>
    simp only [hd] at h
    split at h
    · split at h <;> cases h
    · cases h

theorem ne_empty_of_mem_lines {bytes : List UInt8} (h : (ofBytes true bytes).fault = none)
    {l : String} (hl : l ∈ (ofBytes true bytes).lines) : l ≠ "" := by
  obtain ⟨cs, -, hlines⟩ := exists_decode_of_fault_eq_none h
  rw [hlines] at hl
  obtain ⟨line, hline, rfl⟩ := List.mem_map.1 hl
  have hne : line ≠ [] := fun hnil => nil_notMem_streamLines cs (hnil ▸ hline)
  simpa using unifyNewlines_ne_nil hne

/-- The lines have no more characters than the input has bytes. -/
theorem length_flatMap_lines_le {bytes : List UInt8} (h : (ofBytes true bytes).fault = none) :
    ((ofBytes true bytes).lines.flatMap String.toList).length ≤ bytes.length := by
  obtain ⟨cs, hd, hlines⟩ := exists_decode_of_fault_eq_none h
  -- Making the end of a line alike does not make the line longer.
  have hle (lines : List (List Char)) :
      ((lines.map fun line => String.ofList (unifyNewlines line)).flatMap String.toList).length ≤
        lines.flatten.length := by
    induction lines with
    | nil => exact Nat.le_refl _
    | cons line lines ih =>
      simp only [List.map_cons, List.flatMap_cons, List.flatten_cons, List.length_append,
        String.toList_ofList]
      exact Nat.add_le_add (length_unifyNewlines_le line) ih
  calc ((ofBytes true bytes).lines.flatMap String.toList).length
      ≤ (streamLines cs).flatten.length := hlines ▸ hle _
    _ = cs.length := by rw [flatten_streamLines]
    _ ≤ bytes.length := Utf8.length_le_of_decode hd

end Input

end ParamExpansion.CommandLine
