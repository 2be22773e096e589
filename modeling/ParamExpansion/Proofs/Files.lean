import ParamExpansion.Bindings
import ParamExpansion.FileSystem
import ParamExpansion.Proofs.Evaluation

/-!
# Changing files

Whether a file can be written to does not depend on what it holds. Writing changes no directory, so
every path leads where it has led before, the file can be written to again, and the files that other
paths lead to hold what they have held.
-/

namespace ParamExpansion.FileSystem

variable {fs fs' : FileSystem} {path : String} {names : List String}
  {f : List UInt8 → List UInt8}

/-- A file can be changed if its path leads to it, or to where there is nothing. -/
theorem change_eq_ok_iff : fs.change path f = .ok fs' ↔ ∃ names entry, fs.locate path = .ok names ∧
    endsWithSlash path = false ∧ fs.lookUp names = .ok entry ∧
    ((∃ content, entry = some (.file content) ∧ fs' = fs.put names (f content)) ∨
      entry = none ∧ fs' = fs.put names (f [])) := by
  unfold change
  -- The checks are made in this order, and each of them can end the change.
  cases hlocate : fs.locate path with
  | error e => simp
  | ok names =>
    cases hslash : endsWithSlash path with
    | true => simp [throw, throwThe, MonadExceptOf.throw]
    | false =>
      cases hlookUp : fs.lookUp names with
      | error e => simp [hlookUp, pure, Except.pure]
      | ok entry =>
        cases entry with
        | none => simp [hlookUp, pure, Except.pure, eq_comm]
        | some entry =>
          cases entry <;>
            simp [hlookUp, pure, Except.pure, throw, throwThe, MonadExceptOf.throw, eq_comm]

/-- Elsewhere nothing changes. -/
theorem lookUp_put_of_ne {other : List String} (h : other ≠ names) (content : List UInt8) :
    (fs.put names content).lookUp other = fs.lookUp other := by
  have hlookup : (fs.put names content).entries.lookup other = fs.entries.lookup other := by
    rw [put, List.lookup_cons, beq_false_of_ne h]
    exact Bindings.lookup_filter_ne h fs.entries
  rw [lookUp, lookUp, entry?, entry?, hlookup]

/-- A path only leads on from a directory. -/
theorem walk_cons_eq_ok_iff {here target steps : List String} {name next : String} :
    fs.walk here (name :: next :: steps) = .ok target ↔
      fs.lookUp (step here name) = .ok (some .directory) ∧
        fs.walk (step here name) (next :: steps) = .ok target := by
  rw [walk]
  · cases fs.lookUp (step here name) with
    | error e => simp
    | ok entry =>
      cases entry with
      | none => simp [throw, throwThe, MonadExceptOf.throw]
      | some entry => cases entry <;> simp [throw, throwThe, MonadExceptOf.throw]
  · simp

/-- A file is found where it has been put. -/
theorem lookUp_put (hnames : fs.lookUp names ≠ .ok (some .directory)) {entry : Option FileEntry}
    (h : fs.lookUp names = .ok entry) (content : List UInt8) :
    (fs.put names content).lookUp names = .ok (some (.file content)) := by
  have hroot : names ≠ [] := by
    rintro rfl
    exact hnames rfl
  unfold lookUp at h ⊢
  split at h
  · cases h
  · next hshort => simp [if_neg hshort, entry?, hroot, put]

/-- A file is put where there is no directory, so the directories stay the same. -/
theorem lookUp_put_eq_directory_iff (hnames : fs.lookUp names ≠ .ok (some .directory))
    (content : List UInt8) {here : List String} :
    (fs.put names content).lookUp here = .ok (some .directory) ↔
      fs.lookUp here = .ok (some .directory) := by
  -- Only what the name itself stands for can have changed, and that was no directory and is none.
  by_cases hne : here = names
  · subst hne
    refine iff_of_false ?_ hnames
    cases hlookUp : fs.lookUp here with
    | error e =>
      unfold lookUp at hlookUp ⊢
      split at hlookUp
      · next hlong => simp [if_pos hlong]
      · cases hlookUp
    | ok entry =>
      rw [lookUp_put hnames hlookUp]
      exact nofun
  · rw [lookUp_put_of_ne hne]

/-- Where no directory is changed, a path leads where it has led before. -/
theorem walk_put_eq_ok_iff (hnames : fs.lookUp names ≠ .ok (some .directory))
    (content : List UInt8) {here target steps : List String} :
    (fs.put names content).walk here steps = .ok target ↔ fs.walk here steps = .ok target := by
  induction steps generalizing here with
  | nil => exact Iff.rfl
  | cons name steps ih =>
    cases steps with
    | nil => exact Iff.rfl
    | cons next steps =>
      rw [walk_cons_eq_ok_iff, walk_cons_eq_ok_iff, ih,
        lookUp_put_eq_directory_iff hnames]

/-- A path leads where its steps lead, unless it cannot be followed at all. -/
theorem locate_eq_ok_iff {target : List String} : fs.locate path = .ok target ↔
    '\x00' ∉ path.toList ∧ ¬ maxPathSize < path.utf8ByteSize ∧
      fs.walk (if isAbsolute path then [] else fs.workingDirectory) (steps path) = .ok target := by
  unfold locate
  -- The path is checked before any name in it is looked up.
  by_cases hnull : '\x00' ∈ path.toList
  · rw [if_pos hnull]
    exact iff_of_false nofun fun h => h.1 hnull
  by_cases hlong : maxPathSize < path.utf8ByteSize
  · rw [if_neg hnull, if_pos hlong]
    exact iff_of_false nofun fun h => h.2.1 hlong
  rw [if_neg hnull, if_neg hlong]
  exact ⟨fun h => ⟨hnull, hlong, h⟩, fun h => h.2.2⟩

theorem locate_put_eq_ok_iff (hnames : fs.lookUp names ≠ .ok (some .directory))
    (content : List UInt8) {target : List String} :
    (fs.put names content).locate path = .ok target ↔ fs.locate path = .ok target := by
  rw [locate_eq_ok_iff, locate_eq_ok_iff, walk_put_eq_ok_iff hnames]
  exact Iff.rfl

/-- The content of what names lead to. Where there is no file there is none. -/
def contentOf : Option FileEntry → List UInt8
  | some (.file content) => content
  | _ => []

/-- Changing a file puts the new content where there has been another file or nothing. -/
theorem exists_put_of_change (h : fs.change path f = .ok fs') : ∃ names entry,
    fs.locate path = .ok names ∧ endsWithSlash path = false ∧ fs.lookUp names = .ok entry ∧
      entry ≠ some .directory ∧ fs' = fs.put names (f (contentOf entry)) := by
  obtain ⟨names, entry, hlocate, hslash, hlookUp, ⟨content, rfl, rfl⟩ | ⟨rfl, rfl⟩⟩ :=
    change_eq_ok_iff.1 h
  · exact ⟨names, _, hlocate, hslash, hlookUp, nofun, rfl⟩
  · exact ⟨names, _, hlocate, hslash, hlookUp, nofun, rfl⟩

theorem lookUp_ne_directory {entry : Option FileEntry} (h : fs.lookUp names = .ok entry)
    (hentry : entry ≠ some .directory) : fs.lookUp names ≠ .ok (some .directory) := by
  rw [h]
  exact fun heq => hentry (Except.ok.inj heq)

/-- A file that has been changed can be changed again. -/
theorem exists_change_of_change (h : fs.change path f = .ok fs') (g : List UInt8 → List UInt8) :
    ∃ fs'', fs'.change path g = .ok fs'' := by
  obtain ⟨names, entry, hlocate, hslash, hlookUp, hentry, rfl⟩ := exists_put_of_change h
  have hnames := lookUp_ne_directory hlookUp hentry
  exact ⟨_, change_eq_ok_iff.2 ⟨names, _, (locate_put_eq_ok_iff hnames _).2 hlocate, hslash,
    lookUp_put hnames hlookUp _, .inl ⟨_, rfl, rfl⟩⟩⟩

/-! ## What files hold -/

theorem read_eq_ok_iff {content : List UInt8} : fs.read path = .ok content ↔
    ∃ names, fs.locate path = .ok names ∧ endsWithSlash path = false ∧
      fs.lookUp names = .ok (some (.file content)) := by
  unfold read
  cases hlocate : fs.locate path with
  | error e => simp
  | ok names =>
    cases hlookUp : fs.lookUp names with
    | error e => simp [hlookUp]
    | ok entry =>
      rcases entry with _ | _ | _ <;> cases hslash : endsWithSlash path <;>
        simp [hlookUp, pure, Except.pure, throw, throwThe, MonadExceptOf.throw]

/-- The content of a file, if the path leads to one. -/
def content? (fs : FileSystem) (path : String) : Option (List UInt8) := (fs.read path).toOption

theorem content?_eq_some_iff {content : List UInt8} :
    fs.content? path = some content ↔ fs.read path = .ok content := by
  unfold content?
  cases fs.read path <;> simp [Except.toOption]

/-- A change makes the new content out of the old one, or out of nothing. -/
theorem content?_of_change (h : fs.change path f = .ok fs') :
    fs'.content? path = some (f ((fs.content? path).getD [])) := by
  obtain ⟨names, entry, hlocate, hslash, hlookUp, hentry, rfl⟩ := exists_put_of_change h
  have hnames := lookUp_ne_directory hlookUp hentry
  -- What the file held before is the content that the lookup has found.
  have hold : (fs.content? path).getD [] = contentOf entry := by
    rw [content?, read, hlocate, ok_bind, hlookUp, ok_bind]
    rcases entry with _ | _ | _
    · rfl
    · simp [hslash, pure, Except.pure, Except.toOption, contentOf]
    · exact absurd rfl hentry
  rw [hold, content?_eq_some_iff, read_eq_ok_iff]
  exact ⟨names, (locate_put_eq_ok_iff hnames _).2 hlocate, hslash, lookUp_put hnames hlookUp _⟩

/-- Whether a path does not lead where another one leads. -/
def Apart (fs : FileSystem) (path other : String) : Prop :=
  ∀ names, fs.locate other = .ok names → fs.locate path ≠ .ok names

/-- Where paths lead does not depend on what files hold. -/
theorem Apart.of_change {changed other : String} (h : fs.Apart path other)
    (hchange : fs.change changed f = .ok fs') : fs'.Apart path other := by
  obtain ⟨names, entry, -, -, hlookUp, hentry, rfl⟩ := exists_put_of_change hchange
  have hnames := lookUp_ne_directory hlookUp hentry
  intro target hother hpath
  exact h target ((locate_put_eq_ok_iff hnames _).1 hother)
    ((locate_put_eq_ok_iff hnames _).1 hpath)

/-- A change of one file leaves the files elsewhere as they are. -/
theorem content?_of_change_of_apart {other : String} (h : fs.change other f = .ok fs')
    (hapart : fs.Apart path other) : fs'.content? path = fs.content? path := by
  obtain ⟨names, entry, hlocate, -, hlookUp, hentry, rfl⟩ := exists_put_of_change h
  have hnames := lookUp_ne_directory hlookUp hentry
  refine Option.ext fun c => ?_
  rw [content?_eq_some_iff, content?_eq_some_iff, read_eq_ok_iff, read_eq_ok_iff]
  refine exists_congr fun target => ?_
  rw [locate_put_eq_ok_iff hnames]
  refine and_congr_right fun htarget => and_congr_right fun _ => ?_
  -- The two paths lead to different places, and a file at one of them hides nothing on the way to
  -- the other.
  have hother : target ≠ names := by
    rintro rfl
    exact hapart target hlocate htarget
  rw [lookUp_put_of_ne hother]

end ParamExpansion.FileSystem
