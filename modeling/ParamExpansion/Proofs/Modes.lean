import ParamExpansion.CommandLine.Options
import ParamExpansion.Proofs.Evaluation

/-!
# Modes of the command

A command line that asks for an expansion asks for stored templates, or for the expansion of stored
templates, when the option for that is put in front of it. Everything else that it asks for stays as
it is. No command line asks for both.
-/

namespace ParamExpansion.CommandLine

/-! ## Options -/

namespace Options

/-- The options with another mode. -/
def inMode (o : Options) (emit : Bool) (stored : Option String) : Options :=
  { o with emit, stored }

/-- Whether templates are to be expanded, and not to be stored or read. -/
structure IsPlain (o : Options) : Prop where
  emit : o.emit = false
  stored : o.stored = none

variable {o o' : Options} {flag : Flag} (emit : Bool) (stored : Option String)

/-- No option without an argument depends on the mode, except for the one that changes it. -/
theorem enable_inMode (h : o.enable flag = .ok o') (hp : o'.IsPlain) :
    o.IsPlain ∧ (o.inMode emit stored).enable flag = .ok (o'.inMode emit stored) := by
  obtain ⟨he, hs⟩ := hp
  -- Two flags end the reading, and one sets the mode, which the result rules out.
  cases flag with
  | help | version => cases h
  | emitAst =>
    rw [enable] at h
    split at h
    · cases h
    · cases h
      cases he
  | _ => cases h; exact ⟨⟨he, hs⟩, rfl⟩

/-- No option with an argument depends on the mode, except for the one that changes it. -/
theorem assign_inMode {argument? : Option String} (h : o.assign flag argument? = .ok o')
    (hp : o'.IsPlain) :
    o.IsPlain ∧ (o.inMode emit stored).assign flag argument? = .ok (o'.inMode emit stored) := by
  obtain ⟨he, hs⟩ := hp
  -- Two options look at their argument. The one for stored templates sets the mode, so it has not
  -- been assigned.
  cases flag with
  | var | envVars =>
    cases argument? with
    | none => cases h; exact ⟨⟨he, hs⟩, rfl⟩
    | some argument =>
      simp only [assign] at h ⊢
      split at h
      · cases h; exact ⟨⟨he, hs⟩, rfl⟩
      · cases h
  | ast =>
    simp only [assign] at h
    split at h
    · cases h
    · cases h
      cases hs
  | _ => cases h; exact ⟨⟨he, hs⟩, rfl⟩

theorem foldlM_enable_inMode {flags : List Flag} (h : flags.foldlM enable o = .ok o')
    (hp : o'.IsPlain) :
    o.IsPlain ∧ flags.foldlM enable (o.inMode emit stored) = .ok (o'.inMode emit stored) := by
  induction flags generalizing o with
  | nil => cases h; exact ⟨hp, rfl⟩
  | cons flag flags ih =>
    rw [List.foldlM_cons] at h ⊢
    cases hflag : o.enable flag with
    | error e => rw [hflag] at h; cases h
    | ok p =>
      rw [hflag, ok_bind] at h
      obtain ⟨hp', hflags⟩ := ih h
      obtain ⟨ho, hmode⟩ := enable_inMode emit stored hflag hp'
      rw [hmode, ok_bind]
      exact ⟨ho, hflags⟩

/-! ### One mode at most -/

/-- Whether templates are not both to be stored and to be read. -/
def HasOneMode (o : Options) : Prop := o.emit = true → o.stored = none

theorem HasOneMode.enable (ho : o.HasOneMode) (h : o.enable flag = .ok o') : o'.HasOneMode := by
  cases flag with
  | help | version => cases h
  | emitAst =>
    rw [Options.enable] at h
    split at h
    · cases h
    · next hstored =>
      cases h
      exact fun _ => by simpa using hstored
  | _ => cases h; exact ho

theorem HasOneMode.assign (ho : o.HasOneMode) {argument? : Option String}
    (h : o.assign flag argument? = .ok o') : o'.HasOneMode := by
  -- Only the option for stored templates changes the mode, and it is refused if the other mode is
  -- set.
  cases flag with
  | var | envVars =>
    cases argument? with
    | none => cases h; exact ho
    | some argument =>
      simp only [Options.assign] at h
      split at h
      · cases h; exact ho
      · cases h
  | ast =>
    simp only [Options.assign] at h
    split at h
    · cases h
    · next hemit =>
      cases h
      exact fun h => absurd h hemit
  | _ => cases h; exact ho

theorem HasOneMode.foldlM_enable {flags : List Flag} (ho : o.HasOneMode)
    (h : flags.foldlM Options.enable o = .ok o') : o'.HasOneMode := by
  induction flags generalizing o with
  | nil => cases h; exact ho
  | cons flag flags ih =>
    rw [List.foldlM_cons] at h
    cases hflag : o.enable flag with
    | error e => rw [hflag] at h; cases h
    | ok p =>
      rw [hflag, ok_bind] at h
      exact ih (ho.enable hflag) h

end Options

/-! ## Words -/

namespace Progress

/-- The same progress in another mode. -/
def inMode (p : Progress) (emit : Bool) (stored : Option String) : Progress :=
  { p with options := p.options.inMode emit stored }

variable {p p' : Progress} (emit : Bool) (stored : Option String)

/-- The options without an argument are carried out first, then the one with an argument. -/
theorem takeOptions_eq_ok_iff {c : Cluster} : p.takeOptions c = .ok p' ↔
    ∃ enabled options, c.plain.foldlM Options.enable p.options = .ok enabled ∧
      (match c.last with
        | some (flag, argument?) => enabled.assign flag argument?
        | none => .ok enabled) = .ok options ∧
      p' = { options, extra := p.extra ++ c.leftover.toList,
             phase := if p.phase = .before then .before else .after } := by
  unfold takeOptions
  -- The options without arguments come first, and then the last one with its argument.
  cases c.plain.foldlM Options.enable p.options with
  | error e =>
    constructor
    · rintro ⟨⟩
    · rintro ⟨enabled, options, ⟨⟩, -⟩
  | ok enabled =>
    rw [ok_bind]
    constructor
    · intro h
      cases hlast : c.last with
      | none =>
        simp only [hlast] at h
        cases h
        exact ⟨enabled, enabled, rfl, rfl, rfl⟩
      | some a =>
        simp only [hlast] at h ⊢
        cases hassign : enabled.assign a.1 a.2 with
        | error e => rw [hassign] at h; cases h
        | ok options =>
          rw [hassign] at h
          cases h
          exact ⟨enabled, options, rfl, hassign, rfl⟩
    · rintro ⟨_, options, ⟨⟩, hlast, rfl⟩
      cases hc : c.last with
      | none =>
        rw [hc] at hlast
        cases hlast
        rfl
      | some a =>
        simp only [hc] at hlast ⊢
        rw [hlast]
        rfl

theorem takeOptions_inMode {c : Cluster} (h : p.takeOptions c = .ok p') (hp : p'.options.IsPlain) :
    p.options.IsPlain ∧
      (p.inMode emit stored).takeOptions c = .ok (p'.inMode emit stored) := by
  obtain ⟨enabled, options, henabled, hlast, rfl⟩ := takeOptions_eq_ok_iff.1 h
  -- The last option is looked at first, because what holds at the end is known.
  have hend : enabled.IsPlain ∧
      (match c.last with
        | some (flag, argument?) => (enabled.inMode emit stored).assign flag argument?
        | none => .ok (enabled.inMode emit stored)) = .ok (options.inMode emit stored) := by
    cases hc : c.last with
    | none =>
      simp only [hc] at hlast
      cases hlast
      exact ⟨hp, rfl⟩
    | some a =>
      simp only [hc] at hlast
      exact Options.assign_inMode emit stored hlast hp
  obtain ⟨ho, hmode⟩ := Options.foldlM_enable_inMode emit stored henabled hend.1
  exact ⟨ho, takeOptions_eq_ok_iff.2 ⟨_, _, hmode, hend.2, rfl⟩⟩

theorem takeOperand_inMode (p : Progress) (text : String) (isSeparator : Bool) :
    (p.inMode emit stored).takeOperand text isSeparator =
      (p.takeOperand text isSeparator).inMode emit stored := by
  unfold takeOperand inMode
  split <;> rfl

theorem options_takeOperand (p : Progress) (text : String) (isSeparator : Bool) :
    (p.takeOperand text isSeparator).options.IsPlain → p.options.IsPlain := by
  unfold takeOperand
  split <;> exact fun h => ⟨h.emit, h.stored⟩

/-- The options of a word are carried out, and its argument is passed over. -/
theorem takeWords_option_eq_ok_iff {w : OptionWord} {words : List Word} :
    p.takeWords (.option w :: words) = .ok p' ↔
      ∃ c q, Cluster.ofWord w (operand? words) = .ok c ∧ p.takeOptions c = .ok q ∧
        q.takeWords (if c.takesNext then words.drop 1 else words) = .ok p' := by
  rw [takeWords]
  -- Three steps can fail: reading the word, taking its options, and taking the words behind it.
  cases Cluster.ofWord w (operand? words) with
  | error e =>
    constructor
    · rintro ⟨⟩
    · rintro ⟨c, q, ⟨⟩, -⟩
  | ok c =>
    rw [mapError_ok, ok_bind]
    cases hq : p.takeOptions c with
    | error e =>
      constructor
      · rintro ⟨⟩
      · rintro ⟨c, q, ⟨⟩, hq', -⟩
        rw [hq] at hq'
        cases hq'
    | ok q =>
      constructor
      · intro h
        exact ⟨c, q, rfl, hq, h⟩
      · rintro ⟨c, q', ⟨⟩, hq', h⟩
        rw [hq] at hq'
        cases hq'
        exact h

/-- No words depend on the mode, except for those that change it. -/
theorem takeWords_inMode {words : List Word} (h : p.takeWords words = .ok p')
    (hp : p'.options.IsPlain) :
    p.options.IsPlain ∧
      (p.inMode emit stored).takeWords words = .ok (p'.inMode emit stored) := by
  -- Whether the mode is changed shows only at the end, so that each case starts with what follows.
  induction p, words using takeWords.induct with
  | case1 p =>
    rw [takeWords] at h ⊢
    cases h
    exact ⟨hp, rfl⟩
  | case2 p words ih =>
    rw [takeWords] at h ⊢
    rw [takeOperand_inMode]
    obtain ⟨ho, hmode⟩ := ih h
    exact ⟨options_takeOperand _ _ _ ho, hmode⟩
  | case3 p text words ih =>
    rw [takeWords] at h ⊢
    rw [takeOperand_inMode]
    obtain ⟨ho, hmode⟩ := ih h
    exact ⟨options_takeOperand _ _ _ ho, hmode⟩
  | case4 p w words ih =>
    obtain ⟨c, q, hcluster, hoptions, hwords⟩ := takeWords_option_eq_ok_iff.1 h
    obtain ⟨hq, hwords⟩ := ih c q hwords
    obtain ⟨ho, hmode⟩ := takeOptions_inMode emit stored hoptions hq
    exact ⟨ho, takeWords_option_eq_ok_iff.2 ⟨c, _, hcluster, hmode, hwords⟩⟩

/-! ### One mode at most -/

theorem hasOneMode_takeOptions {c : Cluster} (hp : p.options.HasOneMode)
    (h : p.takeOptions c = .ok p') : p'.options.HasOneMode := by
  obtain ⟨enabled, options, henabled, hlast, rfl⟩ := takeOptions_eq_ok_iff.1 h
  have henabled := hp.foldlM_enable henabled
  cases hc : c.last with
  | none =>
    simp only [hc] at hlast
    cases hlast
    exact henabled
  | some a =>
    simp only [hc] at hlast
    exact henabled.assign hlast

theorem hasOneMode_takeOperand (hp : p.options.HasOneMode) (text : String) (isSeparator : Bool) :
    (p.takeOperand text isSeparator).options.HasOneMode := by
  unfold takeOperand
  split <;> exact hp

theorem hasOneMode_takeWords {words : List Word} (hp : p.options.HasOneMode)
    (h : p.takeWords words = .ok p') : p'.options.HasOneMode := by
  -- The induction follows the reader over the words: operands change no mode, and options keep to
  -- one.
  induction p, words using takeWords.induct with
  | case1 p =>
    rw [takeWords] at h
    cases h
    exact hp
  | case2 p words ih =>
    rw [takeWords] at h
    exact ih (hasOneMode_takeOperand hp _ _) h
  | case3 p text words ih =>
    rw [takeWords] at h
    exact ih (hasOneMode_takeOperand hp _ _) h
  | case4 p w words ih =>
    obtain ⟨c, q, -, hoptions, hwords⟩ := takeWords_option_eq_ok_iff.1 h
    exact ih c q (hasOneMode_takeOptions hp hoptions) hwords

end Progress

/-! ## Command lines -/

namespace Options

variable {words : List String} {o : Options}

theorem exists_of_ofWords (h : ofWords words = .ok o) :
    ∃ ws p, Word.readAll words = .ok ws ∧ Progress.takeWords {} ws = .ok p ∧ p.extra = [] ∧
      p.options = o := by
  rw [ofWords] at h
  cases hread : Word.readAll words with
  | error e => rw [hread] at h; cases h
  | ok ws =>
    rw [hread, mapError_ok, ok_bind] at h
    cases hwords : Progress.takeWords {} ws with
    | error e => rw [hwords] at h; cases h
    | ok p =>
      rw [hwords, ok_bind] at h
      -- Words without a meaning are complained about at the very end.
      by_cases hextra : p.extra = []
      · rw [if_neg (not_not_intro hextra)] at h
        cases h
        exact ⟨ws, p, rfl, hwords, hextra, rfl⟩
      · rw [if_pos hextra] at h
        cases h

/-- A run that stores templates reads no stored ones. -/
theorem hasOneMode_of_ofWords (h : ofWords words = .ok o) : o.HasOneMode := by
  obtain ⟨ws, p, -, hwords, -, rfl⟩ := exists_of_ofWords h
  exact Progress.hasOneMode_takeWords (fun _ => rfl) hwords

theorem ofWords_eq {ws : List Word} {p : Progress} (hread : Word.readAll words = .ok ws)
    (hwords : Progress.takeWords {} ws = .ok p) (hextra : p.extra = []) :
    ofWords words = .ok p.options := by
  rw [ofWords, hread, mapError_ok, ok_bind, hwords, ok_bind, if_neg (not_not_intro hextra)]
  rfl

theorem ofWords_nil : ofWords [] = .ok {} := by
  have htake : Progress.takeWords {} [] = .ok {} := by
    rw [Progress.takeWords]
    rfl
  exact ofWords_eq rfl htake rfl

theorem ofWords_noUnset : ofWords ["-u"] = .ok { strict := true } := by
  have htake : Progress.takeWords {} [.option { flag? := some .noUnset, word := "-u", short := true }] =
      .ok { options := { strict := true } } := by
    refine Progress.takeWords_option_eq_ok_iff.2 ⟨_, _, rfl, rfl, ?_⟩
    rw [Progress.takeWords.eq_def]
    rfl
  exact ofWords_eq rfl htake rfl

theorem readAll_cons {word : String} {w : Word} {ws : List Word} (hne : word ≠ "--")
    (hread : Word.read word = .ok w) (h : Word.readAll words = .ok ws) :
    Word.readAll (word :: words) = .ok (w :: ws) := by
  rw [Word.readAll, if_neg hne, hread, h]
  rfl

/-- The option that asks for stored templates can be put in front. -/
theorem ofWords_emitAst (h : ofWords words = .ok o) (hp : o.IsPlain) :
    ofWords ("--emit-ast" :: words) = .ok (o.inMode true none) := by
  obtain ⟨ws, p, hread, hwords, hextra, rfl⟩ := exists_of_ofWords h
  obtain ⟨-, hmode⟩ := Progress.takeWords_inMode true none hwords hp
  have hflag : Word.read "--emit-ast" =
      .ok (.option { flag? := some .emitAst, word := "--emit-ast" }) := rfl
  have hall := readAll_cons (by decide) hflag hread
  have htake : Progress.takeWords {} (.option { flag? := some .emitAst, word := "--emit-ast" } :: ws) =
      .ok (p.inMode true none) := by
    rw [Progress.takeWords]
    exact hmode
  exact ofWords_eq hall htake hextra

/-- The option that asks for the expansion of stored templates can be put in front, with a path that
does not look like an option. -/
theorem ofWords_ast (h : ofWords words = .ok o) (hp : o.IsPlain) {path : String}
    (hpath : path.toList.head? ≠ some '-') :
    ofWords ("--ast" :: path :: words) = .ok (o.inMode false (some path)) := by
  obtain ⟨ws, p, hread, hwords, hextra, rfl⟩ := exists_of_ofWords h
  obtain ⟨-, hmode⟩ := Progress.takeWords_inMode false (some path) hwords hp
  -- The path does not begin like an option, so it is the argument of the option.
  have hoperand : Word.read path = .ok (.operand path) := by
    rw [Word.read, if_pos (.inl hpath)]
    rfl
  have hne : path ≠ "--" := by
    rintro rfl
    exact hpath rfl
  have hflag : Word.read "--ast" = .ok (.option { flag? := some .ast, word := "--ast" }) := rfl
  have hall := readAll_cons (by decide) hflag (readAll_cons hne hoperand hread)
  have htake : Progress.takeWords {}
      (.option { flag? := some .ast, word := "--ast" } :: .operand path :: ws) =
        .ok (p.inMode false (some path)) := by
    rw [Progress.takeWords]
    exact hmode
  exact ofWords_eq hall htake hextra

end Options

end ParamExpansion.CommandLine
