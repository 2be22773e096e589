import ParamExpansion.Definition

/-!
# The format of definitions

A text is a definition if it is one line and has an equals sign that is not its first character. The
first equals sign divides it, so that joining a name and a value is undone. What is wrong with any
other text is said of the place where its parts end.
-/

namespace ParamExpansion.Definition

/-- Whether a text has no end of a line. -/
def OneLine (cs : List Char) : Prop := ∀ c ∈ cs, endsLine c = false

theorem oneLine_iff {cs : List Char} : OneLine cs ↔ '\r' ∉ cs ∧ '\n' ∉ cs := by
  constructor
  · exact fun h => ⟨fun hr => absurd (h _ hr) (by decide), fun hn => absurd (h _ hn) (by decide)⟩
  · rintro ⟨hr, hn⟩ c hc
    have hcr : c ≠ '\r' := fun heq => hr (heq ▸ hc)
    have hcn : c ≠ '\n' := fun heq => hn (heq ▸ hc)
    simp [endsLine, hcr, hcn]

theorem ne_sign_of_endsLine {c : Char} (h : endsLine c = true) : c ≠ '=' := by
  rintro rfl
  exact absurd h (by decide)

/-! ## Parts -/

section

variable {here last : Nat} {part : Part} {parts : List Part}

/-- A part that is found is followed by the other parts. -/
theorem scan_append {text rest : List Char} (hne : text ≠ [])
    (h : part.longest (text ++ rest) = text) :
    scan here last (part :: parts) (text ++ rest) =
      (scan (here + text.length) here parts rest).map ((part, text) :: ·) := by
  obtain ⟨c, cs, rfl⟩ := List.exists_cons_of_ne_nil hne
  rw [List.cons_append] at h ⊢
  rw [scan, h, if_neg hne, ← List.cons_append, List.drop_left]

/-- A part that does not begin where it is looked for is an error there. -/
theorem scan_of_longest_eq_nil {c : Char} {cs : List Char} (h : part.longest (c :: cs) = []) :
    scan here last (part :: parts) (c :: cs) = .error here := by
  rw [scan, h]
  exact if_pos rfl

/-- A name reaches up to the first equals sign or end of a line. -/
theorem Part.longest_name {name : List Char} (hsign : '=' ∉ name) (hline : OneLine name)
    (rest : List Char) (hrest : ∀ c ∈ rest.head?, c = '=' ∨ endsLine c = true) :
    Part.name.longest (name ++ rest) = name := by
  have hname : ∀ c ∈ name, (decide (c ≠ '=') && !endsLine c) = true := by
    intro c hc
    have hne : c ≠ '=' := fun heq => hsign (heq ▸ hc)
    simp [hne, hline c hc]
  rw [Part.longest, List.takeWhile_append_of_pos hname]
  cases rest with
  | nil => exact List.append_nil name
  | cons c rest =>
    rw [List.takeWhile_cons_of_neg, List.append_nil]
    rcases hrest c rfl with rfl | hc
    · simp
    · simp [hc]

/-- A value reaches up to the first end of a line. -/
theorem Part.longest_value {value : List Char} (hline : OneLine value) (rest : List Char)
    (hrest : ∀ c ∈ rest.head?, endsLine c = true) : Part.value.longest (value ++ rest) = value := by
  have hvalue : ∀ c ∈ value, (!endsLine c) = true := fun c hc => by simp [hline c hc]
  rw [Part.longest, List.takeWhile_append_of_pos hvalue]
  cases rest with
  | nil => exact List.append_nil value
  | cons c rest => rw [List.takeWhile_cons_of_neg (by simp [hrest c rfl]), List.append_nil]

/-- All of one line is a value, and an empty value is left out. -/
theorem scan_value {value : List Char} (h : OneLine value) :
    scan here last [.value] value = .ok (if value = [] then [] else [(.value, value)]) := by
  by_cases hne : value = []
  · subst hne
    rfl
  · have hscan : scan here last [.value] (value ++ []) = _ :=
      scan_append hne (Part.longest_value h [] (by simp))
    rw [List.append_nil] at hscan
    rw [hscan, if_neg hne]
    rfl

/-- Nothing comes behind a value, so the end of a line there is an error. -/
theorem scan_value_append {value : List Char} (h : OneLine value) {c : Char}
    (hc : endsLine c = true) (rest : List Char) :
    scan here last [.value] (value ++ c :: rest) = .error (here + value.length) := by
  have hlongest := Part.longest_value h (c :: rest) (by simpa using hc)
  by_cases hne : value = []
  · subst hne
    exact scan_of_longest_eq_nil hlongest
  · rw [scan_append hne hlongest]
    rfl

theorem scan_sign (rest : List Char) :
    scan here last [.sign, .value] ('=' :: rest) =
      (scan (here + 1) here [.value] rest).map ((.sign, ['=']) :: ·) := by
  have hlongest : Part.sign.longest (['='] ++ rest) = ['='] := by simp [Part.longest]
  exact scan_append (List.cons_ne_nil _ _) hlongest

theorem scan_sign_of_ne {c : Char} (hc : c ≠ '=') (rest : List Char) :
    scan here last [.sign, .value] (c :: rest) = .error here :=
  scan_of_longest_eq_nil (by simp [Part.longest, hc])

end

/-! ## Texts of every kind -/

/-- The texts that are definitions, and those that are not, by what is wrong with them. -/
inductive Shape : List Char → Prop where
  | definition (name value : List Char) : name ≠ [] → '=' ∉ name → OneLine name → OneLine value →
    Shape (name ++ '=' :: value)
  | nameless (cs : List Char) : Shape ('=' :: cs)
  | signless (cs : List Char) : '=' ∉ cs → OneLine cs → Shape cs
  /-- There is a second line. -/
  | broken (text : List Char) (c : Char) (rest : List Char) : text.head? ≠ some '=' → OneLine text →
    endsLine c = true → Shape (text ++ c :: rest)

/-- The line that a text begins with, and what is behind it. -/
theorem exists_line (cs : List Char) :
    ∃ text rest, cs = text ++ rest ∧ OneLine text ∧ ∀ c ∈ rest.head?, endsLine c = true := by
  refine ⟨cs.takeWhile (!endsLine ·), cs.dropWhile (!endsLine ·),
    List.takeWhile_append_dropWhile.symm, ?_, ?_⟩
  · intro c hc
    simpa using List.all_eq_true.1 List.all_takeWhile c hc
  · intro c hc
    have hhead := List.head?_dropWhile_not (!endsLine ·) cs
    rw [Option.mem_def.1 hc] at hhead
    simpa using hhead

theorem shape (cs : List Char) : Shape cs := by
  obtain ⟨text, rest, rfl, hline, hrest⟩ := exists_line cs
  -- A text that begins with the sign has no name. Any other one goes on behind its first line, or it
  -- is one line, with a sign in it or without one.
  by_cases hhead : text.head? = some '='
  · obtain ⟨more, rfl⟩ := List.head?_eq_some_iff.1 hhead
    exact .nameless _
  cases rest with
  | cons c rest => exact .broken text c rest hhead hline (hrest c rfl)
  | nil =>
    rw [List.append_nil]
    by_cases hsign : '=' ∈ text
    · obtain ⟨name, value, rfl, hname⟩ := List.eq_append_cons_of_mem hsign
      refine .definition name value ?_ hname ?_ ?_
      · rintro rfl
        exact hhead rfl
      · exact fun c hc => hline c (List.mem_append_left _ hc)
      · exact fun c hc => hline c (List.mem_append_right _ (List.mem_cons_of_mem _ hc))
    · exact .signless text hsign hline

/-! ## Reading each of them -/

variable (line : Int)

/-- Reading a definition gives its name and its value back. -/
theorem read_definition {name value : List Char} (hne : name ≠ []) (hsign : '=' ∉ name)
    (hname : OneLine name) (hvalue : OneLine value) :
    read line (name ++ '=' :: value) = .ok (String.ofList name, String.ofList value) := by
  have hlongest := Part.longest_name hsign hname ('=' :: value) (by simp)
  rw [read, grammar, scan_append hne hlongest, scan_sign, scan_value hvalue]
  -- An empty value has been left out, and is the value of what is not there.
  cases value <;> rfl

theorem read_nameless (cs : List Char) :
    read line ('=' :: cs) = .error ⟨.missingName, line, 1⟩ := by
  have hlongest : Part.name.longest ('=' :: cs) = [] := rfl
  rw [read, grammar, scan_of_longest_eq_nil hlongest]
  rfl

theorem read_signless {cs : List Char} (hsign : '=' ∉ cs) (hline : OneLine cs) :
    read line cs = .error ⟨.missingSign, line, 1⟩ := by
  have hhead : cs.head? ≠ some '=' := fun h => hsign (List.mem_of_head? h)
  have hscan : scan 1 1 grammar cs = .error 1 := by
    by_cases hne : cs = []
    · subst hne
      rfl
    · -- The name takes the whole line, and nothing is left for the sign.
      have hname : scan 1 1 [.name, .sign, .value] (cs ++ []) = _ :=
        scan_append hne (Part.longest_name hsign hline [] (by simp))
      rw [List.append_nil] at hname
      rw [grammar, hname]
      rfl
  rw [read, hscan, if_neg hhead]

theorem head?_broken {text : List Char} (hhead : text.head? ≠ some '=') {c : Char}
    (hc : endsLine c = true) (rest : List Char) : (text ++ c :: rest).head? ≠ some '=' := by
  cases text with
  | nil => simpa using ne_sign_of_endsLine hc
  | cons d text => simpa using hhead

theorem read_broken {text : List Char} (hhead : text.head? ≠ some '=') (hline : OneLine text)
    {c : Char} (hc : endsLine c = true) (rest : List Char) :
    read line (text ++ c :: rest) = .error ⟨.missingSign, line, text.length + 1⟩ := by
  have hne := ne_sign_of_endsLine hc
  have hscan : scan 1 1 grammar (text ++ c :: rest) = .error (text.length + 1) := by
    by_cases hsign : '=' ∈ text
    · -- The line ends in the value, or right in front of it.
      obtain ⟨name, value, rfl, hname⟩ := List.eq_append_cons_of_mem hsign
      have hnonempty : name ≠ [] := by
        rintro rfl
        exact hhead rfl
      have hlongest := Part.longest_name hname (fun d hd => hline d (List.mem_append_left _ hd))
        ('=' :: (value ++ c :: rest)) (by simp)
      have hvalue : OneLine value :=
        fun d hd => hline d (List.mem_append_right _ (List.mem_cons_of_mem _ hd))
      rw [grammar, List.append_assoc, List.cons_append, scan_append hnonempty hlongest, scan_sign,
        scan_value_append hvalue hc]
      simp only [Except.map, List.length_append, List.length_cons]
      congr 1
      omega
    · -- The line ends in the name, or there is nothing before its end.
      have hlongest := Part.longest_name hsign hline (c :: rest) (by simp [hc])
      by_cases hnil : text = []
      · subst hnil
        exact scan_of_longest_eq_nil hlongest
      · rw [grammar, scan_append hnil hlongest, scan_sign_of_ne hne, Nat.add_comm 1]
        rfl
  rw [read, hscan, if_neg (head?_broken hhead hc rest)]

/-! ## The format -/

theorem toList_join (name value : String) :
    (name ++ "=" ++ value).toList = name.toList ++ '=' :: value.toList := by
  simp

/-- A text is read exactly if it is one line with an equals sign that is not its first character. -/
theorem exists_read_iff {cs : List Char} : (∃ d, read line cs = .ok d) ↔
    '\r' ∉ cs ∧ '\n' ∉ cs ∧ '=' ∈ cs ∧ cs.head? ≠ some '=' := by
  rw [← and_assoc, ← oneLine_iff]
  -- Of the four shapes of a line, only the first one is a definition, and it alone meets the
  -- conditions.
  cases shape cs with
  | definition name value hne hsign hname hvalue =>
    have hhead : (name ++ '=' :: value).head? ≠ some '=' := by
      cases name with
      | nil => exact absurd rfl hne
      | cons c name => exact fun h => hsign (List.mem_of_head? h)
    have hline : OneLine (name ++ '=' :: value) := by
      intro c hc
      rcases List.mem_append.1 hc with hc | hc
      · exact hname c hc
      · rcases List.mem_cons.1 hc with rfl | hc
        · rfl
        · exact hvalue c hc
    exact iff_of_true ⟨_, read_definition line hne hsign hname hvalue⟩ ⟨hline, by simp, hhead⟩
  | nameless cs =>
    refine iff_of_false ?_ fun h => h.2.2 rfl
    rw [read_nameless]
    exact fun ⟨_, h⟩ => by cases h
  | signless _ hsign hline =>
    refine iff_of_false ?_ fun h => hsign h.2.1
    rw [read_signless line hsign hline]
    exact fun ⟨_, h⟩ => by cases h
  | broken text c rest hhead hline hc =>
    refine iff_of_false ?_ fun h => ?_
    · rw [read_broken line hhead hline hc]
      exact fun ⟨_, h⟩ => by cases h
    · simpa [hc] using h.1 c (List.mem_append_right _ List.mem_cons_self)

/-- What is read of a definition joins to the definition. -/
theorem join_of_read {cs : List Char} {name value : String}
    (h : read line cs = .ok (name, value)) :
    cs = name.toList ++ '=' :: value.toList ∧ '=' ∉ name.toList := by
  -- Only one shape is read as a definition.
  cases shape cs with
  | definition name' value' hne hsign hname hvalue =>
    rw [read_definition line hne hsign hname hvalue] at h
    cases h
    simpa using hsign
  | nameless cs =>
    rw [read_nameless] at h
    cases h
  | signless _ hsign hline =>
    rw [read_signless line hsign hline] at h
    cases h
  | broken text c rest hhead hline hc =>
    rw [read_broken line hhead hline hc] at h
    cases h

/-- The first equals sign divides a text in one way. -/
theorem join_inj {name value name' value' : List Char} (hsign : '=' ∉ name) (hsign' : '=' ∉ name')
    (h : name ++ '=' :: value = name' ++ '=' :: value') : name' = name ∧ value' = value := by
  -- If one of the names were longer, the sign behind the other one would be in it.
  rcases List.append_eq_append_iff.1 h with ⟨more, rfl, hmore⟩ | ⟨more, rfl, hmore⟩
  · cases more with
    | nil => simpa [eq_comm] using hmore
    | cons c more =>
      obtain ⟨rfl, -⟩ := List.cons.inj hmore
      exact absurd (List.mem_append_right _ List.mem_cons_self) hsign'
  · cases more with
    | nil => simpa using hmore
    | cons c more =>
      obtain ⟨rfl, -⟩ := List.cons.inj hmore
      exact absurd (List.mem_append_right _ List.mem_cons_self) hsign

/-- An error is that of the line, and tells whether the name is missing. It lies at the end of the
first line, or at the beginning if there is no such end or no name. -/
theorem error_of_read {cs : List Char} {e : SyntaxError} (h : read line cs = .error e) :
    e.line = line ∧
      (cs.head? = some '=' ∧ e.fault = .missingName ∧ e.col = 1 ∨
        cs.head? ≠ some '=' ∧ e.fault = .missingSign ∧
          (OneLine cs ∧ e.col = 1 ∨ ∃ before c after, cs = before ++ c :: after ∧
            endsLine c = true ∧ OneLine before ∧ e.col = before.length + 1)) := by
  -- Every shape but the first one has an error of its own.
  cases shape cs with
  | definition name value hne hsign hname hvalue =>
    rw [read_definition line hne hsign hname hvalue] at h
    cases h
  | nameless cs =>
    rw [read_nameless] at h
    cases h
    exact ⟨rfl, .inl ⟨rfl, rfl, rfl⟩⟩
  | signless _ hsign hline =>
    have hhead : cs.head? ≠ some '=' := fun hhead => hsign (List.mem_of_head? hhead)
    rw [read_signless line hsign hline] at h
    cases h
    exact ⟨rfl, .inr ⟨hhead, rfl, .inl ⟨hline, rfl⟩⟩⟩
  | broken text c rest hhead hline hc =>
    rw [read_broken line hhead hline hc] at h
    cases h
    exact ⟨rfl, .inr ⟨head?_broken hhead hc rest, rfl, .inr ⟨text, c, rest, rfl, hc, hline, rfl⟩⟩⟩

/-- Reading a definition accepts what has the format of a definition and loses nothing: the first
equals sign divides the name from the value in the only way, and joining the two is undone. For any
other text there is an error on its line. It tells whether the name is missing, and if not, it lies
at the first end of a line that there is. -/
theorem read_exact (line : Int) (arg : String) :
    ((∃ d, read line arg.toList = .ok d) ↔
      '\r' ∉ arg.toList ∧ '\n' ∉ arg.toList ∧ '=' ∈ arg.toList ∧ arg.toList.head? ≠ some '=') ∧
    (∀ name value, read line arg.toList = .ok (name, value) →
      arg = name ++ "=" ++ value ∧ '=' ∉ name.toList ∧
        ∀ name' value', arg = name' ++ "=" ++ value' → '=' ∉ name'.toList →
          name' = name ∧ value' = value) ∧
    (∀ name value, arg = name ++ "=" ++ value → name ≠ "" → '=' ∉ name.toList →
      '\r' ∉ arg.toList → '\n' ∉ arg.toList → read line arg.toList = .ok (name, value)) ∧
    ∀ e, read line arg.toList = .error e → e.line = line ∧
      (arg.toList.head? = some '=' ∧ e.fault.message = "variable name missing" ∧ e.col = 1 ∨
        arg.toList.head? ≠ some '=' ∧
          e.fault.message = "'=' character missing in key value pair" ∧
          ('\r' ∉ arg.toList ∧ '\n' ∉ arg.toList ∧ e.col = 1 ∨
            ∃ before c after, arg.toList = before ++ c :: after ∧ (c = '\r' ∨ c = '\n') ∧
              '\r' ∉ before ∧ '\n' ∉ before ∧ e.col = before.length + 1)) := by
  refine ⟨exists_read_iff line, ?_, ?_, ?_⟩
  · -- The name ends at the first equals sign, so the text can be cut in one way only.
    intro name value h
    obtain ⟨hjoin, hsign⟩ := join_of_read line h
    refine ⟨String.toList_inj.1 (hjoin.trans (toList_join name value).symm), hsign, ?_⟩
    intro name' value' harg hsign'
    rw [harg, toList_join] at hjoin
    obtain ⟨hname, hvalue⟩ := join_inj hsign' hsign hjoin
    exact ⟨(String.toList_inj.1 hname).symm, (String.toList_inj.1 hvalue).symm⟩
  · -- What meets the conditions has the shape of a definition.
    intro name value harg hne hsign hr hn
    have hline := oneLine_iff.2 ⟨hr, hn⟩
    rw [harg, toList_join] at hline ⊢
    have hread := read_definition line (mt String.toList_eq_nil_iff.1 hne) hsign
      (fun c hc => hline c (List.mem_append_left _ hc))
      (fun c hc => hline c (List.mem_append_right _ (List.mem_cons_of_mem _ hc)))
    rwa [String.ofList_toList, String.ofList_toList] at hread
  · intro e h
    obtain ⟨hline, ⟨hhead, hfault, hcol⟩ | ⟨hhead, hfault, hcol⟩⟩ := error_of_read line h
    · exact ⟨hline, .inl ⟨hhead, by rw [hfault]; rfl, hcol⟩⟩
    refine ⟨hline, .inr ⟨hhead, by rw [hfault]; rfl, ?_⟩⟩
    -- The column tells a line without a sign from one that ends too early.
    rcases hcol with ⟨hone, hcol⟩ | ⟨before, c, after, harg, hc, hbefore, hcol⟩
    · obtain ⟨hr, hn⟩ := oneLine_iff.1 hone
      exact .inl ⟨hr, hn, hcol⟩
    · obtain ⟨hr, hn⟩ := oneLine_iff.1 hbefore
      have hend : c = '\r' ∨ c = '\n' := by simpa [endsLine, or_comm] using hc
      exact .inr ⟨before, c, after, harg, hend, hr, hn, hcol⟩

/-- The definition `a==b`, whose value begins with an equals sign, and `a=` with a second line. -/
theorem read_exact_signs :
    (read 1 "a==b".toList = .ok ("a", "=b") ∧ '=' ∉ "a".toList) ∧
      ∃ e, read 7 "a=\nb".toList = .error e ∧ e.line = 7 ∧ e.col = 3 := by
  have hread : read 1 "a==b".toList = .ok ("a", "=b") :=
    (read_exact 1 "a==b").2.2.1 "a" "=b" rfl (by decide) (by decide) (by decide) (by decide)
  refine ⟨⟨hread, ((read_exact 1 "a==b").2.1 _ _ hread).2.1⟩, ?_⟩
  have herror : read 7 "a=\nb".toList = .error ⟨.missingSign, 7, 3⟩ := rfl
  exact ⟨_, herror, ((read_exact 7 "a=\nb").2.2.2 _ herror).1, rfl⟩

end ParamExpansion.Definition
