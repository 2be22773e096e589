import ParamExpansion.Proofs.Reading
import ParamExpansion.Proofs.Tiling

/-!
# Where tokens may stand and how far they reach

Which mode the lexer is in is told by the tokens before: by the braces that they leave open and by the
last of them. So is which tokens can come next, whatever the text is, and each of these reaches as far
as it can.
-/

namespace ParamExpansion

open Token (Kind kinds nestings)

/-! ## Where parameters start -/

/-- How many dollar signs stand in a row before an offset. -/
def dollarsBefore (cs : List Char) (i : Nat) : Nat :=
  ((cs.take i).reverse.takeWhile (· = '$')).length

/-- Whether a parameter starts at an offset. The dollar sign there is not the last character of its
line, and when the dollar signs in a row are paired from the left, it is left over. -/
structure OpensAt (cs : List Char) (i : Nat) : Prop where
  dollar : cs[i]? = some '$'
  follows : ∃ c, cs[i + 1]? = some c ∧ c ≠ '$' ∧ c ≠ '\n' ∧ c ≠ '\r'
  unpaired : dollarsBefore cs i % 2 = 0

theorem dollarsBefore_of_all {cs : List Char} {i : Nat} (h : ∀ d ∈ cs.take i, d = '$') :
    dollarsBefore cs i = (cs.take i).length := by
  have hall : (cs.take i).reverse.takeWhile (· = '$') = (cs.take i).reverse := by
    rw [List.takeWhile_eq_self_iff]
    simpa using h
  rw [dollarsBefore, hall, List.length_reverse]

/-- A character in front counts only if the dollar signs in a row go back to it. -/
theorem dollarsBefore_cons {c : Char} {cs : List Char} {i : Nat}
    (h : ¬ (c = '$' ∧ ∀ d ∈ cs.take i, d = '$')) :
    dollarsBefore (c :: cs) (i + 1) = dollarsBefore cs i := by
  -- If only dollar signs lie between, the run ends at the first character. Otherwise it ends before
  -- that.
  by_cases hall : ∀ d ∈ cs.take i, d = '$'
  · have hc : c ≠ '$' := fun hc => h ⟨hc, hall⟩
    have hrun : ∀ d ∈ (cs.take i).reverse, decide (d = '$') = true := by simpa using hall
    rw [dollarsBefore_of_all hall, dollarsBefore, List.take_succ_cons, List.reverse_cons,
      List.takeWhile_append_of_pos hrun, List.takeWhile_cons_of_neg (by simpa using hc)]
    simp
  · have hshort : ((cs.take i).reverse.takeWhile (· = '$')).length ≠ (cs.take i).reverse.length := by
      intro hlength
      have hself := (List.takeWhile_prefix (· = '$')).eq_of_length hlength
      rw [List.takeWhile_eq_self_iff] at hself
      exact hall (by simpa using hself)
    rw [dollarsBefore, List.take_succ_cons, List.reverse_cons, List.takeWhile_append, if_neg hshort]
    rfl

namespace OpensAt

variable {c : Char} {cs : List Char} {i : Nat}

theorem zero_iff : OpensAt cs 0 ↔ Lexeme.opensParam cs = true := by
  rw [Lexeme.opensParam_iff]
  constructor
  · rintro ⟨hdollar, ⟨c, hc, hne⟩, -⟩
    obtain ⟨ds, rfl⟩ := List.head?_eq_some_iff.1 (List.head?_eq_getElem?.trans hdollar)
    obtain ⟨r, rfl⟩ := List.head?_eq_some_iff.1 (List.head?_eq_getElem?.trans hc)
    exact ⟨c, r, rfl, hne⟩
  · rintro ⟨c, r, rfl, hne⟩
    exact ⟨rfl, ⟨c, rfl, hne⟩, rfl⟩

/-- A pair of dollar signs in front changes nothing. -/
theorem pair_iff : OpensAt ('$' :: '$' :: cs) (i + 2) ↔ OpensAt cs i := by
  -- A pair in front changes the number of dollar signs by two, or not at all.
  have hparity : dollarsBefore ('$' :: '$' :: cs) (i + 2) % 2 = dollarsBefore cs i % 2 := by
    by_cases hall : ∀ d ∈ cs.take i, d = '$'
    · have hpair : ∀ d ∈ ('$' :: '$' :: cs).take (i + 2), d = '$' := by simpa using hall
      rw [dollarsBefore_of_all hall, dollarsBefore_of_all hpair, List.take_succ_cons,
        List.take_succ_cons, List.length_cons, List.length_cons]
      exact Nat.add_mod_right _ 2
    · rw [dollarsBefore_cons (by simpa using hall), dollarsBefore_cons (by simpa using hall)]
  constructor
  · rintro ⟨hdollar, hfollows, hunpaired⟩
    exact ⟨hdollar, hfollows, hparity ▸ hunpaired⟩
  · rintro ⟨hdollar, hfollows, hunpaired⟩
    exact ⟨hdollar, hfollows, hparity ▸ hunpaired⟩

/-- Neither does a character that is not the first one of a pair. -/
theorem cons_iff (h : ∀ r, c = '$' → cs ≠ '$' :: r) :
    OpensAt (c :: cs) (i + 1) ↔ OpensAt cs i := by
  have hcount (hdollar : cs[i]? = some '$') :
      dollarsBefore (c :: cs) (i + 1) = dollarsBefore cs i := by
    refine dollarsBefore_cons fun ⟨hc, hall⟩ => ?_
    -- The first of the characters behind `c` would be a dollar sign.
    have hhead : cs.head? = some '$' := by
      cases cs with
      | nil => cases hdollar
      | cons d r =>
        cases i with
        | zero => exact hdollar
        | succ i => exact congrArg some (hall d (by simp))
    obtain ⟨r, hr⟩ := List.head?_eq_some_iff.1 hhead
    exact h r hc hr
  constructor
  · rintro ⟨hdollar, hfollows, hunpaired⟩
    exact ⟨hdollar, hfollows, hcount hdollar ▸ hunpaired⟩
  · rintro ⟨hdollar, hfollows, hunpaired⟩
    exact ⟨hdollar, hfollows, (hcount hdollar).symm ▸ hunpaired⟩

end OpensAt

/-! ## How far tokens reach -/

/-- Whether a run at the front of some characters goes on up to the first parameter that starts there,
or up to their end. -/
structure ReachesParam (run cs : List Char) : Prop where
  isPrefix : run <+: cs
  length_le : ∀ i, OpensAt cs i → run.length ≤ i
  stops : run = cs ∨ OpensAt cs run.length

/-- Neither half of a pair of dollar signs starts a parameter. -/
theorem OpensAt.two_le_of_pair {cs : List Char} {i : Nat} (h : OpensAt ('$' :: '$' :: cs) i) :
    2 ≤ i := by
  -- The first sign of the pair is followed by the second one, and the second one is paired.
  match i with
  | 0 =>
    obtain ⟨c, hc, hne, -⟩ := h.follows
    exact absurd (Option.some.inj hc).symm hne
  | 1 =>
    have hone : dollarsBefore ('$' :: '$' :: cs) 1 = 1 := rfl
    have hunpaired := h.unpaired
    rw [hone] at hunpaired
    cases hunpaired
  | i + 2 => exact Nat.le_add_left 2 i

theorem reachesParam_textRun (cs : List Char) : ReachesParam (Lexeme.textRun cs) cs where
  isPrefix := Lexeme.textRun_isPrefix cs
  -- Text goes on at least to the first place where a parameter opens.
  length_le i h := by
    fun_induction Lexeme.textRun cs generalizing i with
    | case1 cs ih =>
      obtain ⟨j, rfl⟩ := Nat.exists_eq_add_of_le' h.two_le_of_pair
      exact Nat.succ_le_succ (Nat.succ_le_succ (ih j (OpensAt.pair_iff.1 h)))
    | case2 => exact Nat.zero_le i
    | case3 c cs hn ho ih =>
      cases i with
      | zero => exact absurd (OpensAt.zero_iff.1 h) ho
      | succ i => exact Nat.succ_le_succ (ih i ((OpensAt.cons_iff hn).1 h))
    | case4 => exact Nat.zero_le i
  -- It stops there, or at the end of the text.
  stops := by
    fun_induction Lexeme.textRun cs with
    | case1 cs ih =>
      refine ih.imp (fun heq => ?_) OpensAt.pair_iff.2
      rw [heq]
    | case2 c cs _ ho => exact .inr (OpensAt.zero_iff.2 ho)
    | case3 c cs hn ho ih =>
      refine ih.imp (fun heq => ?_) (OpensAt.cons_iff hn).2
      rw [heq]
    | case4 => exact .inl rfl

/-! ## One token -/

namespace Token

namespace Kind

/-- Whether a token may come behind one of the class `previous`, with so many braces open. -/
def ComesBehind (previous : Option Class) (opened : Int) : Kind → Prop
  | .name _ | .index _ =>
    previous ∈ [some (.mark .dollar), some (.mark .openBrace), some (.mark .pound),
      some (.mark .bang)]
  | .caseMark _ =>
    0 < opened ∧ (previous = some .name ∨ previous = some .index ∨
      ∃ k, previous = some (.caseMark k))
  | .mark .dollar => previous ≠ some (.mark .dollar)
  | .mark _ => 0 < opened ∨ previous = some (.mark .dollar)
  | .text _ => True

theorem map_tokenClass_eq_mark_iff {q : Option Kind} {m : Mark} :
    q.map tokenClass = some (.mark m) ↔ q = some (.mark m) := by
  rcases q with _ | k
  · simp
  · cases k <;> simp [tokenClass]

theorem any_introducesIdentifier_iff {q : Option Kind} :
    q.any (·.introducesIdentifier) = true ↔ q.map tokenClass ∈
      [some (.mark .dollar), some (.mark .openBrace), some (.mark .pound), some (.mark .bang)] := by
  rcases q with _ | k
  · simp
  · cases k with
    | mark m => cases m <;> simp [introducesIdentifier, tokenClass]
    | _ => simp [introducesIdentifier, tokenClass]

theorem any_admitsCaseMark_iff {q : Option Kind} :
    q.any (·.admitsCaseMark) = true ↔ q.map tokenClass = some .name ∨ q.map tokenClass = some .index ∨
      ∃ k, q.map tokenClass = some (.caseMark k) := by
  rcases q with _ | k
  · simp
  · cases k <;> simp [admitsCaseMark, tokenClass]

/-- Whether a token that covers `slice` reaches as far as it can in front of `cs`, inside a parameter
or outside. -/
def Reaches (inside : Prop) (slice cs : List Char) : Kind → Prop
  | .name _ =>
    IsLongestRun isNameChar slice cs ∧ ∃ c, slice.head? = some c ∧ Text.isNumeric c = false
  | .index _ => IsLongestRun Text.isNumeric slice cs ∧ slice ≠ []
  | .text _ =>
    (inside → IsLongestRun (fun c => c ≠ '}' && c ≠ '\n') slice cs) ∧
      (¬ inside → ReachesParam slice cs)
  | .mark _ | .caseMark _ => True

end Kind

/-- The number of open braces behind a token, counted in the integers. A brace that closes nothing
leaves none open. -/
def countBrace (n : Int) : Kind → Int
  | .mark .openBrace => n + 1
  | .mark .closeBrace => max (n - 1) 0
  | _ => n

/-- The number of open braces behind some tokens. -/
def openBraces (ks : List Kind) : Int := ks.foldl countBrace 0

theorem countBrace_natCast (n : Nat) (k : Kind) : countBrace n k = k.nesting n := by
  cases k with
  | mark m =>
    cases m with
    | closeBrace =>
      simp only [countBrace, Kind.nesting]
      omega
    | _ => rfl
  | _ => rfl

theorem openBraces_eq (ks : List Kind) : openBraces ks = nestings ks 0 := by
  have hcount (n : Nat) : ks.foldl countBrace n = nestings ks n := by
    induction ks generalizing n with
    | nil => rfl
    | cons k ks ih => rw [List.foldl_cons, countBrace_natCast, ih, nestings_cons]
  exact hcount 0

end Token

namespace Lexer

open Token

/-- Which tokens a step of the lexer can read is told by the token before. -/
theorem Reads.comesBehind {l : Lexer} {x : Lexeme} (h : Reads l x) (hl : l.Coherent) :
    x.kind.ComesBehind (l.previous.map Kind.tokenClass) l.nesting := by
  cases h with
  | mark m cs hr hd hi =>
    have hinside (hm : m ≠ .dollar) :
        0 < (l.nesting : Int) ∨ l.previous.map Kind.tokenClass = some (.mark .dollar) := by
      rw [Kind.map_tokenClass_eq_mark_iff, Int.natCast_pos, ← inParam_iff]
      exact hi.resolve_right fun h => hm h.1
    cases m with
    | dollar =>
      intro hp
      -- Behind a dollar sign the next character is another one.
      exact (hl (Kind.map_tokenClass_eq_mark_iff.1 hp)).1 (by rw [hr]; rfl)
    | _ => exact hinside (by decide)
  | caseMark k cs hr hi hp =>
    have hbehind := Kind.any_admitsCaseMark_iff.1 hp
    refine ⟨?_, hbehind⟩
    rcases inParam_iff.1 hi with hpos | hdollar
    · exact Int.natCast_pos.2 hpos
    · simp [hdollar, Kind.admitsCaseMark] at hp
  | index c cs hr hc hi hp | name c cs hr hn hc hi hp => exact Kind.any_introducesIdentifier_iff.1 hp
  | paramText | text => trivial

/-- A token reaches as far as it can. -/
theorem Reads.reaches {l : Lexer} {x : Lexeme} (h : Reads l x) :
    x.kind.Reaches (l.inParam = true) x.slice l.cursor.rest := by
  -- Nothing is asked of marks. Every other token is read as the longest run of its kind.
  cases h with
  | mark | caseMark => trivial
  | index c cs hr hc =>
    refine ⟨.takeWhile _ _, ?_⟩
    rw [hr, List.takeWhile_cons_of_pos hc]
    exact List.cons_ne_nil _ _
  | name c cs hr hn hc =>
    refine ⟨.takeWhile _ _, c, ?_, hn⟩
    rw [hr, List.takeWhile_cons_of_pos hc]
    rfl
  | paramText hi =>
    refine ⟨fun _ => ?_, fun hn => absurd hi hn⟩
    rw [Lexeme.paramTextRun_eq_takeWhile]
    exact .takeWhile _ _
  | text hi => exact ⟨fun hn => by simp [hi] at hn, fun _ => reachesParam_textRun _⟩

/-! ## All tokens -/

section

variable {text : String} {before : List Token} {l l' : Lexer} (h : Runs (.ofString text) before l)

include h

theorem Runs.openBraces_eq : openBraces (kinds before) = l.nesting := by
  rw [h.nesting_eq]
  exact Token.openBraces_eq _

theorem Runs.map_previous_eq :
    l.previous.map Kind.tokenClass = before.getLast?.map (·.kind.tokenClass) := by
  rw [h.previous_eq, kinds, List.getLast?_map]
  exact (congrArg _ Option.or_none).trans (Option.map_map ..)

/-- In front of a token, the lexer stands at its start. -/
theorem Runs.slice_of_moves {x : Lexeme} {t : Token} (hx : Moves l x t l') :
    t.slice text = x.slice ∧ text.toList.drop t.start.index = l.cursor.rest := by
  obtain ⟨cs, hrest, hplace⟩ := h.covers
  have htext : text.toList = cs ++ l.cursor.rest := hrest
  -- What has been read so far tells where the token starts, and its lexeme where it stops.
  have hstart : t.start = Position.start.steps cs := hx.start.trans hplace
  have hstop : t.stop = Position.start.steps (cs ++ x.slice) := by
    rw [hx.stop, hx.position, hplace, Position.steps_append]
    rfl
  constructor
  · have hslice : text.toList = cs ++ x.slice ++ l'.cursor.rest := by
      rw [htext, hx.rest, List.append_assoc]
    exact slice_eq hslice hstart hstop
  · rw [hstart, Position.index_start_steps, htext, List.drop_left]

end

end Lexer

open Token Lexer in
/-- The tokens of any text, one that forms no template included. The lexer stands inside as many braces
as the tokens before leave open. These and the token before tell which tokens can come, and every token
reaches as far as it can: a name or an index to the first character that does not belong to it, text
inside a parameter to a closing brace or the end of the line, and other text to the next parameter. -/
theorem tokens_in_context {text : String} {before more : List Token} {t : Token}
    (h : tokenize text = before ++ t :: more) :
    let previous := before.getLast?.map (·.kind.tokenClass)
    let opened := openBraces (kinds before)
    (∃ l l', Runs (.ofString text) before l ∧ l.next? = some (t, l') ∧
      (l.nesting : Int) = opened ∧ (l'.nesting : Int) = openBraces (kinds (before ++ [t]))) ∧
    0 ≤ openBraces (kinds (before ++ [t])) ∧
    t.kind.ComesBehind previous opened ∧
    t.kind.Reaches (0 < opened ∨ previous = some (.mark .dollar)) (t.slice text)
      (text.toList.drop t.start.index) := by
  intro previous opened
  have hr : Runs (.ofString text) (before ++ t :: more) (Lexer.ofString text).exhausted :=
    h ▸ (runs_exhausted (.ofString text)).1
  -- The run of the lexer is cut in front of the token, and one step reads it.
  obtain ⟨l, hbefore, hrest⟩ := hr.exists_of_append
  cases hrest with
  | @step _ l' _ _ _ hs _ =>
    obtain ⟨x, hx⟩ := moves_of_next? hs
    have hopened : opened = l.nesting := hbefore.openBraces_eq
    have hprevious : l.previous.map Kind.tokenClass = previous := hbefore.map_previous_eq
    have hopened' := (hbefore.append (.step hs (.done l'))).openBraces_eq
    refine ⟨⟨l, l', hbefore, hs, hopened.symm, hopened'.symm⟩, ?_, ?_, ?_⟩
    · rw [hopened']
      exact Int.natCast_nonneg _
    · rw [hopened, ← hprevious, hx.kind]
      exact hx.reads.comesBehind (hbefore.coherent (coherent_ofString text))
    · have hinside : 0 < opened ∨ previous = some (.mark .dollar) ↔ l.inParam = true := by
        rw [hopened, ← hprevious, Kind.map_tokenClass_eq_mark_iff, Int.natCast_pos, inParam_iff]
      obtain ⟨hslice, hcs⟩ := hbefore.slice_of_moves hx
      rw [hslice, hcs, hx.kind, hinside]
      exact hx.reads.reaches

/-- A text with a pair of dollar signs in it up to a parameter, and the name of the parameter. -/
theorem tokens_in_context_pair :
    ReachesParam ['$', '$', '-'] "$$-$a-".toList ∧ IsLongestRun isNameChar ['a'] ['a', '-'] := by
  have hbehind : (⟨⟨"$a-".toList, ⟨3, 1, 4⟩⟩, some (.text "$-"), 0⟩ : Lexer).tokens =
      [⟨.mark .dollar, ⟨3, 1, 4⟩, ⟨4, 1, 5⟩⟩, ⟨.name "a", ⟨4, 1, 5⟩, ⟨5, 1, 6⟩⟩,
       ⟨.text "-", ⟨5, 1, 6⟩, ⟨6, 1, 7⟩⟩] := by
    rw [Lexer.tokens_of_some rfl, Lexer.tokens_of_some rfl, Lexer.tokens_of_some rfl,
      Lexer.tokens_of_none rfl]
    rfl
  have htokens : tokenize "$$-$a-" =
      [⟨.text "$-", .start, ⟨3, 1, 4⟩⟩, ⟨.mark .dollar, ⟨3, 1, 4⟩, ⟨4, 1, 5⟩⟩] ++
        ⟨.name "a", ⟨4, 1, 5⟩, ⟨5, 1, 6⟩⟩ :: [⟨.text "-", ⟨5, 1, 6⟩, ⟨6, 1, 7⟩⟩] := by
    rw [tokenize, Lexer.tokens_of_some (show Lexer.next? _ =
      some (_, ⟨⟨"$a-".toList, ⟨3, 1, 4⟩⟩, some (.text "$-"), 0⟩) from rfl), hbehind]
    rfl
  -- The text runs over the pair to the next dollar sign, and the name to the first character that
  -- cannot belong to it.
  constructor
  · have hfirst : tokenize "$$-$a-" = [] ++ ⟨.text "$-", .start, ⟨3, 1, 4⟩⟩ :: _ := htokens
    exact (tokens_in_context hfirst).2.2.2.2 (by decide)
  · exact (tokens_in_context htokens).2.2.2.1

end ParamExpansion
