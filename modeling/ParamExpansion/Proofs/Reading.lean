import ParamExpansion.Position
import ParamExpansion.Proofs.Locations

/-!
# What a cursor has read

Whatever a cursor is asked for, and in whatever order, what it has read and what is still to be read
make up the text, and its position is that of the cut between them. So every answer is told by the
index alone.
-/

namespace ParamExpansion

/-- Whether a run of characters that satisfy `p` is the longest one at the front of some characters. -/
structure IsLongestRun (p : Char → Bool) (run cs : List Char) : Prop where
  isPrefix : run <+: cs
  all : ∀ c ∈ run, p c = true
  /-- The next character, if there is one, does not continue the run. -/
  stops : ∀ c, cs[run.length]? = some c → p c = false

theorem IsLongestRun.takeWhile (p : Char → Bool) (cs : List Char) :
    IsLongestRun p (cs.takeWhile p) cs where
  isPrefix := List.takeWhile_prefix p
  all _ hc := List.mem_takeWhile_imp hc
  stops := by
    induction cs with
    | nil => simp
    | cons x xs ih => by_cases hx : p x = true <;> simp_all

namespace Cursor

/-! ## Requests -/

/-- What a cursor can be asked for. -/
inductive Request where
  /-- To look at the next character. -/
  | peek
  /-- To look at so many characters. -/
  | ahead (n : Nat)
  /-- To read the next character. -/
  | next
  /-- To read the longest run of characters that satisfy `p`. -/
  | takeWhile (p : Char → Bool)

/-- What a cursor answers. -/
inductive Answer where
  | char (c? : Option Char)
  | run (cs : List Char)
deriving DecidableEq, Repr

/-- Carries out a request. -/
def serve (c : Cursor) : Request → Answer × Cursor
  | .peek => (.char c.peek?, c)
  | .ahead n => (.run (c.ahead n), c)
  | .next =>
    match c.next? with
    | some (x, c') => (.char (some x), c')
    | none => (.char none, c)
  | .takeWhile p => (.run (c.takeWhile p).1, (c.takeWhile p).2)

/-- The characters that are read with the answer to a request. Looking reads none. -/
def Request.read : Request → Answer → List Char
  | .next, .char c? => c?.toList
  | .takeWhile _, .run cs => cs
  | _, _ => []

/-- Carries out requests one after the other. The characters that they read come with the cursor
behind them. -/
def serveAll (c : Cursor) : List Request → List Char × Cursor
  | [] => ([], c)
  | r :: rs =>
    let (answer, c') := c.serve r
    let (read, last) := c'.serveAll rs
    (r.read answer ++ read, last)

/-! ## What requests preserve -/

/-- Whether a cursor in a text stands behind some characters, and all others are still to be read. -/
structure HasRead (c : Cursor) (text : String) (read : List Char) : Prop where
  text_eq : text.toList = read ++ c.rest
  position_eq : c.position = Position.start.steps read

theorem hasRead_ofString (text : String) : (ofString text).HasRead text [] := ⟨rfl, rfl⟩

namespace HasRead

variable {c : Cursor} {text : String} {read : List Char}

theorem skip (h : c.HasRead text read) (n : Nat) :
    (c.skip n).HasRead text (read ++ c.rest.take n) where
  text_eq := by rw [rest_skip, List.append_assoc, List.take_append_drop, h.text_eq]
  position_eq := by rw [position_skip, h.position_eq, Position.steps_append]

theorem serve (h : c.HasRead text read) (r : Request) :
    (c.serve r).2.HasRead text (read ++ r.read (c.serve r).1) := by
  -- Looking moves nothing, and the other requests skip what they give.
  cases r with
  | peek | ahead n => simpa [Cursor.serve, Request.read] using h
  | next =>
    cases hrest : c.rest with
    | nil => simpa [Cursor.serve, Request.read, next?, peek?, hrest] using h
    | cons x xs =>
      have hskip := h.skip 1
      rw [hrest, List.take_succ_cons, List.take_zero] at hskip
      simpa [Cursor.serve, Request.read, next?, peek?, hrest] using hskip
  | takeWhile p =>
    have hskip := h.skip (c.rest.takeWhile p).length
    rwa [← List.prefix_iff_eq_take.1 (List.takeWhile_prefix p)] at hskip

theorem serveAll (h : c.HasRead text read) (rs : List Request) :
    (c.serveAll rs).2.HasRead text (read ++ (c.serveAll rs).1) := by
  induction rs generalizing c read with
  | nil => simpa [Cursor.serveAll] using h
  | cons r rs ih =>
    have hrest := ih (h.serve r)
    rwa [List.append_assoc] at hrest

/-! ## What the index tells -/

theorem index_eq (h : c.HasRead text read) : c.position.index = read.length := by
  rw [h.position_eq, Position.index_start_steps]

theorem read_eq (h : c.HasRead text read) : read = text.toList.take c.position.index := by
  rw [h.index_eq, h.text_eq, List.take_left]

theorem rest_eq (h : c.HasRead text read) : c.rest = text.toList.drop c.position.index := by
  rw [h.index_eq, h.text_eq, List.drop_left]

theorem liesIn (h : c.HasRead text read) : c.position.LiesIn text :=
  h.position_eq ▸ Position.start_steps_liesIn h.text_eq

theorem peek?_eq (h : c.HasRead text read) : c.peek? = text.toList[c.position.index]? := by
  rw [peek?, h.rest_eq, List.head?_drop]

end HasRead

/-- A number of characters that is not negative is counted from the cursor on. -/
theorem ahead_natCast (c : Cursor) (n : Nat) : c.ahead n = c.rest.take n := by
  have hstop : ¬ ((c.position.index : Int) + n < 0) := by omega
  simp [ahead, hstop]

/-- After any requests, what has been read is the text up to the index, and the line and the column are
those of the index. To look at characters shows those that come next, fewer at the end of the text,
and moves nothing. To read a character moves over it, if there is one, and to read a run moves over
the longest one. -/
theorem serveAll_bookkeeping (text : String) (requests : List Request) :
    let read := ((ofString text).serveAll requests).1
    let c := ((ofString text).serveAll requests).2
    let i := c.position.index
    read = text.toList.take i ∧ c.position.LiesIn text ∧
      c.serve .peek = (.char text.toList[i]?, c) ∧
      (∀ n, c.serve (.ahead n) = (.run ((text.toList.drop i).take n), c)) ∧
      (c.serve .next).1 = .char text.toList[i]? ∧
      (c.serve .next).2.position.index = min (i + 1) text.length ∧
      ∀ p, ∃ run, (c.serve (.takeWhile p)).1 = .run run ∧
        IsLongestRun p run (text.toList.drop i) ∧
        (c.serve (.takeWhile p)).2.position.index = i + run.length := by
  intro read c i
  -- All the requests keep what the cursor has read and what remains together.
  have h : c.HasRead text read := (hasRead_ofString text).serveAll requests
  have hnext : (c.serve .next).1 = .char text.toList[i]? := by
    rw [← h.peek?_eq]
    cases hrest : c.rest <;> simp [serve, next?, peek?, hrest]
  refine ⟨h.read_eq, h.liesIn, ?_, ?_, hnext, ?_, ?_⟩
  · rw [serve, h.peek?_eq]
  · intro n
    rw [serve, ahead_natCast, h.rest_eq]
  · -- One character is read, unless the text has ended.
    have hindex := (h.serve .next).index_eq
    rw [hnext, List.length_append, ← h.index_eq] at hindex
    have hle : i ≤ text.toList.length := h.liesIn.index_le
    rw [hindex, ← String.length_toList]
    rcases Nat.lt_or_eq_of_le hle with hlt | heq
    · rw [List.getElem?_eq_getElem hlt, Nat.min_eq_left hlt]
      rfl
    · rw [List.getElem?_eq_none (Nat.le_of_eq heq.symm), Nat.min_eq_right (by omega)]
      exact heq
  · intro p
    have hindex := (h.serve (.takeWhile p)).index_eq
    rw [List.length_append, ← h.index_eq] at hindex
    exact ⟨c.rest.takeWhile p, rfl, h.rest_eq ▸ .takeWhile p c.rest, hindex⟩

end Cursor

end ParamExpansion
