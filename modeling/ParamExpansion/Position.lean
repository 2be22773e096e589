/-!
# Positions in a text

A position counts the characters before it, and says on which line and in which column it lies. Only
a line feed starts a new line.
-/

namespace ParamExpansion

/-- A place between two characters of a text. -/
structure Position where
  /-- How many characters lie before it. -/
  index : Nat := 0
  /-- The line, counted from one. -/
  line : Nat := 1
  /-- The column, counted from one. -/
  col : Nat := 1
deriving DecidableEq, Repr

namespace Position

/-- The beginning of every text. -/
def start : Position := {}

/-- The position behind the character `c`. -/
def step (p : Position) (c : Char) : Position :=
  if c = '\n' then ⟨p.index + 1, p.line + 1, 1⟩ else ⟨p.index + 1, p.line, p.col + 1⟩

/-- The position behind all of `cs`. -/
def steps (p : Position) (cs : List Char) : Position := cs.foldl step p

instance : ToString Position := ⟨fun p => s!"{p.line}:{p.col}"⟩

@[simp] theorem steps_nil (p : Position) : p.steps [] = p := rfl

@[simp] theorem steps_cons (p : Position) (c : Char) (cs : List Char) :
    p.steps (c :: cs) = (p.step c).steps cs := rfl

theorem steps_append (p : Position) (cs ds : List Char) :
    p.steps (cs ++ ds) = (p.steps cs).steps ds := List.foldl_append

@[simp] theorem index_step (p : Position) (c : Char) : (p.step c).index = p.index + 1 := by
  unfold step; split <;> rfl

@[simp] theorem index_steps (p : Position) (cs : List Char) :
    (p.steps cs).index = p.index + cs.length := by
  induction cs generalizing p with
  | nil => rfl
  | cons c cs ih => rw [steps_cons, ih, index_step, List.length_cons]; omega

end Position

/-! ## Reading a text from left to right

A cursor stands between the characters already read and those still to be read. Looking ahead moves
nothing, and the end of the text is no error: there is nothing more to see or to read.
-/

/-- A place in a text, with the characters behind it. -/
structure Cursor where
  /-- The characters still to be read. -/
  rest : List Char
  /-- Where the first of them lies. -/
  position : Position := .start
deriving DecidableEq, Repr

namespace Cursor

/-- The cursor at the beginning of a text. -/
def ofString (text : String) : Cursor := { rest := text.toList }

/-- The next character. -/
def peek? (c : Cursor) : Option Char := c.rest.head?

/-- The characters up to `n` further on, fewer at the end of the text. A negative `n` that reaches
past the beginning of the text names an offset counted back from its end. -/
def ahead (c : Cursor) (n : Int) : List Char :=
  let stop := c.position.index + n
  c.rest.take (if stop < 0 then c.rest.length + stop else n).toNat

/-- Moves over `n` characters, or over all that are left. -/
def skip (c : Cursor) (n : Nat) : Cursor :=
  ⟨c.rest.drop n, c.position.steps (c.rest.take n)⟩

/-- Reads one character. -/
def next? (c : Cursor) : Option (Char × Cursor) := c.peek?.map fun x => (x, c.skip 1)

/-- Reads the longest run of characters that satisfy `p`. -/
def takeWhile (c : Cursor) (p : Char → Bool) : List Char × Cursor :=
  let run := c.rest.takeWhile p
  (run, c.skip run.length)

@[simp] theorem rest_skip (c : Cursor) (n : Nat) : (c.skip n).rest = c.rest.drop n := rfl

@[simp] theorem position_skip (c : Cursor) (n : Nat) :
    (c.skip n).position = c.position.steps (c.rest.take n) := rfl

end Cursor

end ParamExpansion
