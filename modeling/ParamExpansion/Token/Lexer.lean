import ParamExpansion.Position
import ParamExpansion.Text.Classes
import ParamExpansion.Token

/-!
# From characters to tokens

The same characters mean different things inside and outside a parameter. Outside, everything up to
the next parameter is one text. Inside, braces and operators are tokens, a name or an index may
follow those that introduce one, and what remains is text up to the closing brace or the end of the
line. Whether a token lies inside follows from the number of open braces and from the token before
it.

`Lexer.next?` reads one token, and `Lexer.tokens` all of them. Reading stops for good at the end of
the text, and also at the end of a line inside a parameter.
-/

namespace ParamExpansion

/-! ## Doubled dollar signs

In a template a dollar sign that stands for itself is written twice.
-/

/-- The text with every dollar sign written twice. -/
def escape (cs : List Char) : List Char :=
  cs.flatMap fun c => if c = '$' then ['$', '$'] else [c]

/-- The text that a run of characters stands for: two dollar signs become one, and pairs are taken
from left to right. -/
def unescape : List Char → List Char
  | '$' :: '$' :: cs => '$' :: unescape cs
  | c :: cs => c :: unescape cs
  | [] => []

/-! ## Indexes

A run of numeric characters names a positional value when all of them are decimal digits, of any
scripts, and the number is not too large. Any other run reads as zero, which names all the
positional values together.
-/

namespace Index

/-- The largest index. -/
def max : Nat := UInt64.size - 1

/-- The longest run that is read as a number. -/
def maxDigits : Nat := 4300

/-- The number that a run of decimal digits denotes in base ten. -/
def value? (digits : List Char) : Option Nat :=
  digits.foldlM (fun n c => (Text.decimalDigit? c).map (10 * n + ·)) 0

/-- The index that a run of numeric characters denotes, zero if it denotes none. -/
def read (run : List Char) : Nat :=
  if run.length ≤ maxDigits then
    match value? run with
    | some n => if n ≤ max then n else 0
    | none => 0
  else 0

theorem read_le_max (run : List Char) : read run ≤ max := by
  unfold read
  split
  · split
    · split
      · assumption
      · exact Nat.zero_le _
    · exact Nat.zero_le _
  · exact Nat.zero_le _

end Index

/-! ## Lexemes -/

/-- Whether the character may occur in a name: letters, numeric characters and the underscore. -/
def isNameChar (c : Char) : Bool := Text.isAlphabetic c || Text.isNumeric c || c == '_'

/-- What one token is, and the characters it is read from. -/
structure Lexeme where
  kind : Token.Kind
  slice : List Char
deriving DecidableEq, Repr

namespace Lexeme

/-! ## Outside a parameter -/

/-- Whether a parameter starts here: at a dollar sign that is not doubled and not the last character
of its line. -/
def opensParam : List Char → Bool
  | '$' :: c :: _ => c != '$' && c != '\n' && c != '\r'
  | _ => false

/-- The characters up to the next parameter. -/
def textRun : List Char → List Char
  | '$' :: '$' :: cs => '$' :: '$' :: textRun cs
  | c :: cs => if opensParam (c :: cs) then [] else c :: textRun cs
  | [] => []

/-! ## Inside a parameter -/

/-- The characters up to the closing brace or the end of the line. Dollar signs are text here, and a
doubled one counts as one. -/
def paramTextRun : List Char → List Char
  | '$' :: '$' :: cs => '$' :: '$' :: paramTextRun cs
  | c :: cs => if c = '}' || c = '\n' then [] else c :: paramTextRun cs
  | [] => []

/-- The operator that stands here. A doubled dollar sign is none. -/
def mark? : List Char → Option Mark
  | '$' :: '$' :: _ => none
  | c :: _ => Mark.ofChar? c
  | [] => none

/-- A run of text, unless it is empty. -/
def text? (run : List Char) : Option Lexeme :=
  if run.isEmpty then none else some ⟨.text (String.ofList (unescape run)), run⟩

/-- The name or index that starts here. -/
def identifier? : List Char → Option Lexeme
  | [] => none
  | c :: cs =>
    if Text.isNumeric c then
      let run := (c :: cs).takeWhile Text.isNumeric
      some ⟨.index (Index.read run), run⟩
    else if isNameChar c then
      let run := (c :: cs).takeWhile isNameChar
      some ⟨.name (String.ofList run), run⟩
    else none

/-- The token inside a parameter that starts here, behind the token `previous`. -/
def inParam? (previous : Option Token.Kind) (cs : List Char) : Option Lexeme :=
  match mark? cs with
  | some m => some ⟨.mark m, cs.take 1⟩
  | none =>
    match cs.head?.bind CaseChange.ofChar? with
    | some k =>
      if previous.any (·.admitsCaseMark) then some ⟨.caseMark k, cs.take 1⟩
      else text? (paramTextRun cs)
    | none =>
      if previous.any (·.introducesIdentifier) then identifier? cs <|> text? (paramTextRun cs)
      else text? (paramTextRun cs)

end Lexeme

/-- How far the reading of tokens has got. -/
structure Lexer where
  cursor : Cursor
  /-- The token read last. -/
  previous : Option Token.Kind := none
  /-- The number of open braces. -/
  nesting : Nat := 0
deriving DecidableEq, Repr

namespace Lexer

/-- The beginning of a text. -/
def ofString (text : String) : Lexer := { cursor := .ofString text }

/-- Whether the next token lies inside a parameter. -/
def inParam (l : Lexer) : Bool := 0 < l.nesting || l.previous == some (.mark .dollar)

/-- The token that starts here. -/
def lexeme? (l : Lexer) : Option Lexeme :=
  if l.inParam || Lexeme.opensParam l.cursor.rest then Lexeme.inParam? l.previous l.cursor.rest
  else Lexeme.text? (Lexeme.textRun l.cursor.rest)

/-- Moves behind a token. -/
def skip (l : Lexer) (x : Lexeme) : Lexer where
  cursor := l.cursor.skip x.slice.length
  previous := some x.kind
  nesting := x.kind.nesting l.nesting

/-- Reads one token. -/
def next? (l : Lexer) : Option (Token × Lexer) :=
  l.lexeme?.map fun x =>
    (⟨x.kind, l.cursor.position, (l.skip x).cursor.position⟩, l.skip x)

end Lexer

/-! ## Every token covers a character -/

namespace Lexeme

theorem slice_ne_nil_of_text? {run : List Char} {x : Lexeme} (h : text? run = some x) :
    x.slice ≠ [] := by
  unfold text? at h
  split at h
  · cases h
  · next hr => cases h; simpa using hr

private theorem takeWhile_cons_ne_nil {p : Char → Bool} {c : Char} {cs : List Char}
    (h : p c = true) : (c :: cs).takeWhile p ≠ [] := by simp [h]

theorem slice_ne_nil_of_identifier? {cs : List Char} {x : Lexeme} (h : identifier? cs = some x) :
    x.slice ≠ [] := by
  cases cs with
  | nil => cases h
  | cons c cs =>
    simp only [identifier?] at h
    by_cases hn : Text.isNumeric c = true
    · rw [if_pos hn] at h
      cases h
      exact takeWhile_cons_ne_nil hn
    · rw [if_neg hn] at h
      by_cases hc : isNameChar c = true
      · rw [if_pos hc] at h
        cases h
        exact takeWhile_cons_ne_nil hc
      · rw [if_neg hc] at h
        cases h

theorem slice_ne_nil_of_inParam? {previous : Option Token.Kind} {cs : List Char} {x : Lexeme}
    (h : inParam? previous cs = some x) : x.slice ≠ [] := by
  unfold inParam? at h
  cases cs with
  | nil => simp [mark?, paramTextRun, identifier?, text?] at h
  | cons c cs =>
    repeat' split at h
    · cases h; simp
    · cases h; simp
    · exact slice_ne_nil_of_text? h
    · rcases hi : identifier? (c :: cs) with _ | y
      · rw [hi] at h; exact slice_ne_nil_of_text? h
      · rw [hi] at h; cases h; exact slice_ne_nil_of_identifier? hi
    · exact slice_ne_nil_of_text? h

end Lexeme

namespace Lexer

theorem slice_ne_nil_of_lexeme? {l : Lexer} {x : Lexeme} (h : l.lexeme? = some x) :
    x.slice ≠ [] := by
  unfold lexeme? at h
  split at h
  · exact Lexeme.slice_ne_nil_of_inParam? h
  · exact Lexeme.slice_ne_nil_of_text? h

/-- Nothing is read at the end of the text. -/
theorem lexeme?_of_rest_eq_nil {l : Lexer} (h : l.cursor.rest = []) : l.lexeme? = none := by
  unfold lexeme?
  rw [h]
  split
  · simp [Lexeme.inParam?, Lexeme.mark?, Lexeme.paramTextRun, Lexeme.identifier?, Lexeme.text?]
  · rfl

theorem rest_length_lt_of_next? {l l' : Lexer} {t : Token} (h : l.next? = some (t, l')) :
    l'.cursor.rest.length < l.cursor.rest.length := by
  unfold next? at h
  obtain ⟨x, hx, hl⟩ := Option.map_eq_some_iff.1 h
  have hs := slice_ne_nil_of_lexeme? hx
  have hr : l.cursor.rest ≠ [] := fun hr => by simp [lexeme?_of_rest_eq_nil hr] at hx
  cases hl
  simp only [skip, Cursor.rest_skip, List.length_drop]
  have := List.length_pos_iff.2 hs
  have := List.length_pos_iff.2 hr
  omega

/-- All the tokens from here on. -/
def tokens (l : Lexer) : List Token :=
  match _h : l.next? with
  | none => []
  | some (t, l') => t :: l'.tokens
termination_by l.cursor.rest.length
decreasing_by exact rest_length_lt_of_next? _h

end Lexer

/-- The tokens of a text. -/
def tokenize (text : String) : List Token := (Lexer.ofString text).tokens

/-! ## Where tokens come from

A parser takes its tokens one at a time, either from a lexer, which reads them when they are asked
for, or from a list of tokens that have been read before.
-/

/-- A supply of tokens that runs dry. -/
class TokenSource (σ : Type) where
  /-- Takes one token. -/
  next? : σ → Option (Token × σ)
  /-- A bound on the number of tokens left. -/
  size : σ → Nat
  size_lt_of_next? {s s' : σ} {t : Token} : next? s = some (t, s') → size s' < size s

instance : TokenSource Lexer where
  next? := Lexer.next?
  size l := l.cursor.rest.length
  size_lt_of_next? := Lexer.rest_length_lt_of_next?

instance : TokenSource (List Token) where
  next?
    | [] => none
    | t :: ts => some (t, ts)
  size := List.length
  size_lt_of_next? {s s' t} h := by
    cases s with
    | nil => cases h
    | cons => cases h; exact Nat.lt_succ_self _

end ParamExpansion
