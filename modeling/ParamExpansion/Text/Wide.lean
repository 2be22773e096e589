import ParamExpansion.Text.Quoted

/-!
# Texts with lone surrogates

A document can name every code point by its number, and so a surrogate without its partner, which is
no character. A text of a document may therefore hold code points that no string holds. Such a text
can be compared with others, put together with them and shown in a message, where each surrogate
appears as an escape. It has no encoding, so it cannot be written.
-/

namespace ParamExpansion

/-- A code point of a text. -/
inductive CodePoint where
  | char (c : Char)
  /-- The surrogate `0xD800 + offset`, without a partner. -/
  | surrogate (offset : Fin 0x800)
deriving DecidableEq, Repr

namespace CodePoint

/-- The code point with a number. -/
def ofNat (n : Nat) : CodePoint :=
  if h : 0xD800 ≤ n ∧ n < 0xE000 then .surrogate ⟨n - 0xD800, by omega⟩ else .char (Char.ofNat n)

/-- The number of the code point. -/
def toNat : CodePoint → Nat
  | char c => c.toNat
  | surrogate offset => 0xD800 + offset

/-- Whether the code point is no character. -/
def isSurrogate : CodePoint → Bool
  | char _ => false
  | surrogate _ => true

/-- The character, if the code point is one. -/
def char? : CodePoint → Option Char
  | char c => some c
  | surrogate _ => none

/-- The code point where only characters can be shown. -/
def shown : CodePoint → List Char
  | char c => [c]
  | surrogate offset => '\\' :: 'u' :: Text.hex 4 (surrogate offset).toNat

/-- The code point between two quotation marks. -/
def quoted (mark : Char) : CodePoint → List Char
  | char c => Text.Quoted.encodeChar mark c
  | surrogate offset => shown (surrogate offset)

end CodePoint

/-- A text of a document. -/
inductive WideText where
  | plain (text : String)
  /-- A text with a lone surrogate in it. -/
  | torn (points : List CodePoint) (h : points.any CodePoint.isSurrogate = true)
deriving DecidableEq, Repr

namespace WideText

instance : Coe String WideText := ⟨plain⟩

/-- The text of some code points. -/
def ofPoints (points : List CodePoint) : WideText :=
  if h : points.any CodePoint.isSurrogate = true then .torn points h
  else .plain (String.ofList (points.filterMap CodePoint.char?))

/-- The code points of the text. -/
def points : WideText → List CodePoint
  | plain text => text.toList.map .char
  | torn points _ => points

/-- Whether the text is a string, so that it can be written. -/
def isPlain : WideText → Bool
  | plain _ => true
  | torn .. => false

/-- Whether the text has no code points. -/
def isEmpty (t : WideText) : Bool := t.points.isEmpty

/-- One text behind another. Surrogates that come together stay apart. -/
def append : WideText → WideText → WideText
  | plain text, plain more => plain (text ++ more)
  | torn points h, more => torn (points ++ more.points) (by simp [h])
  | plain text, torn points h => torn ((plain text).points ++ points) (by simp [h])

instance : Append WideText := ⟨append⟩

/-- A message shows a surrogate as an escape. -/
instance : ToString WideText where
  toString
    | plain text => text
    | torn points _ => String.ofList (points.flatMap CodePoint.shown)

/-- The text between quotation marks. -/
def quoted : WideText → String
  | plain text => Text.quote text
  | torn points _ =>
    let mark := Text.Quoted.mark (points.filterMap CodePoint.char?)
    String.ofList (mark :: points.flatMap (CodePoint.quoted mark) ++ [mark])

@[simp] theorem isPlain_plain (text : String) : (plain text).isPlain = true := rfl

@[simp] theorem plain_append (text more : String) :
    (plain text ++ plain more : WideText) = plain (text ++ more) := rfl

@[simp] theorem toString_plain (text : String) : toString (plain text) = text := rfl

/-- Characters make up a plain text. -/
theorem ofPoints_map_char (cs : List Char) : ofPoints (cs.map .char) = plain (String.ofList cs) := by
  have hnone : ¬ (cs.map CodePoint.char).any CodePoint.isSurrogate = true := by
    simp [CodePoint.isSurrogate]
  rw [ofPoints, dif_neg hnone, List.filterMap_map]
  exact congrArg (fun ds => plain (String.ofList ds)) List.filterMap_some

/-- A text is made up of its code points. -/
theorem ofPoints_points (t : WideText) : ofPoints t.points = t := by
  cases t with
  | plain text => rw [points, ofPoints_map_char, String.ofList_toList]
  | torn points h => exact dif_pos h

end WideText

end ParamExpansion
