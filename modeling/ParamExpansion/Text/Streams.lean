import ParamExpansion.Text.Quoted

/-!
# Texts that come as bytes

A stream of bytes is decoded, and the text is cut into lines.
-/

namespace ParamExpansion.Text

/-! ## Decoding UTF-8

A character takes one to four bytes. The first byte tells how many follow it, and in which range the
second one may lie, so that no character has two forms. Decoding is strict: the first fault ends it.
A fault covers the bytes of a character up to the first byte that cannot follow.
-/

namespace Utf8

/-- A range of bytes, with both its ends. -/
abbrev ByteRange := Nat × Nat

/-- The bytes that continue a character. -/
def continuation : ByteRange := (0x80, 0xBF)

/-- The first bytes of characters, with the ranges of the bytes that follow them. -/
def forms : List (ByteRange × List ByteRange) :=
  [((0x00, 0x7F), []),
   ((0xC2, 0xDF), [continuation]),
   ((0xE0, 0xE0), [(0xA0, 0xBF), continuation]),
   ((0xE1, 0xEC), [continuation, continuation]),
   ((0xED, 0xED), [(0x80, 0x9F), continuation]),
   ((0xEE, 0xEF), [continuation, continuation]),
   ((0xF0, 0xF0), [(0x90, 0xBF), continuation, continuation]),
   ((0xF1, 0xF3), [continuation, continuation, continuation]),
   ((0xF4, 0xF4), [(0x80, 0x8F), continuation, continuation])]

/-- Whether a byte lies in a range. -/
def inRange (range : ByteRange) (byte : UInt8) : Bool :=
  range.1 ≤ byte.toNat && byte.toNat ≤ range.2

/-- The ranges of the bytes that follow a first byte. -/
def following? (byte : UInt8) : Option (List ByteRange) :=
  (forms.find? fun form => inRange form.1 byte).map (·.2)

/-- What is wrong with some bytes. -/
inductive Reason where
  /-- No character starts with the byte. -/
  | startByte
  /-- The next byte cannot follow. -/
  | continuationByte
  /-- The bytes end inside a character. -/
  | endOfData
deriving DecidableEq, Repr

/-- The text of the reason. -/
def Reason.message : Reason → String
  | startByte => "invalid start byte"
  | continuationByte => "invalid continuation byte"
  | endOfData => "unexpected end of data"

/-- Bytes that are no character. -/
structure Fault where
  /-- The number of bytes before them. -/
  start : Nat
  bytes : List UInt8
  reason : Reason
deriving DecidableEq, Repr

/-- The text of a fault. -/
def Fault.message (f : Fault) : String :=
  let place :=
    match f.bytes with
    | [byte] => s!"byte 0x{String.ofList (hex 2 byte.toNat)} in position {f.start}"
    | bytes => s!"bytes in position {f.start}-{f.start + bytes.length - 1}"
  s!"'utf-8' codec can't decode {place}: {f.reason.message}"

/-- The bytes of a character that have been read, and the ranges of those that follow. -/
structure Partial where
  bytes : List UInt8
  /-- The bits of the character in these bytes. -/
  bits : Nat
  expected : List ByteRange
deriving DecidableEq, Repr

/-- The first byte of a character of several bytes. -/
def Partial.first (byte : UInt8) (expected : List ByteRange) : Partial :=
  ⟨[byte], byte.toNat % (64 >>> expected.length), expected⟩

/-- The characters from the byte number `start` on, where `begun` has been read of the first one. -/
def decodeFrom (start : Nat) (begun : Option Partial) : List UInt8 → Except Fault (List Char)
  | [] =>
    match begun with
    | none => .ok []
    | some p => .error ⟨start, p.bytes, .endOfData⟩
  | byte :: rest =>
    match begun with
    | none =>
      match following? byte with
      | none => .error ⟨start, [byte], .startByte⟩
      | some [] => (decodeFrom (start + 1) none rest).map (Char.ofNat byte.toNat :: ·)
      | some expected => decodeFrom start (some (.first byte expected)) rest
    | some p =>
      if p.expected.head?.any (inRange · byte) then
        let bytes := p.bytes ++ [byte]
        let bits := 64 * p.bits + byte.toNat % 64
        -- The last byte expected completes the character.
        if p.expected.length = 1 then
          (decodeFrom (start + bytes.length) none rest).map (Char.ofNat bits :: ·)
        else decodeFrom start (some ⟨bytes, bits, p.expected.drop 1⟩) rest
      else .error ⟨start, p.bytes, .continuationByte⟩

/-- The characters that bytes denote. -/
def decode (bytes : List UInt8) : Except Fault (List Char) := decodeFrom 0 none bytes

/-- Whether more bytes after the last one might mend the fault, or move it. The first two bytes of a
surrogate wait for the third one, too. -/
def Fault.mayBeMended (f : Fault) (bytes : List UInt8) : Bool :=
  f.reason = .endOfData ||
    match bytes.drop f.start with
    | [first, second] => first = 0xED && inRange (0xA0, 0xBF) second
    | _ => false

end Utf8

/-! ## Lines

There are two notions of a line. A line of a stream ends with a line feed, a carriage return, or a
carriage return and a line feed, and keeps its end. A line of a list of entries also ends at the
other characters that break lines, and loses its end.
-/

/-- Every end of a line as a line feed. -/
def unifyNewlines : List Char → List Char
  | '\r' :: '\n' :: cs => '\n' :: unifyNewlines cs
  | '\r' :: cs => '\n' :: unifyNewlines cs
  | c :: cs => c :: unifyNewlines cs
  | [] => []

/-- Puts characters in front of the first line. -/
def prependToFirst (cs : List Char) : List (List Char) → List (List Char)
  | [] => [cs]
  | line :: lines => (cs ++ line) :: lines

/-- The lines of a stream, each one with its end. -/
def streamLines : List Char → List (List Char)
  | '\r' :: '\n' :: cs => ['\r', '\n'] :: streamLines cs
  | [] => []
  | c :: cs =>
    if c = '\n' ∨ c = '\r' then [c] :: streamLines cs else prependToFirst [c] (streamLines cs)

/-- The characters that break lines. -/
def isLineBreak (c : Char) : Bool :=
  c ∈ ['\n', '\x0b', '\x0c', '\r', '\x1c', '\x1d', '\x1e', '\u0085', '\u2028', '\u2029']

/-- The lines of a list of entries, without their ends. -/
def entryLines : List Char → List (List Char)
  | '\r' :: '\n' :: cs => [] :: entryLines cs
  | [] => []
  | c :: cs => if isLineBreak c then [] :: entryLines cs else prependToFirst [c] (entryLines cs)

end ParamExpansion.Text
