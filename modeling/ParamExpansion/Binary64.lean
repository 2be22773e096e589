/-!
# Floating point numbers

Numbers of the format binary64, kept as their bits: a sign, eleven bits of exponent and fifty-two of
significand. A finite number is a significand times a power of two. Decimal numbers are rounded to
the nearest one, and a tie goes to the even significand.
-/

namespace ParamExpansion

/-- A number of the format binary64. -/
structure Binary64 where
  bits : UInt64
deriving DecidableEq, Repr

namespace Binary64

/-- The bit of the sign. -/
def signBit : Nat := 0x8000000000000000

/-- The bit above those of the significand, which is not kept. -/
def hiddenBit : Nat := 0x0010000000000000

/-- The magnitude of the infinities. What lies above is not a number. -/
def infinity : Nat := 0x7FF0000000000000

/-- Whether the sign is minus. -/
def negative (x : Binary64) : Bool := signBit ≤ x.bits.toNat

/-- The bits without the sign. Larger numbers have larger ones. -/
def magnitude (x : Binary64) : Nat := x.bits.toNat % signBit

/-- The number with this sign and magnitude. -/
def ofMagnitude (negative : Bool) (magnitude : Nat) : Binary64 :=
  ⟨UInt64.ofNat (magnitude + if negative then signBit else 0)⟩

/-- The value that is not a number. -/
def nan : Binary64 := ofMagnitude false (infinity + hiddenBit / 2)

/-- Whether the number is zero, of either sign. -/
def isZero (x : Binary64) : Bool := x.magnitude = 0

/-- Whether this is not a number. -/
def isNaN (x : Binary64) : Bool := infinity < x.magnitude

/-- The whole number that is multiplied by a power of two. -/
def significand (x : Binary64) : Nat :=
  if x.magnitude < hiddenBit then x.magnitude else x.magnitude % hiddenBit + hiddenBit

/-- The exponent of the power of two. -/
def exponent (x : Binary64) : Int := (max (x.magnitude / hiddenBit) 1 : Nat) - 1075

/-- Whether the number is at most `n`. -/
def atMost (x : Binary64) (n : Nat) : Bool :=
  if x.isNaN then false
  else if x.negative then true
  else x.magnitude < infinity
    && x.significand <<< x.exponent.toNat ≤ n <<< (-x.exponent).toNat

/-- The quotient rounded to the nearest whole number, a tie to the even one. -/
def roundDiv (numerator denominator : Nat) : Nat :=
  let quotient := numerator / denominator
  let twice := 2 * (numerator % denominator)
  if twice < denominator ∨ (twice = denominator ∧ quotient % 2 = 0) then quotient else quotient + 1

/-- The magnitude of the number nearest to a positive quotient. -/
def roundQuotient (numerator denominator : Nat) : Nat :=
  let shifted (q : Int) : Nat × Nat :=
    (numerator <<< (-q).toNat, denominator <<< q.toNat)
  let low : Int := (numerator.log2 : Int) - denominator.log2 - 53
  let fits := (shifted low).1 / (shifted low).2 < 2 * hiddenBit
  let q := max (if fits then low else low + 1) (-1074)
  min infinity ((q + 1074).toNat * hiddenBit + roundDiv (shifted q).1 (shifted q).2)

/-- A power of ten. -/
def tenTo (exponent : Nat) : Nat := Nat.pow 10 exponent

/-- The number nearest to `digits` times ten to the power `exponent`. -/
def ofScientific (negative : Bool) (digits : Nat) (exponent : Int) : Binary64 :=
  let places : Int := (Nat.toDigits 10 digits).length + exponent
  ofMagnitude negative <|
    if digits = 0 ∨ places < -400 then 0
    else if 400 < places then infinity
    else roundQuotient (digits * tenTo exponent.toNat) (tenTo (-exponent).toNat)

/-! ## The shortest decimal text

The fewest digits that read back as the number, and of those the ones nearest to it. The real
numbers that read back as a number form an interval, which holds its ends if the significand is
even. If the interval holds a decimal number of some count of digits, it holds one of the two
neighbours of the number on that decimal grid.
-/

/-- The number of places before the decimal point of a positive quotient; below one tenth it is
negative. -/
def decimalPlaces (numerator denominator : Nat) : Int :=
  if denominator ≤ numerator then (Nat.toDigits 10 (numerator / denominator)).length
  else 1 - (Nat.toDigits 10 ((denominator - 1) / numerator)).length

/-- The nearest of the decimal numbers of `count` digits that read back as the number, where the
number has `places` places before the point. The result is the digits and the exponent of ten. -/
def nearestOnGrid? (x : Binary64) (places : Int) (count : Nat) : Option (Nat × Int) :=
  let q := x.exponent - 2
  let grid := places - count
  let value := 4 * x.significand
  -- Below a power of two the numbers lie twice as close together.
  let isPowerOfTwo : Bool := x.significand = hiddenBit && 2 * hiddenBit ≤ x.magnitude
  let low := if isPowerOfTwo then value - 1 else value - 2
  let unit := tenTo grid.toNat <<< (-q).toNat
  let scale := tenTo (-grid).toNat <<< q.toNat
  let readsBack (c : Nat) : Bool :=
    if x.significand % 2 = 0 then low * scale ≤ c * unit ∧ c * unit ≤ (value + 2) * scale
    else low * scale < c * unit ∧ c * unit < (value + 2) * scale
  let below := value * scale / unit
  let nearer := roundDiv (value * scale) unit
  let other := if nearer = below then below + 1 else below
  ([nearer, other].find? readsBack).map (·, grid)

/-- The digits and the exponent of ten of the shortest decimal number that reads back as a positive
finite number. Seventeen digits are always enough. Zeros at the end of the digits do not count. -/
def shortest (x : Binary64) : Nat × Int :=
  let places := decimalPlaces (x.significand <<< x.exponent.toNat) (1 <<< (-x.exponent).toNat)
  ((List.range 17).findSome? fun n => nearestOnGrid? x places (n + 1)).getD (0, 0)

/-- The way a decimal number is written: between `0.0001` and `10 ^ 16` with a point and a digit
behind it, otherwise with an exponent of at least two digits. -/
def writeDecimal (digits : Nat) (exponent : Int) : List Char :=
  let shown := ((Nat.toDigits 10 digits).reverse.dropWhile (· = '0')).reverse
  let point : Int := (Nat.toDigits 10 digits).length + exponent
  if -4 < point ∧ point ≤ 0 then
    ['0', '.'] ++ List.replicate (-point).toNat '0' ++ shown
  else if 0 < point ∧ point ≤ 16 then
    let whole := shown.take point.toNat
    let fraction := shown.drop point.toNat
    whole ++ List.replicate (point.toNat - whole.length) '0' ++
      '.' :: if fraction.isEmpty then ['0'] else fraction
  else
    let power := Nat.toDigits 10 (point - 1).natAbs
    shown.take 1 ++ (if shown.length = 1 then [] else '.' :: shown.drop 1) ++
      ['e', if point < 1 then '-' else '+'] ++ List.replicate (2 - power.length) '0' ++ power

/-- The text of a number, where the infinite ones and what is not a number have names. -/
def text (infinite notANumber : String) (x : Binary64) : String :=
  if x.isNaN then notANumber
  else
    let unsigned :=
      if x.isZero then "0.0"
      else if x.magnitude = infinity then infinite
      else String.ofList (writeDecimal x.shortest.1 x.shortest.2)
    if x.negative then "-" ++ unsigned else unsigned

end Binary64

end ParamExpansion
