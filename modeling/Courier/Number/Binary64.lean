import Courier.Number.Power

/-!
# Binary floating-point numbers of 64 bits

A number is stored as its 64 bits: one sign bit, eleven exponent bits, fifty-two fraction bits. The
arithmetic here is exact on natural numbers up to one rounding at the end, `ofRatio`, which takes
the nearest number and, of two equally near ones, the one with an even last bit. Multiplication,
division and the reading of decimals are all that rounding of an exact quotient.

## Shape of the rounding

A finite positive number is `q * 2 ^ e` with `q < 2 ^ 53` and `-1074 ≤ e`, where `e = -1074` or
`2 ^ 52 ≤ q`. Its magnitude bits are then `(e + 1074) * 2 ^ 52 + q` in both cases, and this sum
stays right when rounding carries `q` up to `2 ^ 53`.
-/

namespace Courier

/-- A floating-point number, by its bits. -/
structure Binary64 where
  /-- The sign, exponent and fraction bits, the sign highest. -/
  bits : UInt64
  deriving DecidableEq, Repr, Inhabited

namespace Binary64

/-- The magnitude bits of infinity, the least that are not finite. -/
def infinityBits : Nat := 0x7FF0000000000000

/-- The sign bit. -/
def signBit : Nat := 0x8000000000000000

/-- A number from its sign and its magnitude bits. -/
def ofParts (negative : Bool) (magnitude : Nat) : Binary64 :=
  ⟨UInt64.ofNat (if negative then signBit + magnitude else magnitude)⟩

/-- Whether the sign bit is set; it is for `-0.0`. -/
def isNegative (x : Binary64) : Bool :=
  signBit ≤ x.bits.toNat

/-- The bits without the sign. -/
def magnitude (x : Binary64) : Nat :=
  x.bits.toNat % signBit

/-- Whether the number is an infinity. -/
def isInfinite (x : Binary64) : Bool :=
  x.magnitude = infinityBits

/-- Whether the bits denote no number. -/
def isNaN (x : Binary64) : Bool :=
  infinityBits < x.magnitude

/-- Whether the number is zero, of either sign. -/
def isZero (x : Binary64) : Bool :=
  x.magnitude = 0

/-- The number with its sign replaced. -/
def withSign (negative : Bool) (x : Binary64) : Binary64 :=
  ofParts negative x.magnitude

/-- The number `0.0`. -/
def zero : Binary64 := ofParts false 0

/-- An infinity. -/
def infinity (negative : Bool) : Binary64 := ofParts negative infinityBits

/-- The value that is no number. -/
def nan : Binary64 := ofParts false 0x7FF8000000000000

/-- The integer factor `q` of a finite magnitude. -/
def significand (x : Binary64) : Nat :=
  let fraction := x.magnitude % twoTo 52
  if x.magnitude < twoTo 52 then fraction else twoTo 52 + fraction

/-- The exponent `e` of a finite magnitude, raised by 1074 so that it is a natural number. -/
def raisedExponent (x : Binary64) : Nat :=
  x.magnitude / twoTo 52 - 1

/-- A finite magnitude as a quotient of natural numbers. -/
def toRatio (x : Binary64) : Nat × Nat :=
  (x.significand * twoTo x.raisedExponent, twoTo 1074)

/-- A quotient rounded to the nearest natural number, an exact half to the even one. -/
def roundHalfEven (num den : Nat) : Nat :=
  let q := num / den
  let twice := 2 * (num % den)
  if twice < den then q
  else if twice = den then q + q % 2
  else q + 1

/-- The exponent, raised by 1074, at which a positive quotient has a 53-bit integer part, or 0 for a
quotient too small to have one. -/
def scaleOf (num den : Nat) : Nat :=
  let guess := num.log2 + 1074 - (den.log2 + 52)
  if twoTo 52 * den * twoTo guess ≤ num * twoTo 1074 then guess else guess - 1

/-- The number nearest to a quotient; infinity when every finite number is too small. -/
def ofRatio (negative : Bool) (num den : Nat) : Binary64 :=
  if num = 0 then ofParts negative 0
  else
    let scale := scaleOf num den
    let q := roundHalfEven (num * twoTo 1074) (den * twoTo scale)
    ofParts negative (min (scale * twoTo 52 + q) infinityBits)

/-- The number nearest to a natural number. -/
def ofNat (n : Nat) : Binary64 :=
  ofRatio false n 1

/-- The product of two finite numbers. -/
def mul (x y : Binary64) : Binary64 :=
  let (a, b) := x.toRatio
  let (c, d) := y.toRatio
  ofRatio (x.isNegative != y.isNegative) (a * c) (b * d)

/-- The quotient of two finite numbers, the second not zero. -/
def div (x y : Binary64) : Binary64 :=
  let (a, b) := x.toRatio
  let (c, d) := y.toRatio
  ofRatio (x.isNegative != y.isNegative) (a * d) (b * c)

/-- The power of ten nearest to `10 ^ n`. -/
def powerOfTen (n : Nat) : Binary64 :=
  ofNat (tenTo n)

/-- The magnitude of a finite number rounded to the nearest natural number, a half upwards. -/
def roundHalfUp (x : Binary64) : Nat :=
  let (num, den) := x.toRatio
  (2 * num + den) / (2 * den)

end Binary64

end Courier
