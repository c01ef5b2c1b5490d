import Courier.Number.Binary64

/-!
# The shortest decimal of a floating-point number

A finite number stands for the interval of reals that round to it: from half a step below to half a
step above, the ends included when the significand is even. `Decimal.ofBinary64` looks for the
decimal with the fewest digits in that interval, and of two with equally few digits takes the nearer
one. The number can lie in the middle between the two; what is taken then is up to the format,
`Tie`.

For a digit count `n` only two decimals can lie in the interval if any does: the neighbours of the
number on the grid of decimals with `n` digits. So the search tries `n = 1, 2, …, 17` and tests two
candidates each time, all in natural numbers.
-/

namespace Courier

/-- The decimal `digits * 10 ^ exponent`. -/
structure Decimal where
  digits : Nat
  exponent : Int
  deriving DecidableEq, Repr, Inhabited

/-- Which of two decimals is taken for a number in the middle between them. -/
inductive Tie where
  /-- The one whose last digit is even. -/
  | toEven
  /-- The larger one. -/
  | up
  deriving DecidableEq, Repr, Inhabited

/-- Whether the lower of two neighbours on a grid is taken for the number in the middle. -/
def Tie.takesLower : Tie → Nat → Bool
  | .toEven, lower => lower % 2 = 0
  | .up, _ => false

namespace Decimal

/-- The interval of reals that round to a finite positive number, as natural numbers over one
denominator, and the number itself over the same. -/
structure Interval where
  low : Nat
  value : Nat
  high : Nat
  den : Nat
  /-- Whether the two ends belong to the interval. -/
  closed : Bool

/-- The interval of a finite positive number. The step below a power of two is half as long. -/
def intervalOf (x : Binary64) : Interval :=
  let unit := twoTo x.raisedExponent
  let value := 4 * x.significand * unit
  let below := if x.significand = twoTo 52 ∧ 0 < x.raisedExponent then unit else 2 * unit
  ⟨value - below, value, value + 2 * unit, 4 * twoTo 1074, x.significand % 2 = 0⟩

/-- Whether `num / den` lies in the interval. -/
def Interval.contains (i : Interval) (num den : Nat) : Bool :=
  if i.closed then i.low * den ≤ num * i.den && num * i.den ≤ i.high * den
  else i.low * den < num * i.den && num * i.den < i.high * den

/-- `10 ^ k` as a quotient. -/
def tenPower (k : Int) : Nat × Nat :=
  if 0 ≤ k then (tenTo k.toNat, 1) else (1, tenTo (-k).toNat)

/-- The decimal in the interval on the grid of multiples of `10 ^ k`, the nearer of two. -/
def onGrid? (tie : Tie) (i : Interval) (k : Int) : Option Decimal :=
  let (up, down) := tenPower k
  let below := i.value * down / (i.den * up)
  let hasBelow := below != 0 && i.contains (below * up) down
  let hasAbove := i.contains ((below + 1) * up) down
  let double := 2 * i.value * down
  let middle := (2 * below + 1) * up * i.den
  let takesBelow := double < middle || (double = middle && tie.takesLower below)
  if hasBelow && (takesBelow || !hasAbove) then some ⟨below, k⟩
  else if hasAbove then some ⟨below + 1, k⟩
  else none

/-- The position of the highest digit of a positive quotient: the least `k` with
`num / den < 10 ^ k`, searched downwards from a bound. -/
def topExponent (num den : Nat) : Nat → Int → Int
  | 0, k => k
  | fuel + 1, k =>
    let (up, down) := tenPower (k - 1)
    if num * down < up * den then topExponent num den fuel (k - 1) else k

/-- The first grid with a decimal in the interval, from coarse to fine. -/
def firstGrid (tie : Tie) (i : Interval) (top : Int) : Nat → Nat → Decimal
  | 0, n => ⟨i.value / i.den, n⟩
  | fuel + 1, n =>
    match onGrid? tie i (top - n) with
    | some d => d
    | none => firstGrid tie i top fuel (n + 1)

/-- A decimal without zeros at the end of its digits. -/
def dropZeros : Nat → Decimal → Decimal
  | 0, d => d
  | fuel + 1, d =>
    if d.digits ≠ 0 ∧ d.digits % 10 = 0 then dropZeros fuel ⟨d.digits / 10, d.exponent + 1⟩ else d

/-- The decimal with the fewest digits that rounds to a finite positive number. -/
def ofBinary64 (tie : Tie) (x : Binary64) : Decimal :=
  if x.isZero then ⟨0, 0⟩
  else
    let i := intervalOf x
    let top := topExponent i.value i.den 640 310
    dropZeros 20 (firstGrid tie i top 18 1)

end Decimal

end Courier
