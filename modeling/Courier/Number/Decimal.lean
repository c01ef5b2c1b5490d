import Courier.Number.Shortest
import Courier.Text.Digit

/-!
# Decimal texts of floating-point numbers

Two texts of a number, both with the fewest digits that read back. The document form always shows a
point or an exponent, turns to an exponent outside `10 ^ -5 … 10 ^ 16`, and takes the even one of
two equally near decimals. The plain form is positional at every size, shows no point for an
integer, has words for the values that are no numbers, and takes the larger one of two equally near
decimals.

`Decimal.toBinary64` reads a decimal; `Binary64.parse?` reads the plain form and more spellings of
it.
-/

namespace Courier

namespace Decimal

/-- The digits with a point after the first `point` of them, padded with zeros on either side. -/
def positional (digits : List Char) (point : Int) : List Char :=
  if point ≤ 0 then '0' :: '.' :: (List.replicate (-point).toNat '0' ++ digits)
  else if digits.length ≤ point.toNat then
    digits ++ List.replicate (point.toNat - digits.length) '0'
  else digits.take point.toNat ++ '.' :: digits.drop point.toNat

/-- The digits as a coefficient below ten with a signed exponent. -/
def scientific (digits : List Char) (exponent : Int) : List Char :=
  let coefficient := match digits with
    | [] => ['0']
    | [d] => [d]
    | d :: ds => d :: '.' :: ds
  coefficient ++ ['e', if exponent < 0 then '-' else '+'] ++ Nat.toDigits 10 exponent.natAbs

/-- The nearest floating-point number to `digits * 10 ^ exponent`. Exponents far outside the range
of the format are settled without computing the power. -/
def toBinary64 (negative : Bool) (d : Decimal) : Binary64 :=
  let size : Int := (Nat.toDigits 10 d.digits).length
  if d.digits = 0 then Binary64.ofParts negative 0
  else if d.exponent + size > 400 then Binary64.infinity negative
  else if d.exponent + size < -400 then Binary64.ofParts negative 0
  else
    let (up, down) := tenPower d.exponent
    Binary64.ofRatio negative (d.digits * up) down

end Decimal

namespace Binary64

/-- The text of a finite number in a document: `1.0`, `0.001`, `1e+20`. -/
def documentText (x : Binary64) : String :=
  let d := Decimal.ofBinary64 .toEven x
  let digits := Nat.toDigits 10 d.digits
  let point := digits.length + d.exponent
  let body :=
    if x.isZero then ['0', '.', '0']
    else if 0 ≤ d.exponent ∧ point ≤ 16 then Decimal.positional digits point ++ ['.', '0']
    else if -5 < point ∧ point ≤ 16 then Decimal.positional digits point
    else Decimal.scientific digits (point - 1)
  String.ofList (if x.isNegative then '-' :: body else body)

/-- The plain text of a number: `1`, `0.001`, `100000000000000000000`, `inf`, `NaN`. -/
def plainText (x : Binary64) : String :=
  if x.isNaN then "NaN"
  else
    let d := Decimal.ofBinary64 .up x
    let digits := Nat.toDigits 10 d.digits
    let body :=
      if x.isInfinite then ['i', 'n', 'f']
      else if x.isZero then ['0']
      else Decimal.positional digits (digits.length + d.exponent)
    String.ofList (if x.isNegative then '-' :: body else body)

/-! ## Reading -/

/-- A text without its sign, and whether that is a minus. -/
def signed : List Char → Bool × List Char
  | '-' :: rest => (true, rest)
  | '+' :: rest => (false, rest)
  | cs => (false, cs)

/-- The exponent of a decimal, after its coefficient: none at all, or a mark, a sign and digits. -/
def exponent? : List Char → Option Int
  | [] => some 0
  | c :: rest =>
    let (negative, digits) := signed rest
    if (c = 'e' ∨ c = 'E') ∧ digits ≠ [] ∧ digits.all Text.isAsciiDigit then
      let value : Int := Text.digitsValue digits
      some (if negative then -value else value)
    else none

/-- A decimal without sign: digits with a point among them or at either end, and an exponent. -/
def decimal? (cs : List Char) : Option Decimal :=
  let whole := cs.takeWhile Text.isAsciiDigit
  let (fraction, rest) := match cs.dropWhile Text.isAsciiDigit with
    | '.' :: rest => (rest.takeWhile Text.isAsciiDigit, rest.dropWhile Text.isAsciiDigit)
    | rest => ([], rest)
  if whole.isEmpty && fraction.isEmpty then none
  else (exponent? rest).map fun exponent =>
    ⟨Text.digitsValue (whole ++ fraction), exponent - fraction.length⟩

/-- The number of a text: a decimal, or one of the words for infinity and for no number, in letters
of either case. -/
def parse? (text : String) : Option Binary64 :=
  let (negative, cs) := signed text.toList
  match decimal? cs with
  | some d => some (Decimal.toBinary64 negative d)
  | none =>
    let word := String.ofList (cs.map Char.toLower)
    if word = "inf" ∨ word = "infinity" then some (infinity negative)
    else if word = "nan" then some nan
    else none

end Binary64

end Courier
