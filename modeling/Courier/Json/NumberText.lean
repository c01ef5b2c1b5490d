import Courier.Json.Scan

/-!
# Reading numbers

A number is an optional minus, an integer part without superfluous zeros, an optional fraction and
an optional exponent. Without fraction and exponent it is an integer if it fits; `-0` and larger
integers are floating-point numbers.

## How a floating-point number is made

The digits are collected in one natural number below `2 ^ 64`, the significand. The first digit of
the integer part that would take it past that bound, and all integer digits after it, only raise the
decimal exponent; such a fraction digit, and all after it, are dropped. The significand is rounded
to a floating-point number and then multiplied or divided by the floating-point power of ten, which
rounds a second time. The result is thus not always the number nearest to the text.
-/

namespace Courier.Scan

/-- The least number that a significand cannot have. -/
def significandBound : Nat := twoTo 64

/-- Whether a character is a digit. -/
def isDigit (c : Char) : Bool := '0' ≤ c && c ≤ '9'

/-- Takes digits into a significand as long as they fit, and gives the digits that do not. -/
def gather : Nat → List Char → Nat × List Char
  | significand, [] => (significand, [])
  | significand, c :: rest =>
    let next := significand * 10 + (c.toNat - '0'.toNat)
    if next < significandBound then gather next rest else (significand, c :: rest)

/-- Divides by `10 ^ n` in steps of at most `10 ^ 308`, the largest power that is a number. -/
def divideByTen : Nat → Binary64 → Nat → Binary64
  | 0, x, _ => x
  | fuel + 1, x, n =>
    if n ≤ 308 then x.div (Binary64.powerOfTen n)
    else if x.isZero then x
    else divideByTen fuel (x.div (Binary64.powerOfTen 308)) (n - 308)

/-- The floating-point number of a significand and a decimal exponent, none if it is too large. -/
def scale (significand : Nat) (exponent : Int) : Option Binary64 :=
  let x := Binary64.ofNat significand
  if 0 ≤ exponent then
    if exponent ≤ 308 then
      let y := x.mul (Binary64.powerOfTen exponent.toNat)
      if y.isInfinite then none else some y
    else if significand = 0 then some x
    else none
  else some (divideByTen 4 x (-exponent).toNat)

/-- The number of a significand and an exponent, after all of its text has been read. -/
def finish (negative : Bool) (significand : Nat) (exponent : Int) : Scan Number :=
  match scale significand exponent with
  | some x => pure (.float (x.withSign negative))
  | none => refuse .numberTooLarge 0

/-- The digits of an exponent. One past `2 ^ 31 - 1` settles the number before the digits end: it is
zero, or too large. -/
def exponentDigits (negative raised : Bool) (significand : Nat) (start : Int) :
    Nat → List Char → Scan Number
  | exponent, [] => fun cs =>
    finish negative significand (if raised then start + exponent else start - exponent) cs
  | exponent, c :: rest => fun cs =>
    let next := exponent * 10 + (c.toNat - '0'.toNat)
    if next < twoTo 31 then exponentDigits negative raised significand start next rest (cs.drop 1)
    else if significand ≠ 0 ∧ raised then refuse .numberTooLarge 0 (cs.drop 1)
    else .ok (.float (Binary64.ofParts negative 0), cs.drop (rest.length + 1))

/-- An exponent, after the `e`. -/
def exponent (negative : Bool) (significand : Nat) (start : Int) : Scan Number := fun cs =>
  let (raised, cs) := match cs with
    | '+' :: rest => (true, rest)
    | '-' :: rest => (false, rest)
    | _ => (true, cs)
  match cs with
  | [] => refuse .unendedValue 0 cs
  | c :: _ =>
    if isDigit c then
      exponentDigits negative raised significand start 0 (cs.takeWhile isDigit) cs
    else refuse .badNumber 1 cs

/-- What may follow the digits of a fraction or of a large integer. -/
def maybeExponent (negative : Bool) (significand : Nat) (start : Int) : Scan Number := fun cs =>
  match cs with
  | 'e' :: rest | 'E' :: rest => exponent negative significand start rest
  | _ => finish negative significand start cs

/-- A fraction, after the point. Each digit that is kept lowers the exponent. -/
def fraction (negative : Bool) (significand : Nat) (start : Int) : Scan Number := fun cs =>
  let digits := cs.takeWhile isDigit
  let rest := cs.dropWhile isDigit
  if digits.isEmpty then
    match cs with
    | [] => refuse .unendedValue 0 cs
    | _ => refuse .badNumber 1 cs
  else
    let (significand, dropped) := gather significand digits
    maybeExponent negative significand (start - (digits.length - dropped.length : Nat)) rest

/-- An integer part without fraction and exponent, as the integer it denotes if it is one of 64
bits. -/
def integer (negative : Bool) (significand : Nat) : Number :=
  if negative then
    if significand = 0 ∨ twoTo 63 < significand then
      .float ((Binary64.ofNat significand).withSign true)
    else .int (-significand)
  else .int significand

/-- A number, after its minus if it has one. -/
def number (negative : Bool) : Scan Number := fun cs =>
  match cs with
  | [] => refuse .unendedValue 0 cs
  | c :: after =>
    if ¬ isDigit c then refuse .badNumber 1 cs
    else if c = '0' ∧ (after.head?.any isDigit) then refuse .badNumber 1 after
    else
      let digits := cs.takeWhile isDigit
      let rest := cs.dropWhile isDigit
      let (significand, dropped) := gather 0 digits
      match rest with
      | '.' :: rest => fraction negative significand dropped.length rest
      | _ =>
        if dropped.isEmpty then
          match rest with
          | 'e' :: rest | 'E' :: rest => exponent negative significand 0 rest
          | _ => .ok (integer negative significand, rest)
        else maybeExponent negative significand dropped.length rest

end Courier.Scan
