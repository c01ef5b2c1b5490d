/-!
# Powers of two and ten

The bounds of numbers of a given size, in bits or in decimal digits.
-/

namespace Courier

/-- The number `2 ^ bits`, the least that is too large for that many bits. -/
def twoTo (bits : Nat) : Nat := Nat.pow 2 bits

/-- The number `10 ^ digits`, the least that is too large for that many decimal digits. -/
def tenTo (digits : Nat) : Nat := Nat.pow 10 digits

/-- Whether an integer fits in 64 bits with a sign. -/
def fitsSigned (value : Int) : Bool :=
  -(twoTo 63 : Int) ≤ value && value < (twoTo 63 : Int)

end Courier
