/-!
# Character classes given by ranges

A character class of the Unicode standard is a list of closed ranges of code points. The classes
themselves are tables: `Text.Blank`, `Text.Digit`, `Text.Alphanumeric` and `Text.Unprintable` hold
one each.
-/

namespace Courier.Text

/-- A closed range of code points, first and last. -/
abbrev CodeRange := Nat × Nat

/-- Whether a code point lies in one of the ranges. -/
def inRanges (code : Nat) (ranges : List CodeRange) : Bool :=
  ranges.any fun range => range.1 ≤ code && code ≤ range.2

theorem inRanges_cons (code : Nat) (range : CodeRange) (ranges : List CodeRange) :
    inRanges code (range :: ranges)
      = ((range.1 ≤ code && code ≤ range.2) || inRanges code ranges) := rfl

end Courier.Text
