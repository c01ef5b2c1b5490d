import Courier.Text.Ranges

/-!
# Blanks

The characters with the Unicode property `White_Space`, and cutting them from both ends of a text.
Every comparison of "empty" in the message domain is on the text that is left: an id of blanks is no
id, and a sender of blanks is no sender.
-/

namespace Courier.Text

/-- The code points with the property `White_Space`. -/
def blankRanges : List CodeRange :=
  [(0x9, 0xD), (0x20, 0x20), (0x85, 0x85), (0xA0, 0xA0), (0x1680, 0x1680), (0x2000, 0x200A),
   (0x2028, 0x2029), (0x202F, 0x202F), (0x205F, 0x205F), (0x3000, 0x3000)]

/-- Whether a character is white space in the sense of Unicode. -/
def isBlank (c : Char) : Bool :=
  inRanges c.toNat blankRanges

/-- The characters without the blanks in front. -/
def trimStart (cs : List Char) : List Char :=
  cs.dropWhile isBlank

/-- The characters without the blanks behind. -/
def trimEnd (cs : List Char) : List Char :=
  (cs.reverse.dropWhile isBlank).reverse

/-- A text without the blanks at its two ends. -/
def trim (text : String) : String :=
  String.ofList (trimEnd (trimStart text.toList))

/-- A text of blanks alone, the empty text included. -/
def isAllBlank (text : String) : Bool :=
  text.toList.all isBlank

end Courier.Text
