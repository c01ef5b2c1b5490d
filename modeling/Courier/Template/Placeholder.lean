import Courier.Distinct
import Courier.Number.Power
import Courier.Text.Digit

/-!
# Placeholders

A placeholder is two opening braces, a name, and two closing braces. The name is any text that is
not empty and holds no closing brace; line ends, blanks and opening braces belong to it.
Placeholders are found from left to right, each at the first place where one begins, and the search
goes on behind it.

A text is thus a sequence of segments, each a single character outside every placeholder or a whole
placeholder: `Segment.split`. Writing the segments gives the text again, so a placeholder stands
where the lengths of the segments before it put it.

A name of ASCII digits alone makes a placeholder positional. Any other name makes it named.
-/

namespace Courier

/-- A placeholder, by the name between its braces. -/
structure Placeholder where
  name : String
  deriving DecidableEq, Repr, Inhabited

namespace Placeholder

/-- The placeholder as it stands in a text. -/
def raw (p : Placeholder) : String :=
  "\x7b\x7b" ++ p.name ++ "\x7d\x7d"

/-- Whether the placeholder is addressed by its position. -/
def isPositional (p : Placeholder) : Bool :=
  Text.isAllDigits p.name

/-- The name that is sent with the value of a named placeholder. -/
def parameterName? (p : Placeholder) : Option String :=
  if p.isPositional then none else some p.name

/-- The least number that is too large for a position. -/
def positionBound : Nat := twoTo 64

/-- The position of a positional placeholder, if its number is one of 64 bits. -/
def position? (p : Placeholder) : Option Nat :=
  let n := Text.digitsValue p.name.toList
  if p.isPositional ∧ p.name ≠ "" ∧ n < positionBound then some n else none

end Placeholder

/-- A piece of a text. -/
inductive Segment where
  /-- A character outside every placeholder. -/
  | plain (c : Char)
  /-- A placeholder, by the characters of its name. -/
  | token (name : List Char)
  deriving DecidableEq, Repr

namespace Segment

/-- Whether a character may stand in a name. -/
def inName (c : Char) : Bool := c ≠ '\x7d'

/-- The name of a placeholder whose two opening braces stand in front of a text. -/
def tokenBody? (cs : List Char) : Option (List Char) :=
  let name := cs.takeWhile inName
  match cs.dropWhile inName with
  | '\x7d' :: '\x7d' :: _ => if name = [] then none else some name
  | _ => none

/-- The name of the placeholder at the front of a text. -/
def tokenAt? : List Char → Option (List Char)
  | '\x7b' :: '\x7b' :: rest => tokenBody? rest
  | _ => none

/-- The segments of a text whose first characters, as many as the number says, belong to a
placeholder that was found before. -/
def splitAfter : Nat → List Char → List Segment
  | _, [] => []
  | pending + 1, _ :: rest => splitAfter pending rest
  | 0, c :: rest =>
    match tokenAt? (c :: rest) with
    | some name => .token name :: splitAfter (name.length + 3) rest
    | none => .plain c :: splitAfter 0 rest

/-- The segments of a text. -/
def split (cs : List Char) : List Segment := splitAfter 0 cs

/-- The characters of a segment. -/
def render : Segment → List Char
  | .plain c => [c]
  | .token name => ['\x7b', '\x7b'] ++ name ++ ['\x7d', '\x7d']

/-- The placeholder of a segment, if it is one. -/
def placeholder? : Segment → Option Placeholder
  | .plain _ => none
  | .token name => some ⟨String.ofList name⟩

end Segment

namespace Placeholder

/-- All placeholders of a text, repeated ones included, in order. -/
def scan (text : String) : List Placeholder :=
  (Segment.split text.toList).filterMap Segment.placeholder?

/-- The distinct placeholders of a text, in the order of their first occurrence. -/
def all (text : String) : List Placeholder :=
  distinctBy Placeholder.name (scan text)

/-- The first placeholder of a text. -/
def first? (text : String) : Option Placeholder :=
  (scan text).head?

/-- The first placeholder is the first of the distinct ones. -/
theorem head?_all (text : String) : (all text).head? = first? text :=
  head?_distinctBy

/-- The first placeholder is one of the distinct ones. -/
theorem mem_all_of_first? {text : String} {p : Placeholder} (h : first? text = some p) :
    p ∈ all text := by
  rw [← head?_all] at h
  exact List.mem_of_head? h

end Placeholder

end Courier
