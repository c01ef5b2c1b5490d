import Courier.Number.Power
import Courier.Text.Digit

/-!
# Paths of settings

A path leads from the root of the settings to one of them, by name into a table and by number into a
list. It is written as a name with more names after points and numbers in brackets behind it, such
as `server.cors_origins[0]`. A number counts from the start of a list, or from its end if it is
negative, and blanks may stand around it. A text that is written in another way is a name of its
own, points and brackets and all.
-/

namespace Courier

/-- A step from a setting to one inside it. -/
inductive PathStep where
  /-- Into a table. -/
  | name (name : String)
  /-- Into a list. -/
  | item (index : Int)
  deriving DecidableEq, Repr

/-- The steps from the root of the settings to one of them. -/
abbrev SettingPath := List PathStep

namespace PathStep

/-- Whether a character may stand in a name. -/
def inName (c : Char) : Bool :=
  c.isAlphanum || c = ' ' || c = '_' || c = '-'

/-- Whether a character may stand around a number. -/
def isAroundIndex (c : Char) : Bool :=
  c = ' ' || c = '\t'

/-- The step of a name. -/
def ofName? (cs : List Char) : Option PathStep :=
  if cs ≠ [] ∧ cs.all inName then some (.name (String.ofList cs)) else none

/-- The integer that digits denote, with a minus in front or not, if it fits in 64 bits. -/
def integer? (cs : List Char) : Option Int :=
  let (negative, digits) := match cs with
    | '-' :: rest => (true, rest)
    | _ => (false, cs)
  let value : Int := if negative then -Text.digitsValue digits else Text.digitsValue digits
  if digits ≠ [] ∧ digits.all Text.isAsciiDigit ∧ fitsSigned value then some value else none

/-- The step of what stands behind an opening bracket. -/
def ofIndex? (cs : List Char) : Option PathStep :=
  match cs.reverse with
  | ']' :: reversed =>
    let digits := (reversed.dropWhile isAroundIndex).reverse.dropWhile isAroundIndex
    (integer? digits).map .item
  | _ => none

/-- The step of a piece that begins with a point or an opening bracket. -/
def ofPiece? : List Char → Option PathStep
  | '.' :: rest => ofName? rest
  | '[' :: rest => ofIndex? rest
  | _ => none

end PathStep

namespace SettingPath

/-- A text cut in front of every point and opening bracket: what comes before the first of them, and
the pieces that begin with one. -/
def cut : List Char → List Char × List (List Char)
  | [] => ([], [])
  | c :: rest =>
    let (first, pieces) := cut rest
    if c = '.' || c = '[' then ([], (c :: first) :: pieces) else (c :: first, pieces)

/-- The path that a text stands for. -/
def ofText (text : String) : SettingPath :=
  let (first, pieces) := cut text.toList
  match PathStep.ofName? first, pieces.mapM PathStep.ofPiece? with
  | some step, some steps => step :: steps
  | _, _ => [.name text]

end SettingPath

end Courier
