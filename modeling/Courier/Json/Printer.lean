import Courier.Json.Basic
import Courier.Number.Decimal

/-!
# JSON texts of values

The compact text: no space anywhere, strings with the short escapes where one exists, `\u00xx` for
the other characters below U+0020, and every other character as it is.
-/

namespace Courier.Json

/-- A control character by its number. -/
def controlEscape (code : Nat) : List Char :=
  ['\\', 'u', '0', '0'] ++ Nat.toDigits 16 (code / 16) ++ Nat.toDigits 16 (code % 16)

/-- One character of a string. -/
def printChar (c : Char) : List Char :=
  if c = '"' then ['\\', '"']
  else if c = '\\' then ['\\', '\\']
  else if c = '\n' then ['\\', 'n']
  else if c = '\r' then ['\\', 'r']
  else if c = '\t' then ['\\', 't']
  else if c.toNat = 0x08 then ['\\', 'b']
  else if c.toNat = 0x0C then ['\\', 'f']
  else if c.toNat < 0x20 then controlEscape c.toNat
  else [c]

/-- A string in its quotes. -/
def printString (text : String) : List Char :=
  '"' :: text.toList.flatMap printChar ++ ['"']

/-- The text of an integer. -/
def printInt (value : Int) : List Char :=
  if value < 0 then '-' :: Nat.toDigits 10 value.natAbs else Nat.toDigits 10 value.natAbs

/-- The text of a number. -/
def printNumber : Number → List Char
  | .int value => printInt value
  | .float value => value.documentText.toList

mutual

/-- The characters of a value. -/
def print : Json → List Char
  | .null => ['n', 'u', 'l', 'l']
  | .bool true => ['t', 'r', 'u', 'e']
  | .bool false => ['f', 'a', 'l', 's', 'e']
  | .num value => printNumber value
  | .str value => printString value
  | .arr items => '[' :: printItems items ++ [']']
  | .obj members => '\x7b' :: printMembers members ++ ['\x7d']

/-- The items of an array, a comma between two. -/
def printItems : List Json → List Char
  | [] => []
  | [item] => item.print
  | item :: rest => item.print ++ ',' :: printItems rest

/-- The members of an object, a comma between two. -/
def printMembers : List (String × Json) → List Char
  | [] => []
  | [(key, value)] => printString key ++ ':' :: value.print
  | (key, value) :: rest => printString key ++ ':' :: (value.print ++ ',' :: printMembers rest)

end

/-- The compact text of a value. -/
def text (value : Json) : String :=
  String.ofList value.print

end Courier.Json

namespace Courier

/-- The text of a number. -/
def Number.text (n : Number) : String :=
  String.ofList (Json.printNumber n)

end Courier
