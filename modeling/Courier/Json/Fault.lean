import Courier.Json.Printer
import Courier.Text.Quoted

/-!
# Faults of documents

Reading a document fails for one of two kinds of reason. A `TextFault` is in the text: it is not
JSON, or it goes past a limit of the reader. A `Misfit` is in the value: it is JSON, but not of the
shape that the wanted type has. The wording of both is here and nowhere else.
-/

namespace Courier

/-- Why a text is not a JSON document. -/
inductive TextFault where
  | unendedArray
  | unendedObject
  | unendedString
  | unendedValue
  | expectedColon
  | expectedCommaOrBracket
  | expectedCommaOrBrace
  | expectedWord
  | expectedValue
  | badEscape
  | badNumber
  | numberTooLarge
  | controlCharacter
  | keyNotString
  | unpairedSurrogate
  | missingSurrogate
  | trailingComma
  | trailingText
  | tooDeep
  deriving DecidableEq, Repr, Inhabited

/-- The wording of a fault in the text. -/
def TextFault.message : TextFault → String
  | .unendedArray => "EOF while parsing a list"
  | .unendedObject => "EOF while parsing an object"
  | .unendedString => "EOF while parsing a string"
  | .unendedValue => "EOF while parsing a value"
  | .expectedColon => "expected `:`"
  | .expectedCommaOrBracket => "expected `,` or `]`"
  | .expectedCommaOrBrace => "expected `,` or `\x7d`"
  | .expectedWord => "expected ident"
  | .expectedValue => "expected value"
  | .badEscape => "invalid escape"
  | .badNumber => "invalid number"
  | .numberTooLarge => "number out of range"
  | .controlCharacter => "control character (\\u0000-\\u001F) found while parsing a string"
  | .keyNotString => "key must be a string"
  | .unpairedSurrogate => "lone leading surrogate in hex escape"
  | .missingSurrogate => "unexpected end of hex escape"
  | .trailingComma => "trailing comma"
  | .trailingText => "trailing characters"
  | .tooDeep => "recursion limit exceeded"

/-- What stands where something else was expected. -/
inductive Seen where
  | null
  | bool (value : Bool)
  | num (value : Number)
  | str (value : String)
  | arr
  | obj
  deriving DecidableEq, Repr, Inhabited

namespace Seen

/-- What a value looks like from outside. -/
def ofJson : Json → Seen
  | .null => .null
  | .bool value => .bool value
  | .num value => .num value
  | .str value => .str value
  | .arr _ => .arr
  | .obj _ => .obj

/-- The name of what was seen, with its value when it has no parts. -/
def message : Seen → String
  | .null => "null"
  | .bool value => "boolean `" ++ (if value then "true" else "false") ++ "`"
  | .num (.int value) => "integer `" ++ (Number.int value).text ++ "`"
  | .num (.float value) => "floating point `" ++ value.documentText ++ "`"
  | .str value => "string " ++ Text.quoted value
  | .arr => "sequence"
  | .obj => "map"

end Seen

/-- Why a value does not have the shape of a type. -/
inductive Misfit where
  /-- A value of another kind than the expected one. -/
  | wrongType (seen : Seen) (expected : String)
  /-- A value of the right kind outside the expected set. -/
  | wrongValue (seen : Seen) (expected : String)
  /-- An array with too few or too many items. -/
  | wrongLength (length : Nat) (expected : String)
  /-- A required member is not there. -/
  | missingField (name : String)
  /-- A member is there twice. -/
  | duplicateField (name : String)
  /-- A name that is none of the known ones. -/
  | unknownVariant (name : String) (known : List String)
  /-- A value that none of the alternatives of a type accepts. -/
  | noAlternative (type : String)
  deriving DecidableEq, Repr, Inhabited

namespace Misfit

/-- Names in backticks, as the end of a sentence that offers a choice between them. -/
def choice : List String → String
  | [a] => "expected `" ++ a ++ "`"
  | [a, b] => "expected `" ++ a ++ "` or `" ++ b ++ "`"
  | names => "expected one of " ++ ", ".intercalate (names.map fun name => "`" ++ name ++ "`")

/-- The wording of a misfit. -/
def message : Misfit → String
  | .wrongType seen expected => "invalid type: " ++ seen.message ++ ", expected " ++ expected
  | .wrongValue seen expected => "invalid value: " ++ seen.message ++ ", expected " ++ expected
  | .wrongLength length expected =>
    "invalid length " ++ Nat.repr length ++ ", expected " ++ expected
  | .missingField name => "missing field `" ++ name ++ "`"
  | .duplicateField name => "duplicate field `" ++ name ++ "`"
  | .unknownVariant name known => "unknown variant `" ++ name ++ "`, " ++ choice known
  | .noAlternative type => "data did not match any variant of untagged enum " ++ type

end Misfit

/-- Why a document could not be read. -/
inductive Cause where
  | inText (fault : TextFault)
  | inShape (misfit : Misfit)
  deriving DecidableEq, Repr, Inhabited

/-- The wording of a cause. -/
def Cause.message : Cause → String
  | .inText fault => fault.message
  | .inShape misfit => misfit.message

end Courier
