/-!
# Percent encoding

A segment of a path stands for bytes: a percent sign and two hexadecimal digits are one byte, and
every other character is the bytes of its UTF-8 form. A percent sign without two digits behind it
stands for itself. The bytes have to be the UTF-8 form of a text.
-/

namespace Courier.Http.Percent

/-- The value of a hexadecimal digit. -/
def hexValue? (byte : UInt8) : Option UInt8 :=
  if 0x30 ≤ byte && byte ≤ 0x39 then some (byte - 0x30)
  else if 0x41 ≤ byte && byte ≤ 0x46 then some (byte - 0x41 + 10)
  else if 0x61 ≤ byte && byte ≤ 0x66 then some (byte - 0x61 + 10)
  else none

/-- The percent sign. -/
def sign : UInt8 := 0x25

/-- The byte of two hexadecimal digits. -/
def byte? (high low : UInt8) : Option UInt8 :=
  match hexValue? high, hexValue? low with
  | some high, some low => some (high * 16 + low)
  | _, _ => none

/-- The bytes that an encoded text stands for. -/
def decodeBytes : List UInt8 → List UInt8
  | [] => []
  | [a] => [a]
  | [a, b] => [a, b]
  | a :: b :: c :: rest =>
    if a = sign then
      match byte? b c with
      | some byte => byte :: decodeBytes rest
      | none => a :: decodeBytes (b :: c :: rest)
    else a :: decodeBytes (b :: c :: rest)

/-- The text that an encoded text stands for. -/
def decode? (text : String) : Option String :=
  String.fromUTF8? ⟨(decodeBytes text.toUTF8.toList).toArray⟩

end Courier.Http.Percent
