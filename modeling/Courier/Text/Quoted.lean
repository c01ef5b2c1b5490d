import Courier.Text.Unprintable

/-!
# Quoted texts

A text as it stands in an error message: in double quotes, with a backslash before a quote or a
backslash, short escapes for the four common control characters, and `\u{hex}` for every character
that does not show. Single quotes stand for themselves.
-/

namespace Courier.Text

/-- A code point in hexadecimal, between the braces of `\u{}`. -/
def codeEscape (code : Nat) : List Char :=
  ['\\', 'u', '\x7b'] ++ Nat.toDigits 16 code ++ ['\x7d']

/-- One character inside the quotes. -/
def quotedChar (c : Char) : List Char :=
  if c = '"' then ['\\', '"']
  else if c = '\\' then ['\\', '\\']
  else if c = '\n' then ['\\', 'n']
  else if c = '\r' then ['\\', 'r']
  else if c = '\t' then ['\\', 't']
  else if c.toNat = 0 then ['\\', '0']
  else if isUnprintable c then codeEscape c.toNat
  else [c]

/-- A text in quotes, every character of which shows. -/
def quoted (text : String) : String :=
  String.ofList ('"' :: text.toList.flatMap quotedChar ++ ['"'])

end Courier.Text
