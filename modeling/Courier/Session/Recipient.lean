import Courier.Text.Blank
import Courier.Text.Digit
import Courier.Text.Quoted

/-!
# Recipients

A phone number in international form: a plus, a digit from 1 to 9, and seven to fourteen more
digits. The blanks around a number are dropped and a missing plus is added before it is checked. The
digits after the first may be those of any script.
-/

namespace Courier

/-- Why a session message cannot be built. -/
inductive MessageError where
  /-- This is no phone number. -/
  | invalidRecipient (raw : String)
  /-- No id of the message to refer to was found. -/
  | unresolvedMessageId
  /-- No id of the phone number to send from was found. -/
  | unresolvedPhoneNumberId
  deriving DecidableEq, Repr, Inhabited

/-- The wording of an error. -/
def MessageError.message : MessageError → String
  | .invalidRecipient raw =>
    "Invalid phone number format. Use E.164, e.g. +1234567890 (got " ++ Text.quoted raw ++ ")"
  | .unresolvedMessageId => "Message ID could not be resolved"
  | .unresolvedPhoneNumberId => "Phone Number ID could not be resolved"

namespace Recipient

/-- A text with a plus in front. -/
def withPlus (cs : List Char) : List Char :=
  if cs.head? = some '+' then cs else '+' :: cs

/-- Whether a text is a phone number in international form. -/
def isNumber : List Char → Bool
  | '+' :: first :: rest =>
    '1' ≤ first && first ≤ '9' && rest.all Text.isDigit && 7 ≤ rest.length && rest.length ≤ 14
  | _ => false

end Recipient

/-- A phone number in international form. -/
structure Recipient where
  number : String
  valid : Recipient.isNumber number.toList = true

/-- The phone number that a text gives. -/
def Recipient.parse (raw : String) : Except MessageError Recipient :=
  let number := String.ofList (withPlus (Text.trim raw).toList)
  if h : Recipient.isNumber number.toList = true then .ok ⟨number, h⟩
  else .error (.invalidRecipient raw)

end Courier
