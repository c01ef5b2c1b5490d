import Courier.Decode.Record
import Courier.Session.Recipient

/-!
# Session messages

Messages without a template: a text, and the receipt that an incoming message has been read, with or
without the sign that an answer is being typed.
-/

namespace Courier

open Decoder

/-- A text message. -/
structure TextMessage where
  sender : String
  recipient : String
  messageType : String
  body : String
  previewUrl : Bool
  deriving DecidableEq, Repr, Inhabited

/-- The receipt that a message has been read. -/
structure ReadReceipt where
  product : String
  status : String
  messageId : String
  /-- The kind of the typing sign, if it is shown. -/
  typing : Option String
  deriving DecidableEq, Repr, Inhabited

/-- A receipt with the id of the phone number that it is posted for. -/
structure StatusUpdate where
  phoneNumberId : String
  receipt : ReadReceipt
  deriving DecidableEq, Repr, Inhabited

/-! ## Building -/

/-- A text message to a phone number. -/
def TextMessage.to (recipient : Recipient) (sender body : String) (previewUrl : Bool) :
    TextMessage :=
  ⟨sender, recipient.number, "text", body, previewUrl⟩

/-- The receipt for a message; the id may have blanks around it. -/
def ReadReceipt.forMessage (id : String) : Except MessageError ReadReceipt :=
  let id := Text.trim id
  if id = "" then .error .unresolvedMessageId
  else .ok ⟨"whatsapp", "read", id, none⟩

/-- The receipt for a message, with the typing sign. -/
def ReadReceipt.withTyping (id : String) : Except MessageError ReadReceipt := do
  let receipt ← forMessage id
  .ok { receipt with typing := some "text" }

/-! ## Documents -/

/-- The decoder of text messages. -/
def TextMessage.decoder : Decoder TextMessage :=
  (Fields.make (fun sender recipient messageType (body, previewUrl) =>
      TextMessage.mk sender recipient messageType body previewUrl)
    |>.required "from" string
    |>.required "to" string
    |>.required "type" string
    |>.required "text" ((Fields.make Prod.mk
        |>.required "body" string
        |>.required "preview_url" bool).decoder "struct TextBody")).decoder "struct TextMessage"

/-- A text message as a value. -/
def TextMessage.toJson (message : TextMessage) : Json :=
  .object
    [("from", some (.str message.sender)),
     ("to", some (.str message.recipient)),
     ("type", some (.str message.messageType)),
     ("text", some (.object
       [("body", some (.str message.body)), ("preview_url", some (.bool message.previewUrl))]))]

/-- The decoder of receipts. -/
def ReadReceipt.decoder : Decoder ReadReceipt :=
  (Fields.make ReadReceipt.mk
    |>.required "messaging_product" string
    |>.required "status" string
    |>.required "message_id" string
    |>.optional "typing_indicator"
      ((Fields.make id |>.required "type" string).decoder "struct TypingIndicator")).decoder
    "struct ReadReceipt"

/-- A receipt as a value. -/
def ReadReceipt.toJson (receipt : ReadReceipt) : Json :=
  .object
    [("messaging_product", some (.str receipt.product)),
     ("status", some (.str receipt.status)),
     ("message_id", some (.str receipt.messageId)),
     ("typing_indicator", receipt.typing.map fun kind => .object [("type", some (.str kind))])]

/-- The decoder of status updates. -/
def StatusUpdate.decoder : Decoder StatusUpdate :=
  (Fields.make StatusUpdate.mk
    |>.required "phone_number_id" string
    |>.required "payload" ReadReceipt.decoder).decoder "struct StatusUpdate"

/-- A status update as a value. -/
def StatusUpdate.toJson (update : StatusUpdate) : Json :=
  .object
    [("phone_number_id", some (.str update.phoneNumberId)),
     ("payload", some update.receipt.toJson)]

end Courier
