import Courier.Session.Message
import Courier.Text.Digit

/-!
# Status targets

A receipt needs two ids: that of the phone number it is posted for and that of the message it is
about. Either may be given; what is not given, or is blank, is looked for in the incoming event that
is being answered, at a fixed list of places in order. At a place there may be a text that is not
blank or a number; anything else there is passed over.
-/

namespace Courier

/-- The number that a step into an array names: digits without a zero in front. -/
def itemIndex? (step : String) : Option Nat :=
  let cs := step.toList
  if cs ≠ [] ∧ cs.all Text.isAsciiDigit ∧ (cs.head? ≠ some '0' ∨ cs.length = 1) then
    some (Text.digitsValue cs)
  else none

/-- The part of a value that a path leads to. A step is the key of a member or the number of an
item. -/
def Json.at? : Json → List String → Option Json
  | value, [] => some value
  | .obj members, step :: path =>
    match members.lookup step with
    | some value => value.at? path
    | none => none
  | .arr items, step :: path =>
    match (itemIndex? step).bind (items[·]?) with
    | some value => value.at? path
    | none => none
  | _, _ :: _ => none

/-- The value of the first entry and change of an event. -/
def firstChange : List String := ["entry", "0", "changes", "0", "value"]

/-- Where an event has the id of the phone number, in the order of the search. -/
def phoneNumberPlaces : List (List String) :=
  [["phoneNumberId"], ["phone_number_id"], firstChange ++ ["metadata", "phone_number_id"]]

/-- Where an event has the id of the message, in the order of the search. -/
def messagePlaces : List (List String) :=
  [["messages", "0", "id"], ["message", "id"], ["message_id"],
   firstChange ++ ["messages", "0", "id"]]

/-- The id that a text gives: the text without the blanks around it, unless nothing is left. -/
def idOfText? (text : String) : Option String :=
  let id := Text.trim text
  if id = "" then none else some id

/-- The id that a value in an event gives. -/
def idOfJson? : Json → Option String
  | .str text => idOfText? text
  | .num number => some number.text
  | _ => none

/-- The id that is given, or else the first one found in the event. -/
def resolveId? (given : Option String) (event : Option Json) (places : List (List String)) :
    Option String :=
  match given.bind idOfText? with
  | some id => some id
  | none => event.bind fun event => places.findSome? fun place => (event.at? place).bind idOfJson?

/-- The two ids of a receipt. -/
structure StatusTarget where
  phoneNumberId : String
  messageId : String
  deriving DecidableEq, Repr, Inhabited

namespace StatusTarget

/-- The ids that are given or found. A missing phone number is reported before a missing message. -/
def resolve (phoneNumberId messageId : Option String) (event : Option Json) :
    Except MessageError StatusTarget :=
  match resolveId? phoneNumberId event phoneNumberPlaces with
  | none => .error .unresolvedPhoneNumberId
  | some phoneNumberId =>
    match resolveId? messageId event messagePlaces with
    | none => .error .unresolvedMessageId
    | some messageId => .ok ⟨phoneNumberId, messageId⟩

/-- The update that marks the message as read. -/
def markAsRead (target : StatusTarget) : Except MessageError StatusUpdate := do
  let receipt ← ReadReceipt.forMessage target.messageId
  .ok ⟨target.phoneNumberId, receipt⟩

/-- The update that marks the message as read and shows the typing sign. -/
def showTyping (target : StatusTarget) : Except MessageError StatusUpdate := do
  let receipt ← ReadReceipt.withTyping target.messageId
  .ok ⟨target.phoneNumberId, receipt⟩

end StatusTarget

end Courier
