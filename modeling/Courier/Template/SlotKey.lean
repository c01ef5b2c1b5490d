/-!
# Slot keys

A slot is a place of a template that takes a value from outside. Its key says which place it is: a
placeholder of the body or header text by its name, the media of the header, or something of a
button by the index of the button. The id of a slot is the text of its key, and the variables of a
message are looked up by it.
-/

namespace Courier

/-- Where a value from outside goes. -/
inductive SlotKey where
  | body (name : String)
  | header (name : String)
  | headerMedia
  | buttonParam (index : Nat) (name : String)
  | flowToken (index : Nat)
  | flowActionData (index : Nat)
  deriving DecidableEq, Repr, Inhabited

/-- The id of a slot. -/
def SlotKey.id : SlotKey → String
  | .body name => "body_param_" ++ name
  | .header name => "header_param_" ++ name
  | .headerMedia => "header_media_url"
  | .buttonParam index name => "button_" ++ Nat.repr index ++ "_param_" ++ name
  | .flowToken index => "button_" ++ Nat.repr index ++ "_flow_token"
  | .flowActionData index => "button_" ++ Nat.repr index ++ "_flow_action_data"

end Courier
