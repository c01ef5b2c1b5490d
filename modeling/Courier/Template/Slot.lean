import Courier.Distinct
import Courier.Template.Document
import Courier.Template.Placeholder
import Courier.Template.SlotKey

/-!
# Slots of a template

The slots of a template in document order, each with a label for the person who fills it in. A
component offers its slots without regard to the others (`Component.slots`); of several slots with
one id only the first is kept, so its label and sample are those of the first occurrence.

Only headers, bodies and buttons of the template itself have slots. Audio headers take a value when
a message is compiled but are not offered.
-/

namespace Courier

/-- A slot as it is offered. -/
structure Slot where
  id : String
  label : String
  required : Bool
  /-- A sample value from the template. -/
  sample : Option String
  /-- Whether incoming records can be matched by this slot. -/
  matchable : Bool
  deriving DecidableEq, Repr, Inhabited

namespace Slot

/-- A slot that must be filled. -/
def mandatory (key : SlotKey) (label : String) (sample : Option String) : Slot :=
  ⟨key.id, label, true, sample, true⟩

/-- A slot that may stay empty. -/
def optional (key : SlotKey) (label : String) : Slot :=
  ⟨key.id, label, false, none, true⟩

end Slot

/-- The first text that is there and not empty; otherwise the empty text. -/
def firstNonEmpty (candidates : List (Option String)) : String :=
  (candidates.findSome? fun candidate => candidate.filter (· ≠ "")).getD ""

/-- Of two texts the second counts only if the first is empty or not there. -/
theorem firstNonEmpty_pair (first second : Option String) :
    firstNonEmpty [first, second]
      = if first.getD "" = "" then second.getD "" else first.getD "" := by
  have hsecond : firstNonEmpty [second] = second.getD "" := by
    cases second with
    | none => rfl
    | some text => by_cases h : text = "" <;> simp [firstNonEmpty, Option.filter, h]
  cases first with
  | none => exact hsecond
  | some text =>
    by_cases h : text = ""
    · rw [Option.getD_some, if_pos h, ← hsecond]
      simp [firstNonEmpty, Option.filter, h]
    · rw [Option.getD_some, if_neg h]
      simp [firstNonEmpty, Option.filter, h]

/-! ## Slots by component -/

/-- The slot of a placeholder in a body. -/
def Body.slot (body : Body) (p : Placeholder) : Slot :=
  match p.position?.bind body.sampleAt? with
  | some sample =>
    .mandatory (.body p.name) ("Body Variable " ++ p.raw ++ ". Example: " ++ sample) (some sample)
  | none => .mandatory (.body p.name) ("Body Variable " ++ p.raw) none

/-- The slots of a body. -/
def Body.slots (body : Body) : List Slot :=
  (Placeholder.all (body.text.getD "")).map body.slot

/-- The slot of a placeholder in a header. -/
def Header.slot (p : Placeholder) : Slot :=
  .mandatory (.header p.name) ("Header Variable " ++ p.raw) none

/-- The slot of a header with media. -/
def Header.mediaSlot (format : MediaFormat) : Slot :=
  .mandatory .headerMedia ("Header " ++ format.name ++ " URL") none

/-- The slots of a header. -/
def Header.slots : Header → List Slot
  | .text header => (Placeholder.all header.text).map slot
  | .media .audio _ => []
  | .media format _ => [mediaSlot format]
  | .location | .product | .unknown => []

/-- The text of a button in which placeholders are offered. -/
def Button.slotText : Button → String
  | .url button => firstNonEmpty [some button.url, some button.text]
  | .copyCode button => firstNonEmpty [button.url, button.text]
  | _ => ""

/-- The start of the label of every slot of a button; people count buttons from 1. -/
def Button.labelStart (index : Nat) : String :=
  "Button " ++ Nat.repr (index + 1)

/-- The slot of a placeholder in a button. -/
def Button.slot (button : Button) (index : Nat) (p : Placeholder) : Slot :=
  .mandatory (.buttonParam index p.name)
    (labelStart index ++ " Variable " ++ p.raw ++ ". Type: " ++ button.kindName) none

/-- The slots of a flow button. -/
def Button.flowSlots (index : Nat) : List Slot :=
  [.optional (.flowToken index) (labelStart index ++ " Flow Token"),
   .optional (.flowActionData index) (labelStart index ++ " Flow Action Data (JSON)")]

/-- The slots of the button at an index. -/
def Button.slots (index : Nat) (button : Button) : List Slot :=
  (Placeholder.all button.slotText).map (button.slot index)
    ++ match button with
      | .flow _ => flowSlots index
      | _ => []

/-- The slots of a component. -/
def Component.slots : Component → List Slot
  | .body b => b.slots
  | .header h => h.slots
  | .buttons bs => (bs.mapIdx Button.slots).flatten
  | _ => []

/-! ## Slots of a template -/

/-- The slots of a template; of several with one id the first. -/
def Template.slots (template : Template) : List Slot :=
  distinctBy Slot.id (template.components.flatMap Component.slots)

/-- The slots of a template given as a value; a value that is no template has none. -/
def Slot.ofJson (value : Json) : List Slot :=
  match Template.decoder.run value with
  | .ok template => template.slots
  | .error _ => []

/-- The slots of a template given as a text; a text that is no template has none. -/
def Slot.ofText (text : String) : List Slot :=
  match Template.decoder.parse text with
  | .ok template => template.slots
  | .error _ => []

/-! ## Documents -/

/-- The decoder of slots. -/
def Slot.decoder : Decoder Slot :=
  (Fields.make Slot.mk
    |>.required "id" Decoder.string
    |>.required "display_label" Decoder.string
    |>.required "required" Decoder.bool
    |>.nullable "example_value" Decoder.string
    |>.required "can_be_used_to_match" Decoder.bool).decoder "struct SlotDescriptor"

/-- A slot as a value. -/
def Slot.toJson (slot : Slot) : Json :=
  .object
    [("id", some (.str slot.id)),
     ("display_label", some (.str slot.label)),
     ("required", some (.bool slot.required)),
     ("example_value", slot.sample.map .str),
     ("can_be_used_to_match", some (.bool slot.matchable))]

end Courier
