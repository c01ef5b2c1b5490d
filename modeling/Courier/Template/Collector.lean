import Courier.Template.Slot

/-!
# Collecting slots

One walk through a template that collects its slots. A collector holds the slots that it has taken in
and the ids that it has seen, and takes a slot in if it has not seen its id. The slots of a body are
looked up before they are made, because making one means to look for its sample.
-/

namespace Courier

/-- The slots taken in so far, and the ids seen so far, the last one first. -/
structure SlotCollector where
  seen : List String
  slots : List Slot
  deriving DecidableEq, Repr, Inhabited

namespace SlotCollector

/-- A collector at its start. -/
def empty : SlotCollector := ⟨[], []⟩

/-- Takes a slot in, unless its id was seen. -/
def push (collector : SlotCollector) (slot : Slot) : SlotCollector :=
  if slot.id ∈ collector.seen then collector
  else ⟨slot.id :: collector.seen, collector.slots ++ [slot]⟩

/-- Whether the id of a slot was seen. -/
def contains (collector : SlotCollector) (key : SlotKey) : Bool :=
  key.id ∈ collector.seen

/-- Collects from a body. -/
def body (collector : SlotCollector) (body : Body) : SlotCollector :=
  match body.text with
  | none => collector
  | some text =>
    (Placeholder.all text).foldl (fun collector p =>
      if collector.contains (.body p.name) then collector else collector.push (body.slot p)) collector

/-- Collects from a header. -/
def header (collector : SlotCollector) : Header → SlotCollector
  | .text header =>
    (Placeholder.all header.text).foldl (fun collector p => collector.push (Header.slot p)) collector
  | .media .audio _ => collector
  | .media format _ => collector.push (Header.mediaSlot format)
  | .location | .product | .unknown => collector

/-- Collects from the button at an index: its placeholders first, and then the two slots of a flow
button. -/
def button (collector : SlotCollector) (button : Button) (index : Nat) : SlotCollector :=
  let collector := (Placeholder.all button.slotText).foldl
    (fun collector p => collector.push (button.slot index p)) collector
  match button with
  | .flow _ => (Button.flowSlots index).foldl push collector
  | _ => collector

/-- Collects from buttons, one after the other. -/
def buttons (collector : SlotCollector) (buttons : List Button) : SlotCollector :=
  buttons.zipIdx.foldl (fun collector (button, index) => collector.button button index) collector

/-- Collects from a component. -/
def component (collector : SlotCollector) : Component → SlotCollector
  | .body b => collector.body b
  | .header h => collector.header h
  | .buttons bs => collector.buttons bs
  | _ => collector

end SlotCollector

/-- The slots that a walk through a template collects. -/
def Template.collectSlots (template : Template) : List Slot :=
  (template.components.foldl SlotCollector.component .empty).slots

end Courier
