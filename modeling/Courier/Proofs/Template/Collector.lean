import Courier.Template.Collector

/-!
# Slots in one walk

Collecting the slots of a template in one walk gives the slots of the template
(`Template.collectSlots_eq`). A collector that has seen the ids of its slots and no others takes a
slot in exactly if none of its slots has the same id, which is a step of the pass that keeps first
occurrences. And the walk takes in what the components offer, one slot after the other, however it
goes through them.
-/

namespace Courier

namespace SlotCollector

variable {collector : SlotCollector}

/-! ## Taking in -/

/-- A collector has seen the ids of its slots and no others. -/
def Synced (collector : SlotCollector) : Prop :=
  ∀ id, id ∈ collector.seen ↔ id ∈ collector.slots.map Slot.id

theorem synced_empty : empty.Synced := fun _ => Iff.rfl

/-- A collector takes a slot in exactly if the slot is new among its slots. -/
theorem Synced.slots_push (h : collector.Synced) (slot : Slot) :
    (collector.push slot).slots = keepNew Slot.id collector.slots slot := by
  rw [push, keepNew]
  by_cases hseen : slot.id ∈ collector.seen
  · rw [if_pos hseen, if_pos ((h _).mp hseen)]
  · rw [if_neg hseen, if_neg (mt (h _).mpr hseen)]

theorem Synced.push (h : collector.Synced) (slot : Slot) : (collector.push slot).Synced := by
  rw [SlotCollector.push]
  split
  · exact h
  · intro id
    rw [List.mem_cons, h id, List.map_append, List.mem_append, List.map_singleton,
      List.mem_singleton, or_comm]

/-- Taking slots in one after the other keeps the first occurrences. -/
theorem Synced.slots_foldl_push (h : collector.Synced) (slots : List Slot) :
    (slots.foldl SlotCollector.push collector).slots
      = slots.foldl (keepNew Slot.id) collector.slots := by
  induction slots generalizing collector with
  | nil => rfl
  | cons slot rest ih => rw [List.foldl_cons, List.foldl_cons, ih (h.push slot), h.slots_push]

/-! ## Walking -/

/-- Looking a slot up before it is made makes no difference: it would be passed over anyway. -/
theorem push_of_contains {key : SlotKey} {slot : Slot} (hid : slot.id = key.id) :
    (if collector.contains key then collector else collector.push slot) = collector.push slot := by
  by_cases hseen : collector.contains key
  · have hmem : slot.id ∈ collector.seen := hid ▸ of_decide_eq_true hseen
    rw [if_pos hseen, push, if_pos hmem]
  · rw [if_neg hseen]

theorem id_slot_body (body : Body) (p : Placeholder) :
    (body.slot p).id = (SlotKey.body p.name).id := by
  rw [Body.slot]
  split <;> rfl

theorem body_eq (collector : SlotCollector) (body : Body) :
    collector.body body = body.slots.foldl push collector := by
  rw [SlotCollector.body, Body.slots]
  cases body.text with
  | none => rfl
  | some text =>
    rw [Option.getD_some, List.foldl_map]
    show (Placeholder.all text).foldl _ collector = (Placeholder.all text).foldl _ collector
    congr 1
    funext collector p
    exact push_of_contains (id_slot_body body p)

theorem header_eq (collector : SlotCollector) (header : Header) :
    collector.header header = header.slots.foldl push collector := by
  cases header with
  | text header => rw [SlotCollector.header, Header.slots, List.foldl_map]
  | media format sample => cases format <;> rfl
  | location | product | unknown => rfl

theorem button_eq (collector : SlotCollector) (button : Button) (index : Nat) :
    collector.button button index = (button.slots index).foldl push collector := by
  unfold Button.slots
  rw [List.foldl_append, List.foldl_map]
  cases button <;> rfl

theorem buttons_eq (collector : SlotCollector) (buttons : List Button) :
    collector.buttons buttons = (buttons.mapIdx Button.slots).flatten.foldl push collector := by
  rw [SlotCollector.buttons, List.mapIdx_eq_zipIdx_map, ← List.flatMap_def, List.foldl_flatMap]
  congr 1
  funext collector (button, index)
  exact button_eq collector button index

/-- A walk through a component takes in what the component offers. -/
theorem component_eq (collector : SlotCollector) (component : Component) :
    collector.component component = component.slots.foldl push collector := by
  cases component with
  | body b => exact body_eq collector b
  | header h => exact header_eq collector h
  | buttons bs => exact buttons_eq collector bs
  | _ => rfl

end SlotCollector

/-- **The slots of a template can be collected in one walk.** -/
theorem Template.collectSlots_eq (template : Template) : template.collectSlots = template.slots := by
  -- first every component offers its slots in one go, then all slots are one list, then the index
  -- of what was seen is dropped
  calc
    template.collectSlots
      = (template.components.foldl
          (fun collector component => component.slots.foldl SlotCollector.push collector)
          SlotCollector.empty).slots := by
        rw [collectSlots]
        congr 2
        funext collector component
        exact collector.component_eq component
    _ = ((template.components.flatMap Component.slots).foldl SlotCollector.push .empty).slots := by
        rw [List.foldl_flatMap]
    _ = (template.components.flatMap Component.slots).foldl (keepNew Slot.id) [] :=
        SlotCollector.synced_empty.slots_foldl_push _
    _ = template.slots := foldl_keepNew_nil

end Courier
