import Courier.Proofs.Template.Frame

/-!
# Where the value of a slot arrives

A slot belongs to the first piece that offers its id (`Template.source?`), and the value of the slot
should be sent for that piece. It is for texts, for media and for flows. For a parameter of a button
it is exactly if the placeholder is the first one of the text that the button sends
(`Template.arrives_iff`). That text need not be the one in which the slot was found: a page button
with placeholders in its label only, or a button for a code with placeholders in two texts, offers
slots whose values go nowhere.
-/

namespace Courier

/-! ## Slots and pieces -/

namespace Piece

/-- Whether the value for a key that is offered is sent. Of the placeholders of a button only the
first one of the text that is sent counts. -/
def Sends : Piece → SlotKey → Prop
  | .button _ b, .buttonParam _ name =>
    (Placeholder.first? b.sentText).map Placeholder.name = some name
  | _, _ => True

/-- Of the keys that are offered those are sent whose values are. -/
theorem mem_sent_iff {piece : Piece} {key : SlotKey} (h : key ∈ piece.offered) :
    key ∈ piece.sent ↔ piece.Sends key := by
  cases piece with
  | body b => exact iff_of_true h trivial
  | header header =>
    refine iff_of_true ?_ trivial
    cases header with
    | media format samples =>
      rw [offered] at h
      split at h
      · cases h
      · exact h
    | text | location | product | unknown => exact h
  | button index b =>
    rw [offered, Button.offered, List.mem_append, List.mem_map] at h
    rcases h with ⟨p, -, rfl⟩ | hflow
    · -- a parameter is no key of a flow, so it is sent for the first placeholder or not at all
      have hkind : SlotKey.buttonParam index p.name ∉ b.flowKeys index := by
        cases b <;> simp [Button.flowKeys]
      simp [sent, Button.sent, Sends, hkind, Option.map_eq_some_iff]
    · refine iff_of_true (List.mem_append_right _ hflow) ?_
      cases b with
      | flow flow =>
        rw [Button.flowKeys, List.mem_pair] at hflow
        rcases hflow with rfl | rfl <;> trivial
      | url | copyCode | phoneNumber | label | otp | unknown => cases hflow

end Piece

namespace Template

/-- The piece to which a slot belongs: the first one that has a slot with its id. -/
def source? (template : Template) (id : String) : Option (Place × Piece) :=
  template.pieces.find? fun piece => piece.2.slots.any (·.id = id)

variable (template : Template)

/-- A slot of a template is a slot of the piece to which it belongs. -/
theorem exists_source?_of_mem_slots {s : Slot} (hs : s ∈ template.slots) :
    ∃ place piece, template.source? s.id = some (place, piece) ∧ s ∈ piece.slots := by
  -- a slot is kept because a search for its id finds it, so no earlier piece has that id
  rw [slots_eq_pieces, mem_distinctBy, List.find?_flatMap, List.findSome?_eq_some_iff] at hs
  obtain ⟨earlier, ⟨place, piece⟩, later, hpieces, hfound, hearlier⟩ := hs
  have hmem : s ∈ piece.slots := List.mem_of_find?_eq_some hfound
  refine ⟨place, piece, ?_, hmem⟩
  rw [source?, List.find?_eq_some_iff_append]
  refine ⟨List.any_eq_true.mpr ⟨s, hmem, decide_eq_true rfl⟩, earlier, later, hpieces, ?_⟩
  intro other hother
  have hnone := hearlier other hother
  simpa using hnone

/-! ## Arrival -/

/-- Among the values of a payload there is one for a key of a piece with a text, if the piece sends
that key. -/
theorem exists_entry_iff {values : Variables} {place : Place} {piece : Piece} {key : SlotKey}
    {text : String} (hpiece : (place, piece) ∈ template.pieces)
    (hslot : values.slot? key = some text) (haccepts : template.Accepts key.id text) :
    (∃ e ∈ template.entries values,
      e.place = place ∧ e.heading = piece.heading ∧ e.key = key ∧ e.cell.Holds text)
        ↔ key ∈ piece.sent := by
  rw [entries_eq_pieces]
  constructor
  · rintro ⟨e, he, rfl, -, rfl, -⟩
    obtain ⟨⟨_, other⟩, hother, he⟩ := List.mem_flatMap.mp he
    obtain ⟨key, hkey, he⟩ := List.mem_filterMap.mp he
    obtain ⟨cell, -, rfl⟩ := Option.map_eq_some_iff.mp he
    rw [template.eq_of_mem_pieces hpiece hother]
    exact hkey
  · intro hkey
    have hsent : key ∈ template.sent := List.mem_flatMap.mpr ⟨(place, piece), hpiece, hkey⟩
    obtain ⟨cell, hcell, hholds⟩ := Piece.exists_cell?_holds hkey hslot (haccepts.isText hsent)
    refine ⟨⟨place, piece.heading, key, cell⟩, ?_, rfl, rfl, rfl, hholds⟩
    refine List.mem_flatMap.mpr ⟨(place, piece), hpiece, List.mem_filterMap.mpr ⟨key, hkey, ?_⟩⟩
    rw [hcell]
    rfl

/-- A piece that does not send a key gives the same component whatever the variable of that key. -/
theorem components_fragment_set {piece : Piece} {key : SlotKey} (h : key ∉ piece.sent)
    (values : Variables) (text : String) :
    (piece.fragment (values.set key.id text)).components = (piece.fragment values).components := by
  have hslots : ∀ other ∈ piece.sent,
      (values.set key.id text).slot? other = values.slot? other := by
    intro other hother
    apply Variables.slot?_set_of_ne
    rw [Ne, SlotKey.id_inj]
    rintro rfl
    exact h hother
  rw [Piece.fragment_congr hslots]

/-- **Which values arrive.** A slot of a template belongs to a piece, which offers it under a key.
When its variable is set to a text that it accepts, no fallback is reported for the slot, and that
text is the value for the key in the component of that piece exactly if the piece sends the key. If
it does not, the component of the piece does not depend on the variable. -/
theorem arrives_iff {s : Slot} (hs : s ∈ template.slots) :
    ∃ place piece key, template.source? s.id = some (place, piece) ∧ s ∈ piece.slots ∧
      key ∈ piece.offered ∧ key.id = s.id ∧
      ∀ sender recipient values text, template.Accepts s.id text →
        (∀ f ∈ (template.compileWithReport sender recipient (values.set s.id text)).fallbacks,
          f.slotId ≠ s.id) ∧
        (template.compileWithReport sender recipient
          (values.set s.id text)).payload.template.components
            = (template.placed (values.set s.id text)).map Placed.component ∧
        ((∃ e ∈ template.entries (values.set s.id text),
          e.place = place ∧ e.heading = piece.heading ∧ e.key = key ∧ e.cell.Holds text)
            ↔ piece.Sends key) ∧
        (¬ piece.Sends key → (piece.fragment (values.set s.id text)).components
          = (piece.fragment values).components) := by
  obtain ⟨place, piece, hsource, hslot⟩ := template.exists_source?_of_mem_slots hs
  have hpiece : (place, piece) ∈ template.pieces := List.mem_of_find?_eq_some hsource
  have hid : s.id ∈ piece.offered.map SlotKey.id := by
    rw [← piece.map_id_slots]
    exact List.mem_map_of_mem hslot
  obtain ⟨key, hkey, hid⟩ := List.mem_map.mp hid
  refine ⟨place, piece, key, hsource, hslot, hkey, hid, ?_⟩
  intro sender recipient values text haccepts
  rw [← Piece.mem_sent_iff hkey, ← hid] at *
  refine ⟨?_, template.components_eq_placed .., ?_, ?_⟩
  · -- setting a value takes the lines of its key out of the report
    intro f hf
    rw [template.fallbacks_set values haccepts, List.mem_filter] at hf
    exact of_decide_eq_true hf.2
  · exact template.exists_entry_iff hpiece (Variables.slot?_set_self haccepts.1 rfl) haccepts
  · exact fun h => components_fragment_set h values text

/-- The value for the address of the page button of the notice arrives there. -/
theorem orderNotice_arrives :
    (∀ f ∈ (orderNotice.compileWithReport "a" "b"
        (Variables.empty.set "button_0_param_1" "7")).fallbacks, f.slotId ≠ "button_0_param_1") ∧
      ∃ e ∈ orderNotice.entries (Variables.empty.set "button_0_param_1" "7"),
        e.heading = ⟨.button, some .url, some 0⟩ ∧ e.cell.Holds "7" := by
  have hslot : ∃ s ∈ orderNotice.slots, s.id = "button_0_param_1" := by decide
  obtain ⟨s, hs, hid⟩ := hslot
  obtain ⟨place, piece, key, hsource, -, -, hkey, harrives⟩ := orderNotice.arrives_iff hs
  rw [hid] at hsource hkey harrives
  have hpiece : orderNotice.source? "button_0_param_1"
      = some (⟨2, 0⟩, .button 0 (.url ⟨"Open", "https://shop/\x7b\x7b1\x7d\x7d", []⟩)) := by decide
  obtain ⟨rfl, rfl⟩ := Prod.mk.inj (Option.some.inj (hsource.symm.trans hpiece))
  obtain rfl : key = .buttonParam 0 "1" := SlotKey.id_inj.mp (hkey.trans (by decide))
  have haccepts : orderNotice.Accepts "button_0_param_1" "7" := .of_key _ hkey (by decide) (by simp)
  obtain ⟨hfallbacks, -, harrives, -⟩ := harrives "a" "b" .empty "7" haccepts
  have hfirst : (Placeholder.first? "https://shop/\x7b\x7b1\x7d\x7d").map Placeholder.name
      = some "1" := by decide
  obtain ⟨e, he, -, hheading, -, hholds⟩ := harrives.mpr hfirst
  exact ⟨hfallbacks, e, he, hheading, hholds⟩

/-- A page button with a placeholder in its label, and no address. -/
def labelNotice : Template :=
  { (default : Template) with
    components := [.buttons [.url ⟨"Go \x7b\x7b1\x7d\x7d", "", []⟩]] }

/-- The only slot of the label takes any value, and no value is sent. -/
theorem labelNotice_lost :
    labelNotice.slots.map Slot.id = ["button_0_param_1"] ∧
      labelNotice.Accepts "button_0_param_1" "V" ∧
      ∀ sender recipient values,
        (labelNotice.compileWithReport sender recipient values).payload.template.components
          = [] := by
  have hid : (SlotKey.buttonParam 0 "1").id = "button_0_param_1" := by decide
  exact ⟨by decide, .of_key _ hid (by decide) (by simp), fun _ _ _ => rfl⟩

end Template

end Courier
