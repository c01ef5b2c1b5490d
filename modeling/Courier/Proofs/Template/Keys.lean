import Courier.Proofs.Template.Parameters
import Courier.Proofs.Template.SlotKey
import Mathlib.Data.List.Basic

/-!
# Keys that are offered and keys that are sent

`Piece.offered` are the keys of the slots of a piece, `Piece.sent` those whose values compiling
looks up. The lists are built alike and differ in three points:

* an audio header is sent and not offered;
* of a button all placeholders are offered and only the first is sent;
* the text in which a button has its placeholders is not chosen in the same way, for what is offered
  (`Button.slotText`) and for what is sent (`Button.sentText`).

All that compiling knows of the variables are the values at the keys that are sent
(`Piece.fragment_congr`). The fallbacks are one for each of these keys that needs one, in order
(`Template.fallbacks_eq_sent`), and whether it does depends on the value at that key alone.
-/

namespace Courier

/-! ## The keys of a piece -/

namespace Button

/-- The keys of a flow button. -/
def flowKeys (index : Nat) : Button → List SlotKey
  | .flow _ => [.flowToken index, .flowActionData index]
  | _ => []

/-- The keys of the slots of a button. -/
def offered (index : Nat) (button : Button) : List SlotKey :=
  (Placeholder.all button.slotText).map (fun p => .buttonParam index p.name)
    ++ button.flowKeys index

/-- The keys whose values are sent for a button. -/
def sent (index : Nat) (button : Button) : List SlotKey :=
  (Placeholder.first? button.sentText).toList.map (fun p => .buttonParam index p.name)
    ++ button.flowKeys index

end Button

namespace Piece

/-- The keys of the slots of a piece. -/
def offered : Piece → List SlotKey
  | .body b => (Placeholder.all (b.text.getD "")).map fun p => .body p.name
  | .header (.text h) => (Placeholder.all h.text).map fun p => .header p.name
  | .header (.media format _) => if format = .audio then [] else [.headerMedia]
  | .header _ => []
  | .button index b => b.offered index

/-- The keys whose values are sent for a piece. -/
def sent : Piece → List SlotKey
  | .body b => (Placeholder.all (b.text.getD "")).map fun p => .body p.name
  | .header (.text h) => (Placeholder.all h.text).map fun p => .header p.name
  | .header (.media _ _) => [.headerMedia]
  | .header _ => []
  | .button index b => b.sent index

/-- The ids of the slots of a piece are those of the keys it offers. -/
theorem map_id_slots (piece : Piece) :
    piece.slots.map Slot.id = piece.offered.map SlotKey.id := by
  cases piece with
  | body b =>
    simp only [slots, offered, Body.slots, List.map_map]
    congr 1
    funext p
    simp only [Function.comp_apply, Body.slot]
    split <;> rfl
  | header h =>
    cases h with
    | text h =>
      simp only [slots, offered, Header.slots, List.map_map]
      rfl
    | media format samples => cases format <;> rfl
    | location | product | unknown => rfl
  | button index b =>
    simp only [slots, offered, Button.slots, Button.offered, List.map_append, List.map_map]
    cases b <;> rfl

/-- The key of flow data is sent only for a flow button at its index. -/
theorem exists_flow_of_mem_sent {piece : Piece} {index : Nat}
    (h : .flowActionData index ∈ piece.sent) : ∃ flow, piece = .button index (.flow flow) := by
  cases piece with
  | body b => simp [sent] at h
  | header header => cases header <;> simp [sent] at h
  | button i b =>
    cases b with
    | flow flow =>
      obtain rfl : index = i := by simpa [sent, Button.sent, Button.flowKeys] using h
      exact ⟨flow, rfl⟩
    | url | copyCode | phoneNumber | label | otp | unknown =>
      simp [sent, Button.sent, Button.flowKeys] at h

/-- The key of header media is sent only for a header with media. -/
theorem exists_media_of_mem_sent {piece : Piece} (h : .headerMedia ∈ piece.sent) :
    ∃ format samples, piece = .header (.media format samples) := by
  cases piece with
  | body b => simp [sent] at h
  | header header =>
    cases header with
    | media format samples => exact ⟨format, samples, rfl⟩
    | text | location | product | unknown => simp [sent] at h
  | button i b => cases b <;> simp [sent, Button.sent, Button.flowKeys] at h

end Piece

/-! ## Fallbacks -/

/-- The fallback of a key that is sent, if its value needs one. -/
def Variables.fallbackFor? (values : Variables) (key : SlotKey) : Option Fallback :=
  match key with
  | .body _ | .header _ => values.fallback? key .rawToken
  | .headerMedia => values.fallback? key .mediaOmitted
  | .buttonParam _ _ => values.fallback? key .buttonPlaceholder
  | .flowToken _ => values.fallback? key .flowToken
  | .flowActionData index => FlowButton.dataFallback? values index

namespace Variables

variable {values values' : Variables} {key : SlotKey}

/-- A slot is filled with a text exactly if its variable is that text and not empty. -/
theorem slot?_eq_some_iff {text : String} :
    values.slot? key = some text ↔ values.get? key.id = some text ∧ text ≠ "" := by
  rw [slot?, filled?, Option.filter_eq_some_iff, decide_eq_true_eq]

/-- A slot is not filled exactly if its variable is not there or empty. -/
theorem slot?_eq_none_iff :
    values.slot? key = none ↔ values.get? key.id = none ∨ values.get? key.id = some "" := by
  rw [slot?, filled?]
  cases values.get? key.id with
  | none => simp
  | some text => by_cases h : text = "" <;> simp [Option.filter, h]

/-- The fallback of a key is reported under its id. -/
theorem slotId_fallbackFor? {f : Fallback} (h : values.fallbackFor? key = some f) :
    f.slotId = key.id := by
  cases key with
  | flowActionData index =>
    simp only [fallbackFor?, FlowButton.dataFallback?] at h
    split at h
    · cases h
    · split at h
      · cases h
      · cases h
        rfl
  | body | header | headerMedia | buttonParam | flowToken =>
    simp only [fallbackFor?, fallback?] at h
    split at h
    · cases h
    · cases h
      rfl

/-- Whether a key needs a fallback depends on its value alone. -/
theorem fallbackFor?_congr (h : values.slot? key = values'.slot? key) :
    values.fallbackFor? key = values'.fallbackFor? key := by
  cases key <;> simp only [fallbackFor?, fallback?, FlowButton.dataFallback?, h]

/-- A key with a value needs no fallback, provided that flow data is JSON. -/
theorem fallbackFor?_eq_none {text : String} (h : values.slot? key = some text)
    (hjson : ∀ index, key = .flowActionData index → Json.IsText text) :
    values.fallbackFor? key = none := by
  cases key with
  | flowActionData index =>
    obtain ⟨value, hvalue⟩ := hjson index rfl
    simp only [fallbackFor?, FlowButton.dataFallback?, h, hvalue]
  | body | header | headerMedia | buttonParam | flowToken => simp only [fallbackFor?, fallback?, h]

end Variables

namespace Fragment

variable (values : Variables) (text : String)

/-- The fallbacks of a text are those of its placeholders. -/
theorem fallbacks_ofText (kind : ComponentKind) (key : String → SlotKey) :
    (ofText values kind key text).fallbacks
      = (Placeholder.all text).filterMap fun p => values.fallback? (key p.name) .rawToken := by
  unfold ofText
  split
  · rename_i h
    rw [h]
    rfl
  · rfl

/-- The fallback of a button parameter is that of its first placeholder. -/
theorem fallbacks_ofButton (kind : ButtonKind) (index : Nat) :
    (ofButton values kind index text).fallbacks
      = ((Placeholder.first? text).toList.map fun p => .buttonParam index p.name).filterMap
          values.fallbackFor? := by
  unfold ofButton
  cases Placeholder.first? text with
  | none => rfl
  | some p =>
    simp only [Option.toList_some, List.map_cons, List.map_nil, List.filterMap_cons,
      List.filterMap_nil, Variables.fallbackFor?]
    cases values.fallback? (.buttonParam index p.name) .buttonPlaceholder <;> rfl

end Fragment

/-- The fallbacks of a flow button are those of its token and its data. -/
theorem FlowButton.fallbacks_fragment (values : Variables) (index : Nat) (flow : FlowButton) :
    (flow.fragment values index).fallbacks
      = [SlotKey.flowToken index, .flowActionData index].filterMap values.fallbackFor? := by
  simp only [fragment, List.filterMap_cons, List.filterMap_nil, Variables.fallbackFor?]
  cases values.fallback? (.flowToken index) .flowToken <;> cases dataFallback? values index <;> rfl

namespace Piece

/-- The fallbacks of a piece are those of the keys that are sent for it. -/
theorem fallbacks_fragment (values : Variables) (piece : Piece) :
    (piece.fragment values).fallbacks = piece.sent.filterMap values.fallbackFor? := by
  -- texts and buttons with one parameter have a law each; media and flows are read off
  cases piece with
  | body b =>
    rw [sent, List.filterMap_map]
    exact Fragment.fallbacks_ofText ..
  | header h =>
    cases h with
    | text h =>
      rw [sent, List.filterMap_map]
      exact Fragment.fallbacks_ofText ..
    | media format samples =>
      simp only [fragment, Header.fragment, sent, List.filterMap_cons, Variables.fallbackFor?,
        Variables.fallback?]
      cases values.slot? .headerMedia <;> rfl
    | location | product | unknown => rfl
  | button index b =>
    cases b with
    | url b | copyCode b =>
      simp only [sent, Button.sent, Button.flowKeys, List.append_nil]
      exact Fragment.fallbacks_ofButton ..
    | flow b => exact b.fallbacks_fragment values index
    | phoneNumber | label | otp | unknown => rfl

/-- The parameters of a piece depend on the values of the keys alone that are sent for it. -/
theorem parameters_congr {values values' : Variables} {piece : Piece}
    (h : ∀ key ∈ piece.sent, values.slot? key = values'.slot? key) :
    piece.parameters values = piece.parameters values' := by
  cases piece with
  | body b =>
    refine List.map_congr_left fun p hp => ?_
    rw [Placeholder.parameter, Placeholder.parameter, h _ (List.mem_map_of_mem hp)]
  | header header =>
    cases header with
    | text header =>
      refine List.map_congr_left fun p hp => ?_
      rw [Placeholder.parameter, Placeholder.parameter, h _ (List.mem_map_of_mem hp)]
    | media format samples => rw [parameters, parameters, h _ List.mem_cons_self]
    | location | product | unknown => rfl
  | button index b =>
    cases b with
    | url b | copyCode b =>
      refine List.map_congr_left fun p hp => ?_
      rw [h _ (List.mem_append_left _ (List.mem_map_of_mem hp))]
    | flow flow =>
      -- a flow reads two keys at once
      have htoken := h (.flowToken index) List.mem_cons_self
      have hdata := h (.flowActionData index) (List.mem_cons_of_mem _ List.mem_cons_self)
      simp only [parameters, Button.parameters, FlowButton.data?, htoken, hdata]
    | phoneNumber | label | otp | unknown => rfl

/-- What a piece gives depends on the values of the keys alone that are sent for it. -/
theorem fragment_congr {values values' : Variables} {piece : Piece}
    (h : ∀ key ∈ piece.sent, values.slot? key = values'.slot? key) :
    piece.fragment values = piece.fragment values' := by
  apply Fragment.ext
  · rw [components_fragment, components_fragment, component?, component?, parameters_congr h]
  · rw [fallbacks_fragment, fallbacks_fragment]
    exact List.filterMap_congr fun key hkey => Variables.fallbackFor?_congr (h key hkey)

end Piece

/-! ## The keys of a template -/

namespace Template

variable (template : Template)

/-- The keys of the slots of a template, repeated ones included. -/
def offered : List SlotKey :=
  template.pieces.flatMap fun piece => piece.2.offered

/-- The keys whose values are sent for a template, repeated ones included. -/
def sent : List SlotKey :=
  template.pieces.flatMap fun piece => piece.2.sent

/-- The ids of the slots of a template are those of the keys it offers. -/
theorem exists_slot_iff {id : String} :
    (∃ s ∈ template.slots, s.id = id) ↔ ∃ key ∈ template.offered, key.id = id := by
  -- leaving out repeated slots does not lose an id
  have hids : (template.pieces.flatMap fun piece => piece.2.slots).map Slot.id
      = template.offered.map SlotKey.id := by
    simp only [offered, List.map_flatMap, Piece.map_id_slots]
  calc
    _ ↔ id ∈ (template.pieces.flatMap fun piece => piece.2.slots).map Slot.id := by
      rw [slots_eq_pieces, List.mem_map, exists_mem_distinctBy]
    _ ↔ _ := by rw [hids, List.mem_map]

/-- The fallbacks of a compilation are those of the keys that are sent, in order. -/
theorem fallbacks_eq_sent (sender recipient : String) (values : Variables) :
    (template.compileWithReport sender recipient values).fallbacks
      = template.sent.filterMap values.fallbackFor? := by
  rw [fallbacks_eq_pieces, sent, List.filterMap_flatMap]
  exact List.flatMap_congr fun piece _ => piece.2.fallbacks_fragment values

/-- A compilation depends on the values of the keys alone that are sent. -/
theorem compileWithReport_congr {values values' : Variables}
    (h : ∀ key ∈ template.sent, values.slot? key = values'.slot? key) (sender recipient : String) :
    template.compileWithReport sender recipient values
      = template.compileWithReport sender recipient values' := by
  have hfragment : template.fragment values = template.fragment values' := by
    rw [fragment_eq_pieces, fragment_eq_pieces]
    congr 1
    exact List.map_congr_left fun piece hpiece => Piece.fragment_congr fun key hkey =>
      h key (List.mem_flatMap.mpr ⟨piece, hpiece, hkey⟩)
  rw [compileWithReport, compileWithReport, hfragment]

/-- The key of flow data is sent only for a flow button at its index. -/
theorem exists_flow_of_mem_sent {index : Nat} (h : .flowActionData index ∈ template.sent) :
    ∃ bs flow, .buttons bs ∈ template.components ∧ bs[index]? = some (.flow flow) := by
  obtain ⟨⟨place, piece⟩, hpiece, hkey⟩ := List.mem_flatMap.mp h
  obtain ⟨flow, rfl⟩ := Piece.exists_flow_of_mem_sent hkey
  obtain ⟨component, hcomponent, hat⟩ := template.mem_pieces.mp hpiece
  obtain ⟨-, bs, rfl, hbs⟩ := Component.exists_buttons_of_getElem?_pieces hat
  exact ⟨bs, flow, List.mem_of_getElem? hcomponent, hbs⟩

/-- Whether a text can fill the slot with an id. It must not be empty, and for the flow data of a
flow button it must be JSON. -/
def Accepts (template : Template) (id text : String) : Prop :=
  text ≠ "" ∧ ∀ bs index flow, .buttons bs ∈ template.components →
    bs[index]? = some (.flow flow) → id = (SlotKey.flowActionData index).id → Json.IsText text

/-- A JSON text can fill every slot. -/
theorem Accepts.of_isText {id text : String} (hne : text ≠ "") (hjson : Json.IsText text) :
    template.Accepts id text :=
  ⟨hne, fun _ _ _ _ _ _ => hjson⟩

/-- Any text can fill a slot that is not for flow data. -/
theorem Accepts.of_key {key : SlotKey} {id text : String} (hid : key.id = id) (hne : text ≠ "")
    (hkey : ∀ index, key ≠ .flowActionData index) : template.Accepts id text := by
  refine ⟨hne, fun _ index _ _ _ h => ?_⟩
  rw [← hid, SlotKey.id_inj] at h
  exact absurd h (hkey index)

variable {template} in
/-- A text that can fill the slot of flow data that is sent is JSON. -/
theorem Accepts.isText {key : SlotKey} {text : String} (h : template.Accepts key.id text)
    (hkey : key ∈ template.sent) (index : Nat) (hindex : key = .flowActionData index) :
    Json.IsText text := by
  subst hindex
  obtain ⟨bs, flow, hbs, hflow⟩ := template.exists_flow_of_mem_sent hkey
  exact h.2 bs index flow hbs hflow rfl

/-- A key with a text that can fill its slot needs no fallback. -/
theorem fallbackFor?_eq_none {values : Variables} {key : SlotKey} {text : String}
    (hkey : key ∈ template.sent) (hslot : values.slot? key = some text)
    (h : template.Accepts key.id text) : values.fallbackFor? key = none :=
  Variables.fallbackFor?_eq_none hslot (h.isText hkey)

end Template

end Courier
