import Courier.Proofs.Template.Keys

/-!
# What is sent is offered

For a template without audio headers whose buttons for a code have one text each
(`Template.Covered`) every key that is sent is the key of a slot. So the slots are all that a caller
has to know:

* `fallbacks_within_slots`: fallbacks are reported for slots only, and there is none once every slot
  has a text that it accepts;
* `compileWithReport_eq_of_slots`: variables that agree on the slots give the same compilation. For
  variables given as JSON, a null, an empty text and no member at all are one and the same.
-/

namespace Courier

/-- The templates in which every value that is sent belongs to a slot. -/
structure Template.Covered (template : Template) : Prop where
  /-- Audio headers are sent and not offered. -/
  no_audio : ∀ samples, .header (.media .audio samples) ∉ template.components
  /-- Of two texts of a button for a code, the one that is offered is not the one that is sent. -/
  one_text : ∀ bs b, .buttons bs ∈ template.components → .copyCode b ∈ bs →
    b.text.getD "" = "" ∨ b.url.getD "" = ""

/-! ## Keys -/

namespace Button

/-- A page button that sends something has its placeholders in its address. -/
theorem mem_all_slotText_url {b : UrlButton} {p : Placeholder}
    (h : Placeholder.first? b.url = some p) : p ∈ Placeholder.all (Button.url b).slotText := by
  have hurl : b.url ≠ "" := by
    intro hempty
    rw [hempty] at h
    cases h
  rw [slotText, firstNonEmpty_pair, Option.getD_some, if_neg hurl]
  exact Placeholder.mem_all_of_first? h

/-- With one text only, a button for a code sends what it offers. -/
theorem slotText_copyCode {b : CopyCodeButton} (h : b.text.getD "" = "" ∨ b.url.getD "" = "") :
    (Button.copyCode b).slotText = (Button.copyCode b).sentText := by
  rw [slotText, sentText, firstNonEmpty_pair, firstNonEmpty_pair]
  rcases h with h | h
  · rw [h, if_pos rfl]
    split
    · rename_i hurl
      exact hurl.symm
    · rfl
  · rw [h, if_pos rfl]
    split
    · rename_i htext
      exact htext
    · rfl

/-- A button offers what it sends if its first placeholder is among those that are offered. -/
theorem sent_subset_offered {index : Nat} {b : Button}
    (h : ∀ p, Placeholder.first? b.sentText = some p → p ∈ Placeholder.all b.slotText) :
    b.sent index ⊆ b.offered index := by
  intro key hkey
  rw [sent, List.mem_append, List.mem_map] at hkey
  rw [offered, List.mem_append, List.mem_map]
  rcases hkey with ⟨p, hp, rfl⟩ | hflow
  · exact Or.inl ⟨p, h p (Option.mem_toList.mp hp), rfl⟩
  · exact Or.inr hflow

end Button

namespace Template.Covered

variable {template : Template}

/-- Every key that is sent is offered. -/
theorem mem_offered (h : template.Covered) {key : SlotKey} (hkey : key ∈ template.sent) :
    key ∈ template.offered := by
  obtain ⟨⟨place, piece⟩, hpiece, hkey⟩ := List.mem_flatMap.mp hkey
  refine List.mem_flatMap.mpr ⟨(place, piece), hpiece, ?_⟩
  obtain ⟨component, hcomponent, hat⟩ := template.mem_pieces.mp hpiece
  cases piece with
  | body b => exact hkey
  | header header =>
    cases header with
    | media format samples =>
      obtain rfl := Component.eq_header_of_getElem?_pieces hat
      -- the only header that is sent and not offered is excluded
      have hformat : format ≠ .audio := by
        rintro rfl
        exact h.no_audio samples (List.mem_of_getElem? hcomponent)
      rw [Piece.offered, if_neg hformat]
      exact hkey
    | text | location | product | unknown => exact hkey
  | button index b =>
    obtain ⟨-, bs, rfl, hb⟩ := Component.exists_buttons_of_getElem?_pieces hat
    refine Button.sent_subset_offered (fun p hp => ?_) hkey
    cases b with
    | url b => exact Button.mem_all_slotText_url hp
    | copyCode b =>
      rw [Button.slotText_copyCode
        (h.one_text bs b (List.mem_of_getElem? hcomponent) (List.mem_of_getElem? hb))]
      exact Placeholder.mem_all_of_first? hp
    | flow | phoneNumber | label | otp | unknown => cases hp

/-- Every key that is sent is the key of a slot. -/
theorem exists_slot (h : template.Covered) {key : SlotKey} (hkey : key ∈ template.sent) :
    ∃ s ∈ template.slots, s.id = key.id :=
  template.exists_slot_iff.mpr ⟨key, h.mem_offered hkey, rfl⟩

end Template.Covered

theorem Template.orderNotice_covered : orderNotice.Covered where
  no_audio samples := by simp [orderNotice]
  one_text bs b hbs hb := by simp_all [orderNotice]

/-! ## Compilations -/

/-- **Filling the slots is enough.** Fallbacks are reported under the ids of slots only, and if
every slot has a text that it accepts, there is none. -/
theorem Template.fallbacks_within_slots (template : Template) (h : template.Covered)
    (sender recipient : String) :
    (∀ values, ∀ f ∈ (template.compileWithReport sender recipient values).fallbacks,
      ∃ s ∈ template.slots, s.id = f.slotId) ∧
    (∀ values : Variables,
      (∀ s ∈ template.slots, ∃ text, values.get? s.id = some text ∧ template.Accepts s.id text) →
        (template.compileWithReport sender recipient values).fallbacks = []) := by
  constructor
  · intro values f hf
    rw [fallbacks_eq_sent] at hf
    obtain ⟨key, hkey, hfallback⟩ := List.mem_filterMap.mp hf
    rw [Variables.slotId_fallbackFor? hfallback]
    exact h.exists_slot hkey
  · intro values hvalues
    rw [fallbacks_eq_sent, List.filterMap_eq_nil_iff]
    intro key hkey
    obtain ⟨s, hs, hid⟩ := h.exists_slot hkey
    obtain ⟨text, htext, haccepts⟩ := hvalues s hs
    rw [hid] at htext haccepts
    refine template.fallbackFor?_eq_none hkey ?_ haccepts
    rw [Variables.slot?, Variables.filled?, htext]
    simp [Option.filter, haccepts.1]

/-- The notice with its five slots filled. -/
theorem Template.orderNotice_fallbacks :
    let values : Variables := ⟨orderNotice.slots.map fun s => (s.id, "1")⟩
    (orderNotice.compileWithReport "a" "b" .empty).fallbacks.length = 5 ∧
      (∀ f ∈ (orderNotice.compileWithReport "a" "b" .empty).fallbacks,
        ∃ s ∈ orderNotice.slots, s.id = f.slotId) ∧
      (orderNotice.compileWithReport "a" "b" values).fallbacks = [] := by
  intro values
  obtain ⟨hwithin, hfilled⟩ := orderNotice.fallbacks_within_slots orderNotice_covered "a" "b"
  have hone : Json.IsText "1" := ⟨_, rfl⟩
  have hget : ∀ s ∈ orderNotice.slots, values.get? s.id = some "1" := by decide
  refine ⟨by decide, hwithin .empty, hfilled values fun s hs => ?_⟩
  exact ⟨"1", hget s hs, .of_isText orderNotice (by decide) hone⟩

/-- Whether a member of an object leaves its variable unfilled: it is null, the empty text, or not
there. -/
def Variables.Blank (member : Option Json) : Prop :=
  member = none ∨ member = some .null ∨ member = some (.str "")

instance : DecidablePred Variables.Blank := fun _ => inferInstanceAs (Decidable (_ ∨ _ ∨ _))

/-- A variable whose member is blank is not filled. -/
theorem Variables.filled?_ofMembers_of_blank {members : List (String × Json)}
    (hkeys : (members.map Prod.fst).Nodup) {name : String}
    (hblank : Blank (members.lookup name)) : (ofMembers members).filled? name = none := by
  rw [filled?, get?_ofMembers hkeys]
  rcases hblank with h | h | h <;> rw [h] <;> rfl

/-- **Nothing but the slots counts.** Variables that agree on every slot, up to those that are empty
or missing in both, give the same payload and the same fallbacks; and so do objects of variables
that agree on every slot, up to members that are blank in both. -/
theorem Template.compileWithReport_eq_of_slots (template : Template) (h : template.Covered)
    (sender recipient : String) :
    (∀ values values' : Variables,
      (∀ s ∈ template.slots, values.filled? s.id = values'.filled? s.id) →
        template.compileWithReport sender recipient values
          = template.compileWithReport sender recipient values') ∧
    (∀ members members' : List (String × Json),
      (members.map Prod.fst).Nodup → (members'.map Prod.fst).Nodup →
      (∀ s ∈ template.slots, members.lookup s.id = members'.lookup s.id ∨
        Variables.Blank (members.lookup s.id) ∧ Variables.Blank (members'.lookup s.id)) →
        template.compileWithReport sender recipient (.ofMembers members)
          = template.compileWithReport sender recipient (.ofMembers members')) := by
  have hvalues (values values' : Variables)
      (hagree : ∀ s ∈ template.slots, values.filled? s.id = values'.filled? s.id) :
      template.compileWithReport sender recipient values
        = template.compileWithReport sender recipient values' := by
    refine template.compileWithReport_congr (fun key hkey => ?_) sender recipient
    obtain ⟨s, hs, hid⟩ := h.exists_slot hkey
    rw [Variables.slot?, Variables.slot?, ← hid]
    exact hagree s hs
  refine ⟨hvalues, fun members members' hkeys hkeys' hagree => hvalues _ _ fun s hs => ?_⟩
  rcases hagree s hs with hsame | ⟨hblank, hblank'⟩
  · rw [Variables.filled?, Variables.filled?, Variables.get?_ofMembers hkeys,
      Variables.get?_ofMembers hkeys', hsame]
  · rw [Variables.filled?_ofMembers_of_blank hkeys hblank,
      Variables.filled?_ofMembers_of_blank hkeys' hblank']

/-- A name that is no slot, an empty text and null make no difference to the notice. -/
theorem Template.orderNotice_indifferent :
    orderNotice.compileWithReport "a" "b" ⟨[("body_param_name", "Ann")]⟩
      = orderNotice.compileWithReport "a" "b"
          ⟨[("body_param_2", "x"), ("body_param_1", ""), ("body_param_name", "Ann")]⟩ ∧
    orderNotice.compileWithReport "a" "b"
        (.ofMembers [("body_param_name", .str "Ann"), ("header_media_url", .null)])
      = orderNotice.compileWithReport "a" "b"
          (.ofMembers [("body_param_1", .str ""), ("body_param_name", .str "Ann")]) := by
  obtain ⟨hvalues, hmembers⟩ :=
    orderNotice.compileWithReport_eq_of_slots orderNotice_covered "a" "b"
  refine ⟨hvalues _ _ ?_, hmembers _ _ (by decide) (by decide) ?_⟩
  · decide
  · decide

end Courier
