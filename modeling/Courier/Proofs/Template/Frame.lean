import Courier.Proofs.Template.Entry

/-!
# Setting one variable

Keys with different ids do not share a variable. So a variable that is set to a text which fills its
slot ends the fallbacks of that slot, and all other fallbacks and values stay as they were, also
when a header with media appears (`Template.compileWithReport_set`).
-/

namespace Courier

namespace Variables

variable {values : Variables} {id text : String} {key : SlotKey}

/-- The slot of a key is filled by the text that was set for its id. -/
theorem slot?_set_self (h : text ≠ "") (hid : key.id = id) :
    (values.set id text).slot? key = some text := by
  rw [slot?, hid, filled?_set_self h]

/-- Setting a variable leaves the slots with other ids as they are. -/
theorem slot?_set_of_ne (hid : key.id ≠ id) :
    (values.set id text).slot? key = values.slot? key := by
  rw [slot?, slot?, filled?_set_of_ne hid]

end Variables

namespace Template

variable (template : Template) (values : Variables) {id text : String}

/-- Setting a variable removes the fallback of a key with its id and no other. -/
theorem fallbackFor?_set (h : template.Accepts id text) {key : SlotKey}
    (hkey : key ∈ template.sent) :
    (values.set id text).fallbackFor? key
      = (values.fallbackFor? key).filter fun f => f.slotId ≠ id := by
  -- the fallback of a key has the id of the key, and with this id the slot is filled now
  by_cases hid : key.id = id
  · have hnone : (values.set id text).fallbackFor? key = none :=
      template.fallbackFor?_eq_none hkey (Variables.slot?_set_self h.1 hid) (hid ▸ h)
    rw [hnone, eq_comm, Option.filter_eq_none_iff]
    intro f hf
    rw [Variables.slotId_fallbackFor? hf, hid]
    simp
  · have hsame : (values.set id text).fallbackFor? key = values.fallbackFor? key :=
      Variables.fallbackFor?_congr (Variables.slot?_set_of_ne hid)
    rw [hsame]
    cases hf : values.fallbackFor? key with
    | none => rfl
    | some f =>
      have hother : f.slotId ≠ id := by
        rw [Variables.slotId_fallbackFor? hf]
        exact hid
      simp [Option.filter, hother]

/-- Setting a variable leaves the values for keys with other ids as they are. -/
theorem entries_set (id text : String) :
    (template.entries (values.set id text)).filter (fun e => e.key.id ≠ id)
      = (template.entries values).filter fun e => e.key.id ≠ id := by
  rw [entries_eq_pieces, entries_eq_pieces, List.filter_flatMap, List.filter_flatMap]
  refine List.flatMap_congr fun piece _ => ?_
  rw [List.filter_filterMap, List.filter_filterMap]
  refine List.filterMap_congr fun key _ => ?_
  by_cases hid : key.id = id
  · simp [Option.filter_map, Function.comp_def, hid]
  · rw [Piece.cell?_congr (Variables.slot?_set_of_ne hid)]

/-- Setting a variable removes the fallbacks with its id and no others. -/
theorem fallbacks_set (h : template.Accepts id text) (sender recipient : String) :
    (template.compileWithReport sender recipient (values.set id text)).fallbacks
      = (template.compileWithReport sender recipient values).fallbacks.filter
          fun f => f.slotId ≠ id := by
  rw [fallbacks_eq_sent, fallbacks_eq_sent, List.filter_filterMap]
  exact List.filterMap_congr fun key hkey => template.fallbackFor?_set values h hkey

/-- **Setting one variable touches its slot only.** The fallbacks are those of before without the
ones of the slot, in the same order. Every value of a payload stands in an entry with its key, and
the entries whose key has another id are the same as before. -/
theorem compileWithReport_set (h : template.Accepts id text) (sender recipient : String) :
    (template.compileWithReport sender recipient (values.set id text)).fallbacks
        = (template.compileWithReport sender recipient values).fallbacks.filter (·.slotId ≠ id) ∧
    (∀ values, let components :=
          (template.compileWithReport sender recipient values).payload.template.components
        components = (template.placed values).map Placed.component ∧
        components.flatMap CompiledComponent.cells = (template.entries values).map Entry.cell) ∧
    (template.entries (values.set id text)).filter (·.key.id ≠ id)
        = (template.entries values).filter (·.key.id ≠ id) := by
  refine ⟨template.fallbacks_set values h sender recipient, fun values => ⟨?_, ?_⟩,
    template.entries_set values id text⟩
  · exact template.components_eq_placed values sender recipient
  · exact (template.map_cell_entries values sender recipient).symm

/-- The link of the image makes the header of the notice appear and ends its fallback. -/
theorem orderNotice_set_image :
    (orderNotice.compileWithReport "a" "b" .empty).payload.template.components.length = 3 ∧
      (orderNotice.compileWithReport "a" "b"
        (Variables.empty.set "header_media_url" "link")).payload.template.components.length = 4 ∧
      (orderNotice.compileWithReport "a" "b"
        (Variables.empty.set "header_media_url" "link")).fallbacks.map Fallback.slotId
          = ["body_param_name", "body_param_1", "button_0_param_1", "button_1_flow_token"] ∧
      (orderNotice.entries (Variables.empty.set "header_media_url" "link")).filter
          (·.key.id ≠ "header_media_url")
        = orderNotice.entries .empty := by
  have haccepts : orderNotice.Accepts "header_media_url" "link" :=
    .of_key _ (rfl : SlotKey.headerMedia.id = _) (by decide) (by simp)
  obtain ⟨hfallbacks, -, hentries⟩ := orderNotice.compileWithReport_set .empty haccepts "a" "b"
  refine ⟨by decide, by decide, ?_, ?_⟩
  · rw [hfallbacks]
    decide
  · rw [hentries]
    decide

end Template

end Courier
