import Courier.Proofs.Json.Normal
import Courier.Proofs.Json.RoundTrip
import Courier.Proofs.Template.Order

/-!
# Structured flow data

Flow data that a caller gives as an array or an object goes through text: `Variables.ofMembers`
writes it down, and the flow button reads it back. Nothing is lost on the way
(`Template.flowData_arrives`), as long as its numbers are integers and it is not nested deeper than
the reader of JSON goes.
-/

namespace Courier

/-- Whether a value is an array or an object. -/
def Json.IsStructured : Json → Prop
  | .arr _ | .obj _ => True
  | .null | .bool _ | .num _ | .str _ => False

namespace Variables

/-- The variable of a structured value is the text of the value. -/
theorem textOf_of_isStructured {value : Json} (h : value.IsStructured) :
    textOf value = some value.text := by
  cases value with
  | arr | obj => rfl
  | null | bool | num | str => cases h

/-- The variables of a single structured value. -/
theorem get?_ofMembers_singleton {value : Json} (h : value.IsStructured) (name other : String) :
    (ofMembers [(name, value)]).get? other = if other = name then some value.text else none := by
  have hnodup : ([(name, value)].map Prod.fst).Nodup := List.nodup_singleton name
  rw [get?_ofMembers hnodup, List.lookup_cons, List.lookup_nil]
  by_cases heq : other = name
  · simp [heq, textOf_of_isStructured h]
  · simp [heq, beq_false_of_ne heq]

/-- Flow data is reported as malformed only if its variable is filled with a text that is not
JSON. -/
theorem exists_slot?_of_malformed {values : Variables} {key : SlotKey} {f : Fallback}
    (h : values.fallbackFor? key = some f) (hkind : f.kind = .malformedFlowActionData) :
    ∃ index text, key = .flowActionData index ∧ values.slot? key = some text ∧
      ¬ Json.IsText text := by
  cases hslot : values.slot? key with
  | none =>
    cases key <;> simp only [fallbackFor?, fallback?, FlowButton.dataFallback?, hslot] at h <;>
      cases h <;> cases hkind
  | some text =>
    by_cases hjson : ∀ index, key = .flowActionData index → Json.IsText text
    · rw [fallbackFor?_eq_none hslot hjson] at h
      cases h
    · push Not at hjson
      obtain ⟨index, hkey, hjson⟩ := hjson
      exact ⟨index, text, hkey, rfl, hjson⟩

end Variables

/-- The compact text of a tree of integers is not empty. -/
theorem Json.text_ne_empty {value : Json} (h : value.Integral) : value.text ≠ "" := by
  intro hempty
  obtain ⟨c, cs, hprint, -⟩ := Scan.exists_print_eq_cons h
  have hnil : value.print = [] := by
    rw [← String.toList_ofList (l := value.print)]
    exact congrArg String.toList hempty
  rw [hprint] at hnil
  cases hnil

namespace Template

/-- **Structured flow data arrives.** Let the only variable be the flow data of a flow button, an
array or an object. Then the payload has one component at the place of that button, its flow data
are that array or object, and no flow data are reported as malformed. -/
theorem flowData_arrives (template : Template) {n i : Nat} {bs : List Button} {flow : FlowButton}
    (hbuttons : template.components[n]? = some (.buttons bs)) (hbutton : bs[i]? = some (.flow flow))
    {data : Json} (hdata : data.IsStructured) (hvalue : data.IsValue) (hintegral : data.Integral)
    (hdepth : data.depth ≤ 127) (sender recipient : String) :
    let values := Variables.ofMembers [((SlotKey.flowActionData i).id, data)]
    let compilation := template.compileWithReport sender recipient values
    compilation.payload.template.components = (template.placed values).map Placed.component ∧
    (∀ placed, placed ∈ template.placed values ∧ placed.place = ⟨n, i⟩ ↔
      placed = ⟨⟨n, i⟩, .button i (.flow flow),
        .button .flow i (.action flowTokenFallback (some data))⟩) ∧
    ∀ f ∈ compilation.fallbacks, f.kind ≠ .malformedFlowActionData := by
  intro values compilation
  have hparse : Json.parse data.text = .ok data := by
    rw [Json.parse_text hintegral hdepth, hvalue]
  have hget (key : SlotKey) :
      values.get? key.id = if key = .flowActionData i then some data.text else none := by
    rw [Variables.get?_ofMembers_singleton hdata]
    exact if_congr SlotKey.id_inj rfl rfl
  have hslot : values.slot? (.flowActionData i) = some data.text :=
    Variables.slot?_eq_some_iff.mpr ⟨(hget _).trans (if_pos rfl), Json.text_ne_empty hintegral⟩
  have htoken : values.slot? (.flowToken i) = none :=
    Variables.slot?_eq_none_iff.mpr (.inl ((hget _).trans (if_neg nofun)))
  have hcomponent : (Piece.button i (.flow flow)).component? values
      = some (.button .flow i (.action flowTokenFallback (some data))) := by
    simp only [Piece.component?, Piece.parameters, Button.parameters, FlowButton.data?, hslot,
      htoken, hparse]
    rfl
  have hpiece : (⟨n, i⟩, .button i (.flow flow)) ∈ template.pieces :=
    template.mem_pieces_iff_at.mpr (.button hbuttons hbutton)
  refine ⟨template.components_eq_placed .., fun placed => ?_, ?_⟩
  · rw [placed_eq_filterMap, List.mem_filterMap]
    constructor
    · rintro ⟨⟨⟨place, piece⟩, hmem, hplaced⟩, hplace⟩
      obtain ⟨component, hshown, rfl⟩ := Option.map_eq_some_iff.mp hplaced
      obtain rfl : place = ⟨n, i⟩ := hplace
      obtain rfl := template.eq_of_mem_pieces hmem hpiece
      rw [hcomponent] at hshown
      cases hshown
      rfl
    · rintro rfl
      exact ⟨⟨_, hpiece, by rw [hcomponent]; rfl⟩, rfl⟩
  · intro f hf hkind
    rw [template.fallbacks_eq_sent, List.mem_filterMap] at hf
    obtain ⟨key, -, hfallback⟩ := hf
    obtain ⟨index, text, -, hfilled, hjson⟩ :=
      Variables.exists_slot?_of_malformed hfallback hkind
    -- the only variable that is set is JSON
    obtain ⟨hset, -⟩ := Variables.slot?_eq_some_iff.mp hfilled
    rw [hget] at hset
    split at hset
    · cases hset
      exact hjson ⟨data, hparse⟩
    · cases hset

/-- Flow data that nest, with an escape and the least integer. -/
def ratingData : Json :=
  .obj [("at", .arr [.num (.int (-9223372036854775808)), .null]), ("say", .str "a\"\n")]

/-- These data arrive in the flow of the notice. -/
theorem orderNotice_ratingData :
    ∃ placed ∈ orderNotice.placed (.ofMembers [("button_1_flow_action_data", ratingData)]),
      placed.place = ⟨2, 1⟩ ∧
        placed.component = .button .flow 1 (.action "unused" (some ratingData)) := by
  have hid : (SlotKey.flowActionData 1).id = "button_1_flow_action_data" := by decide
  have hintegral : ratingData.Integral := by
    simp only [ratingData, Json.Integral, Json.IntegralMembers, Json.IntegralItems,
      Number.IsInteger, twoTo]
    decide
  have hstructured : ratingData.IsStructured := trivial
  obtain ⟨-, harrives, -⟩ := orderNotice.flowData_arrives (n := 2) (i := 1) rfl rfl
    hstructured (by decide) hintegral (by decide) "a" "b"
  rw [hid] at harrives
  obtain ⟨hmem, hplace⟩ := (harrives _).mpr rfl
  exact ⟨_, hmem, hplace, rfl⟩

end Template

end Courier
