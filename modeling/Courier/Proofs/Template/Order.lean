import Courier.Proofs.Template.Entry
import Courier.Proofs.Template.Occurrence
import Mathlib.Data.List.Forall2

/-!
# The order of a payload

A compiled component belongs to a place of the template: to a body, to a header, or to a button at
an index of its row. The places of the components of a payload ascend in document order, so a
component that is left out does not move the others, and the index of a button is that of the
template. Which places have a component is said by `Piece.Emits` from the texts of the template and
the variable of the header media alone.
-/

namespace Courier

/-! ## Places -/

/-- Document order: by component, in a row of buttons by index. -/
def Place.Before (a b : Place) : Prop :=
  a.component < b.component ∨ a.component = b.component ∧ a.button < b.button

/-- What stands at a place of a template. -/
inductive Template.At (template : Template) : Place → Piece → Prop where
  | body {n : Nat} {b : Body} (hbody : template.components[n]? = some (.body b)) :
      At template ⟨n, 0⟩ (.body b)
  | header {n : Nat} {h : Header} (hheader : template.components[n]? = some (.header h)) :
      At template ⟨n, 0⟩ (.header h)
  | button {n i : Nat} {bs : List Button} {b : Button}
      (hbuttons : template.components[n]? = some (.buttons bs)) (hbutton : bs[i]? = some b) :
      At template ⟨n, i⟩ (.button i b)

/-- Numbered items are ordered as soon as their numbers order them. -/
theorem pairwise_mapIdx {α β : Type} {R : β → β → Prop} {f : Nat → α → β} (items : List α)
    (h : ∀ i j a b, i < j → R (f i a) (f j b)) : (items.mapIdx f).Pairwise R := by
  rw [List.pairwise_iff_getElem]
  intro i j hi hj hij
  rw [List.getElem_mapIdx, List.getElem_mapIdx]
  exact h i j _ _ hij

namespace Template

variable (template : Template)

/-- The pieces of a template are what stands at its places. -/
theorem mem_pieces_iff_at {place : Place} {piece : Piece} :
    (place, piece) ∈ template.pieces ↔ template.At place piece := by
  rw [mem_pieces]
  constructor
  · rintro ⟨component, hcomponent, hpiece⟩
    obtain ⟨n, i⟩ := place
    -- a body and a header are one piece, with number 0; buttons are numbered
    cases component with
    | body | header =>
      rw [Component.pieces, List.getElem?_singleton] at hpiece
      split at hpiece
      · rename_i hi
        cases hpiece
        obtain rfl : i = 0 := hi
        constructor
        exact hcomponent
      · cases hpiece
    | buttons bs =>
      rw [Component.pieces, List.getElem?_mapIdx, Option.map_eq_some_iff] at hpiece
      obtain ⟨b, hb, rfl⟩ := hpiece
      exact .button hcomponent hb
    | footer | carousel | limitedTimeOffer | callPermissionRequest | unknown => cases hpiece
  · rintro (hbody | hheader | ⟨hbuttons, hbutton⟩)
    · exact ⟨_, hbody, rfl⟩
    · exact ⟨_, hheader, rfl⟩
    · exact ⟨_, hbuttons, by simp [Component.pieces, hbutton]⟩

/-- The pieces of a template are listed in document order. -/
theorem pairwise_pieces : template.pieces.Pairwise fun a b => a.1.Before b.1 := by
  rw [pieces, List.pairwise_flatten]
  constructor
  · intro l hl
    obtain ⟨n, hn, rfl⟩ := List.mem_mapIdx.mp hl
    exact pairwise_mapIdx _ fun i j _ _ hij => Or.inr ⟨rfl, hij⟩
  · -- pieces of different components are ordered by the positions of the components alone
    refine pairwise_mapIdx _ fun m n a b hmn => ?_
    intro x hx y hy
    obtain ⟨i, hi, rfl⟩ := List.mem_mapIdx.mp hx
    obtain ⟨j, hj, rfl⟩ := List.mem_mapIdx.mp hy
    exact Or.inl hmn

/-- Every piece with a component is placed once, in document order. -/
theorem placed_eq_filterMap (values : Variables) :
    template.placed values = template.pieces.filterMap fun piece =>
      (piece.2.component? values).map (⟨piece.1, piece.2, ·⟩) := by
  rw [placed, List.filterMap_eq_flatMap_toList]
  refine List.flatMap_congr fun piece _ => ?_
  rw [Piece.components_fragment, Option.toList_map]

/-- The places of the components ascend in document order. -/
theorem pairwise_placed (values : Variables) :
    ((template.placed values).map Placed.place).Pairwise Place.Before := by
  rw [placed_eq_filterMap, List.pairwise_map, List.pairwise_filterMap]
  refine template.pairwise_pieces.imp fun {a b} hab => ?_
  intro x hx y hy
  obtain ⟨c, -, rfl⟩ := Option.map_eq_some_iff.mp hx
  obtain ⟨d, -, rfl⟩ := Option.map_eq_some_iff.mp hy
  exact hab

end Template

/-! ## Components -/

namespace Piece

/-- Whether a piece has a component in the payload. -/
def Emits (values : Variables) : Piece → Prop
  | .body b => Placeholder.Occurs (b.text.getD "")
  | .header (.text h) => Placeholder.Occurs h.text
  | .header (.media _ _) => ∃ link, values.get? "header_media_url" = some link ∧ link ≠ ""
  | .header .location | .header .product | .header .unknown => False
  | .button _ (.url b) => Placeholder.Occurs b.url
  | .button _ (.copyCode b) => Placeholder.Occurs (firstNonEmpty [b.text, b.url])
  | .button _ (.flow _) => True
  | .button _ (.phoneNumber _) | .button _ (.label _ _) | .button _ (.otp _)
  | .button _ .unknown => False

variable {values : Variables} {piece : Piece}

/-- A button has a parameter exactly if it has a first placeholder. -/
theorem map_toList_ne_nil_iff {α : Type} {f : Placeholder → α} {text : String} :
    (Placeholder.first? text).toList.map f ≠ [] ↔ Placeholder.Occurs text := by
  rw [← Placeholder.first?_isSome_iff]
  cases Placeholder.first? text <;> simp

/-- A piece has parameters exactly if it emits a component. -/
theorem parameters_ne_nil_iff : piece.parameters values ≠ [] ↔ piece.Emits values := by
  cases piece with
  | body b => rw [parameters, ne_eq, List.map_eq_nil_iff, Emits, ← Placeholder.all_ne_nil_iff]
  | header header =>
    cases header with
    | text h => rw [parameters, ne_eq, List.map_eq_nil_iff, Emits, ← Placeholder.all_ne_nil_iff]
    | media format samples =>
      have hfilled : (∃ link, values.slot? .headerMedia = some link)
          ↔ Emits values (.header (.media format samples)) :=
        exists_congr fun _ => Variables.slot?_eq_some_iff
      rw [← hfilled, parameters]
      cases values.slot? .headerMedia <;> simp
    | location | product | unknown => simp [parameters, Emits]
  | button index b =>
    cases b with
    | url b => exact map_toList_ne_nil_iff
    | copyCode b => exact map_toList_ne_nil_iff
    | flow b => simp [parameters, Button.parameters, Emits]
    | phoneNumber | label | otp | unknown => exact iff_of_false (fun h => h rfl) id

/-- A piece has a component exactly if it emits one. -/
theorem isSome_component?_iff : (piece.component? values).isSome ↔ piece.Emits values := by
  rw [← parameters_ne_nil_iff, component?]
  split <;> simp_all

/-- A button has one parameter at most. -/
theorem length_parameters_button_le (index : Nat) (b : Button) :
    ((Piece.button index b).parameters values).length ≤ 1 := by
  have htext (f : Placeholder → Parameter) (text : String) :
      ((Placeholder.first? text).toList.map f).length ≤ 1 := by
    rw [List.length_map]
    cases Placeholder.first? text <;> simp
  cases b with
  | flow b => exact Nat.le_refl 1
  | url | copyCode | phoneNumber | label | otp | unknown => exact htext _ _

/-- A button with parameters has a kind in the payload. -/
theorem isSome_compiledKind? {index : Nat} {b : Button}
    (h : (Piece.button index b).parameters values ≠ []) : b.compiledKind?.isSome := by
  cases b with
  | url | copyCode | flow => rfl
  | phoneNumber | label | otp | unknown => exact absurd rfl h

end Piece

/-- Whether a component says of itself what a piece asks for. Bodies and headers have neither kind
nor index; buttons have both, and one parameter. -/
def CompiledComponent.Fits (component : CompiledComponent) : Piece → Prop
  | .body _ =>
    component.kind = .body ∧ component.buttonKind = none ∧ component.index = none
  | .header _ =>
    component.kind = .header ∧ component.buttonKind = none ∧ component.index = none
  | .button i b =>
    component.kind = .button ∧ component.index = some i ∧
      (∃ kind, b.compiledKind? = some kind ∧ component.buttonKind = some kind) ∧
      component.parameters.length = 1

namespace Piece

variable {values : Variables} {piece : Piece}

/-- A component fits its piece. -/
theorem fits_of_mem_fragment {component : CompiledComponent}
    (h : component ∈ (piece.fragment values).components) : component.Fits piece := by
  obtain ⟨hheading, hparameters, hne⟩ := eq_of_mem_fragment h
  cases piece with
  | body | header =>
    cases component
    cases hheading
    exact ⟨rfl, rfl, rfl⟩
  | button i b =>
    have hle : component.parameters.length ≤ 1 := by
      rw [hparameters]
      exact length_parameters_button_le i b
    have hlength : component.parameters.length = 1 :=
      Nat.le_antisymm hle (List.length_pos_iff.mpr hne)
    obtain ⟨kind, hkind⟩ := Option.isSome_iff_exists.mp (isSome_compiledKind? (hparameters ▸ hne))
    cases component
    cases hheading
    exact ⟨rfl, rfl, ⟨kind, hkind, hkind⟩, hlength⟩

end Piece

/-! ## Payloads -/

/-- **The components of a payload are in document order.** There is one place for each of them, the
places ascend, and each component has parameters and fits what stands at its place. The places are
those at which something stands that emits a component. -/
theorem Template.components_in_order (template : Template) (sender recipient : String)
    (values : Variables) :
    ∃ places : List Place,
      places.Pairwise Place.Before ∧
      List.Forall₂ (fun component place =>
          ∃ piece, template.At place piece ∧ component.Fits piece ∧ component.parameters ≠ [])
        (template.compileWithReport sender recipient values).payload.template.components places ∧
      ∀ place piece, template.At place piece → (place ∈ places ↔ piece.Emits values) := by
  refine ⟨(template.placed values).map Placed.place, template.pairwise_placed values, ?_, ?_⟩
  · rw [template.components_eq_placed, List.forall₂_map_left_iff, List.forall₂_map_right_iff,
      List.forall₂_same]
    intro placed hplaced
    obtain ⟨⟨place, piece⟩, hpiece, hmem⟩ := List.mem_flatMap.mp hplaced
    obtain ⟨component, hcomponent, rfl⟩ := List.mem_map.mp hmem
    exact ⟨piece, template.mem_pieces_iff_at.mp hpiece, Piece.fits_of_mem_fragment hcomponent,
      (Piece.eq_of_mem_fragment hcomponent).2.2⟩
  · -- a place belongs to one piece, so what stands at a place decides whether it emits
    intro place piece hat
    have hpiece := template.mem_pieces_iff_at.mpr hat
    rw [← Piece.isSome_component?_iff, placed_eq_filterMap, List.map_filterMap, List.mem_filterMap]
    constructor
    · rintro ⟨⟨place', piece'⟩, hpiece', hplace⟩
      rw [Option.map_map, Option.map_eq_some_iff] at hplace
      obtain ⟨component, hcomponent, rfl⟩ := hplace
      rw [template.eq_of_mem_pieces hpiece hpiece', hcomponent]
      rfl
    · intro hsome
      obtain ⟨component, hcomponent⟩ := Option.isSome_iff_exists.mp hsome
      exact ⟨(place, piece), hpiece, by simp [hcomponent]⟩

end Courier
