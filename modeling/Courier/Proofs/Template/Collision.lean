import Courier.Proofs.Template.Keys
import Courier.Proofs.Template.Order
import Mathlib.Data.List.Nodup
import Mathlib.Data.List.Pairwise

/-!
# Buttons that collide

The slots and the components of a button carry its index, so within a row of buttons none of them
belong to two buttons. The index counts from the start of the row, though, and a template can have
several rows: buttons at the same index of two rows have the same index in the payload, and they
share the ids of their slots if they are both flows or have a placeholder in common. There are no
other collisions (`Template.buttons_collide_iff`).
-/

namespace Courier

/-! ## Ids that two buttons share -/

namespace Button

/-- Whether two buttons offer something of the same kind and name: the slots of a flow, or a
placeholder. -/
def Overlaps (b c : Button) : Prop :=
  (∃ flow flow', b = .flow flow ∧ c = .flow flow') ∨
    ∃ p ∈ Placeholder.all b.slotText, p ∈ Placeholder.all c.slotText

variable {i j : Nat} {b c : Button} {key : SlotKey}

/-- Only flow buttons have the keys of a flow, and these have the index of the button. -/
theorem mem_flowKeys :
    key ∈ b.flowKeys i ↔
      (∃ flow, b = .flow flow) ∧ (key = .flowToken i ∨ key = .flowActionData i) := by
  cases b with
  | flow flow => simp [flowKeys]
  | url | phoneNumber | label | copyCode | otp | unknown => simp [flowKeys]

/-- A key that a button offers is that of a placeholder or that of a flow, at the index of the
button. -/
theorem mem_offered :
    key ∈ b.offered i ↔ (∃ p ∈ Placeholder.all b.slotText, key = .buttonParam i p.name) ∨
      (∃ flow, b = .flow flow) ∧ (key = .flowToken i ∨ key = .flowActionData i) := by
  rw [offered, List.mem_append, List.mem_map, mem_flowKeys]
  simp only [eq_comm]

/-- Two buttons offer a common key exactly if they overlap and have the same index. -/
theorem exists_common_offered_iff :
    (∃ key ∈ b.offered i, key ∈ c.offered j) ↔ i = j ∧ b.Overlaps c := by
  simp only [mem_offered]
  constructor
  · rintro ⟨key, ⟨p, hp, rfl⟩ | ⟨⟨flow, rfl⟩, rfl | rfl⟩,
      ⟨q, hq, hkey⟩ | ⟨⟨flow', rfl⟩, hkey | hkey⟩⟩
    all_goals try cases hkey
    · -- the keys of two placeholders are equal only if index and name are
      obtain ⟨hindex, hname⟩ := SlotKey.buttonParam.inj hkey
      obtain rfl : p = q := congrArg Placeholder.mk hname
      exact ⟨hindex, .inr ⟨p, hp, hq⟩⟩
    all_goals exact ⟨rfl, .inl ⟨flow, flow', rfl, rfl⟩⟩
  · rintro ⟨rfl, ⟨flow, flow', rfl, rfl⟩ | ⟨p, hp, hq⟩⟩
    · exact ⟨.flowToken i, .inr ⟨⟨flow, rfl⟩, .inl rfl⟩, .inr ⟨⟨flow', rfl⟩, .inl rfl⟩⟩
    · exact ⟨.buttonParam i p.name, .inl ⟨p, hp, rfl⟩, .inl ⟨p, hq, rfl⟩⟩

/-- The ids of the slots of a button are those of the keys it offers. -/
theorem map_id_slots : (b.slots i).map Slot.id = (b.offered i).map SlotKey.id :=
  (Piece.button i b).map_id_slots

/-- Two buttons have a slot id in common exactly if they overlap and have the same index. -/
theorem exists_common_id_iff :
    (∃ id ∈ (b.slots i).map Slot.id, id ∈ (c.slots j).map Slot.id) ↔ i = j ∧ b.Overlaps c := by
  rw [map_id_slots, map_id_slots, ← exists_common_offered_iff]
  constructor
  · rintro ⟨_, hb, hc⟩
    obtain ⟨key, hkey, rfl⟩ := List.mem_map.mp hb
    obtain ⟨key', hkey', hid⟩ := List.mem_map.mp hc
    obtain rfl := SlotKey.id_inj.mp hid
    exact ⟨_, hkey, hkey'⟩
  · rintro ⟨key, hb, hc⟩
    exact ⟨key.id, List.mem_map_of_mem hb, List.mem_map_of_mem hc⟩

end Button

/-- Different places with the same index are in different rows. -/
theorem Place.component_ne_of_button_eq {p q : Place} (hne : p ≠ q) (hindex : p.button = q.button) :
    p.component ≠ q.component := by
  intro hcomponent
  cases p
  cases q
  simp_all

/-! ## Indices in a payload -/

/-- The index in the component of a piece, if it has a component with an index. -/
def Piece.index? (values : Variables) (piece : Piece) : Option Nat :=
  (piece.component? values).bind CompiledComponent.index

/-- A piece has an index in the payload exactly if it is a button that emits a component. -/
theorem Piece.index?_eq_some_iff {values : Variables} {piece : Piece} {i : Nat} :
    piece.index? values = some i ↔ piece.Emits values ∧ ∃ b, piece = .button i b := by
  rw [index?, ← parameters_ne_nil_iff, component?]
  split
  · rename_i hnil
    simp [hnil]
  · rename_i hne
    cases piece <;> simp_all [heading]

namespace Template

variable (template : Template)

/-- The indices of the compiled buttons, in order. -/
def compiledIndices (sender recipient : String) (values : Variables) : List Nat :=
  (template.compileWithReport sender recipient values).payload.template.components.filterMap
    CompiledComponent.index

/-- No piece stands twice in a template. -/
theorem nodup_pieces : template.pieces.Nodup := by
  refine template.pairwise_pieces.imp fun {a b} hbefore hab => ?_
  rcases hbefore with hlt | ⟨-, hlt⟩ <;> simp [hab] at hlt

/-- The indices of the compiled buttons are distinct exactly if no two pieces have the same one. -/
theorem nodup_compiledIndices_iff (sender recipient : String) (values : Variables) :
    (template.compiledIndices sender recipient values).Nodup ↔
      ∀ x ∈ template.pieces, ∀ y ∈ template.pieces, x ≠ y →
        ∀ i, x.2.index? values = some i → ∀ j, y.2.index? values = some j → i ≠ j := by
  -- differing is symmetric, so it holds in both orders of two pieces
  have hsymm : Std.Symm fun x y : Place × Piece =>
      ∀ i, x.2.index? values = some i → ∀ j, y.2.index? values = some j → i ≠ j :=
    ⟨fun x y h i hi j hj hij => h j hj i hi hij.symm⟩
  have hindices : template.compiledIndices sender recipient values
      = template.pieces.filterMap fun piece => piece.2.index? values := by
    rw [compiledIndices, components_eq_filterMap, List.filterMap_filterMap]
    rfl
  rw [hindices, List.Nodup, List.pairwise_filterMap]
  constructor
  · intro hpairwise x hx y hy hne
    exact hpairwise.forall hx hy hne
  · intro hdistinct
    exact template.nodup_pieces.pairwise_of_forall_ne hdistinct

/-! ## Buttons in rows -/

/-- Whether a button stands at a place. -/
def ButtonAt (place : Place) (b : Button) : Prop :=
  ∃ bs, template.components[place.component]? = some (.buttons bs) ∧
    bs[place.button]? = some b

/-- Whether a template has one row of buttons at most. -/
def OneRow : Prop :=
  ∀ (m n : Nat) (bs cs : List Button), template.components[m]? = some (.buttons bs) →
    template.components[n]? = some (.buttons cs) → m = n

variable {template} {p q : Place} {i : Nat} {b c : Button}

/-- The pieces that are buttons are the buttons of the rows, with the indices of their places. -/
theorem mem_pieces_button_iff :
    (p, .button i b) ∈ template.pieces ↔ i = p.button ∧ template.ButtonAt p b := by
  rw [mem_pieces]
  constructor
  · rintro ⟨component, hcomponent, hat⟩
    obtain ⟨hindex, bs, rfl, hb⟩ := Component.exists_buttons_of_getElem?_pieces hat
    exact ⟨hindex.symm, bs, hcomponent, hindex ▸ hb⟩
  · rintro ⟨rfl, bs, hbs, hb⟩
    exact ⟨_, hbs, by simp [Component.pieces, hb]⟩

/-- In a template with one row of buttons, different buttons have different indices. -/
theorem OneRow.button_ne (h : template.OneRow) (hp : template.ButtonAt p b)
    (hq : template.ButtonAt q c) (hne : p ≠ q) : p.button ≠ q.button := by
  intro hindex
  obtain ⟨bs, hbs, -⟩ := hp
  obtain ⟨cs, hcs, -⟩ := hq
  exact Place.component_ne_of_button_eq hne hindex (h _ _ bs cs hbs hcs)

variable (template) in
/-- The indices of the compiled buttons are distinct exactly if no two buttons with components
stand at the same index. -/
theorem nodup_compiledIndices_iff_buttonAt (sender recipient : String) (values : Variables) :
    (template.compiledIndices sender recipient values).Nodup ↔
      ∀ p q b c, template.ButtonAt p b → template.ButtonAt q c → p ≠ q →
        (Piece.button p.button b).Emits values → (Piece.button q.button c).Emits values →
          p.button ≠ q.button := by
  rw [nodup_compiledIndices_iff]
  constructor
  · intro hdistinct p q b c hp hq hne hb hc
    have hx : (p, .button p.button b) ∈ template.pieces := mem_pieces_button_iff.mpr ⟨rfl, hp⟩
    have hy : (q, .button q.button c) ∈ template.pieces := mem_pieces_button_iff.mpr ⟨rfl, hq⟩
    refine hdistinct _ hx _ hy (fun hxy => hne (Prod.mk.inj hxy).1) _ ?_ _ ?_
    · exact Piece.index?_eq_some_iff.mpr ⟨hb, b, rfl⟩
    · exact Piece.index?_eq_some_iff.mpr ⟨hc, c, rfl⟩
  · rintro hdistinct ⟨p, x⟩ hx ⟨q, y⟩ hy hne i hi j hj
    obtain ⟨hb, b, rfl⟩ := Piece.index?_eq_some_iff.mp hi
    obtain ⟨hc, c, rfl⟩ := Piece.index?_eq_some_iff.mp hj
    obtain ⟨rfl, hp⟩ := mem_pieces_button_iff.mp hx
    obtain ⟨rfl, hq⟩ := mem_pieces_button_iff.mp hy
    refine hdistinct p q b c hp hq ?_ hb hc
    -- at one place there is one piece only
    rintro rfl
    exact hne (congrArg (p, ·) (template.eq_of_mem_pieces hx hy))

/-! ## Collisions -/

/-- **When buttons collide.** Two buttons have a slot id in common exactly if they stand at the same
index of different rows and overlap. The indices of the compiled buttons are distinct exactly if no
two buttons with components stand at the same index. So in a template with one row of buttons no
buttons collide. -/
theorem buttons_collide_iff (template : Template) :
    (∀ p q b c, template.ButtonAt p b → template.ButtonAt q c → p ≠ q →
      ((∃ id ∈ (b.slots p.button).map Slot.id, id ∈ (c.slots q.button).map Slot.id) ↔
        p.component ≠ q.component ∧ p.button = q.button ∧ b.Overlaps c)) ∧
    (∀ sender recipient values,
      (template.compiledIndices sender recipient values).Nodup ↔
        ∀ p q b c, template.ButtonAt p b → template.ButtonAt q c → p ≠ q →
          (Piece.button p.button b).Emits values → (Piece.button q.button c).Emits values →
            p.button ≠ q.button) ∧
    (template.OneRow →
      (∀ p q b c, template.ButtonAt p b → template.ButtonAt q c → p ≠ q →
        ∀ id ∈ (b.slots p.button).map Slot.id, id ∉ (c.slots q.button).map Slot.id) ∧
      ∀ sender recipient values, (template.compiledIndices sender recipient values).Nodup) := by
  refine ⟨fun p q b c _ _ hne => ?_, template.nodup_compiledIndices_iff_buttonAt, fun hrow => ?_⟩
  · rw [Button.exists_common_id_iff]
    constructor
    · rintro ⟨hindex, hoverlaps⟩
      exact ⟨Place.component_ne_of_button_eq hne hindex, hindex, hoverlaps⟩
    · rintro ⟨-, hindex, hoverlaps⟩
      exact ⟨hindex, hoverlaps⟩
  · constructor
    · intro p q b c hp hq hne id hb hc
      have hindex := (Button.exists_common_id_iff.mp ⟨id, hb, hc⟩).1
      exact hrow.button_ne hp hq hne hindex
    · intro sender recipient values
      rw [nodup_compiledIndices_iff_buttonAt]
      intro p q b c hp hq hne _ _
      exact hrow.button_ne hp hq hne

/-- The two buttons of the notice do not collide. -/
theorem orderNotice_buttons_apart :
    orderNotice.OneRow ∧
      (∀ id ∈ ((Button.url ⟨"Open", "https://shop/{{1}}", []⟩).slots 0).map Slot.id,
        id ∉ ((Button.flow ⟨"Rate", none, some "rate", none⟩).slots 1).map Slot.id) ∧
      ∀ values, (orderNotice.compiledIndices "a" "b" values).Nodup := by
  have hrow : orderNotice.OneRow := by
    have hlast {n : Nat} {bs : List Button}
        (h : orderNotice.components[n]? = some (.buttons bs)) : n = 2 := by
      match n with
      | 0 | 1 => simp [orderNotice] at h
      | 2 => rfl
      | n + 3 => simp [orderNotice] at h
    intro m n bs cs hm hn
    rw [hlast hm, hlast hn]
  obtain ⟨-, -, happart⟩ := orderNotice.buttons_collide_iff
  obtain ⟨hids, hindices⟩ := happart hrow
  refine ⟨hrow, hids ⟨2, 0⟩ ⟨2, 1⟩ _ _ ⟨_, rfl, rfl⟩ ⟨_, rfl, rfl⟩ (by decide), ?_⟩
  exact fun values => hindices "a" "b" values

/-- A notice with two rows of one page button each. -/
def twoRowNotice : Template :=
  { (default : Template) with
    components := [
      .buttons [.url ⟨"Shop", "https://shop/{{1}}", []⟩],
      .buttons [.url ⟨"Help", "https://help/{{1}}", []⟩]] }

/-- The buttons of the two rows share their only slot and their index, and the text for the slot is
sent for both of them. -/
theorem twoRowNotice_collide :
    let shop : Button := .url ⟨"Shop", "https://shop/{{1}}", []⟩
    let help : Button := .url ⟨"Help", "https://help/{{1}}", []⟩
    twoRowNotice.ButtonAt ⟨0, 0⟩ shop ∧ twoRowNotice.ButtonAt ⟨1, 0⟩ help ∧
      (shop.slots 0).map Slot.id = ["button_0_param_1"] ∧
      (help.slots 0).map Slot.id = ["button_0_param_1"] ∧
      twoRowNotice.slots.map Slot.id = ["button_0_param_1"] ∧
      (∀ sender recipient values,
        twoRowNotice.compiledIndices sender recipient values = [0, 0]) ∧
      (twoRowNotice.compileWithReport "a" "b"
          ⟨[("button_0_param_1", "V")]⟩).payload.template.components
        = [.button .url 0 (.text "V" none), .button .url 0 (.text "V" none)] := by
  refine ⟨⟨_, rfl, rfl⟩, ⟨_, rfl, rfl⟩, ?_⟩
  exact ⟨by decide, by decide, by decide, fun _ _ _ => rfl, by decide⟩

end Template

end Courier
