import Courier.Template.Compile

/-!
# Pieces of a template

Offering slots and compiling both walk through a template in document order. The two walks visit the
same pieces: every body, every header and every button of a row of buttons. `Template.pieces` lists
them once, each with its place, and both results are put together from what the pieces give:

* `Template.slots_eq_pieces`: the slots are those of the pieces, of several with one id the first;
* `Template.components_eq_pieces` and `Template.fallbacks_eq_pieces`: the components and the
  fallbacks of a compilation are those of the pieces, one after the other.
-/

namespace Courier

/-! ## The pieces -/

/-- Where a piece stands: the position of its component, and in a row of buttons the index of the
button; any other component is a single piece with index 0. -/
structure Place where
  component : Nat
  button : Nat
  deriving DecidableEq, Repr

/-- What gives at most one component of a payload. -/
inductive Piece where
  | body (body : Body)
  | header (header : Header)
  | button (index : Nat) (button : Button)
  deriving DecidableEq, Repr

/-- The pieces of a component. -/
def Component.pieces : Component → List Piece
  | .body b => [.body b]
  | .header h => [.header h]
  | .buttons bs => bs.mapIdx .button
  | _ => []

/-- The pieces of a template in document order. -/
def Template.pieces (template : Template) : List (Place × Piece) :=
  (template.components.mapIdx fun position component =>
    component.pieces.mapIdx fun index piece => (⟨position, index⟩, piece)).flatten

/-- The slots of a piece. -/
def Piece.slots : Piece → List Slot
  | .body b => b.slots
  | .header h => h.slots
  | .button index b => b.slots index

/-- The fragment of a piece. -/
def Piece.fragment (values : Variables) : Piece → Fragment
  | .body b => b.fragment values
  | .header h => h.fragment values
  | .button index b => b.fragment values index

/-! ## Numbered items -/

theorem map_mapIdx {α β γ : Type} (f : Nat → α → β) (g : β → γ) (items : List α) :
    (items.mapIdx f).map g = items.mapIdx fun i a => g (f i a) := by
  apply List.ext_getElem?
  intro i
  simp only [List.getElem?_map, List.getElem?_mapIdx, Option.map_map, Function.comp_def]

theorem mapIdx_eq_map {α β : Type} (f : α → β) (items : List α) :
    (items.mapIdx fun _ a => f a) = items.map f := by
  apply List.ext_getElem?
  intro i
  rw [List.getElem?_mapIdx, List.getElem?_map]

/-! ## Components by pieces -/

namespace Component

/-- The slots of a component are those of its pieces. -/
theorem slots_eq_pieces (component : Component) :
    component.slots = component.pieces.flatMap Piece.slots := by
  cases component with
  | body b => exact (List.flatMap_singleton Piece.slots (.body b)).symm
  | header h => exact (List.flatMap_singleton Piece.slots (.header h)).symm
  | buttons bs =>
    rw [slots, pieces, List.flatMap_def, map_mapIdx]
    rfl
  | footer | carousel | limitedTimeOffer | callPermissionRequest | unknown => rfl

/-- The fragment of a component is that of its pieces, one after the other. -/
theorem fragment_eq_pieces (values : Variables) (component : Component) :
    component.fragment values = .join (component.pieces.map (Piece.fragment values)) := by
  cases component with
  | body b | header h => simp [fragment, pieces, Fragment.join, Piece.fragment]
  | buttons bs =>
    rw [fragment, pieces, map_mapIdx]
    rfl
  | footer | carousel | limitedTimeOffer | callPermissionRequest | unknown => rfl

/-- A header among the pieces of a component is the component. -/
theorem eq_header_of_getElem?_pieces {component : Component} {i : Nat} {h : Header}
    (hat : component.pieces[i]? = some (.header h)) : component = .header h := by
  cases component with
  | buttons bs => simp [pieces] at hat
  | body | header => cases i <;> simp_all [pieces]
  | footer | carousel | limitedTimeOffer | callPermissionRequest | unknown => simp [pieces] at hat

/-- A button among the pieces of a component stands in a row of buttons at its index. -/
theorem exists_buttons_of_getElem?_pieces {component : Component} {i index : Nat} {b : Button}
    (h : component.pieces[i]? = some (.button index b)) :
    i = index ∧ ∃ bs, component = .buttons bs ∧ bs[index]? = some b := by
  cases component with
  | buttons bs =>
    rw [pieces, List.getElem?_mapIdx, Option.map_eq_some_iff] at h
    obtain ⟨b', hb, heq⟩ := h
    obtain ⟨rfl, rfl⟩ := Piece.button.inj heq
    exact ⟨rfl, bs, rfl, hb⟩
  | body | header =>
    cases i <;> simp [pieces] at h
  | footer | carousel | limitedTimeOffer | callPermissionRequest | unknown => simp [pieces] at h

end Component

/-! ## Templates by pieces -/

namespace Template

variable (template : Template)

/-- A piece stands where its place says. -/
theorem mem_pieces {place : Place} {piece : Piece} :
    (place, piece) ∈ template.pieces ↔ ∃ component,
      template.components[place.component]? = some component ∧
        component.pieces[place.button]? = some piece := by
  simp only [pieces, List.mem_flatten, List.mem_mapIdx, List.getElem?_eq_some_iff]
  constructor
  · rintro ⟨_, ⟨position, hposition, rfl⟩, hmem⟩
    obtain ⟨index, hindex, heq⟩ := List.mem_mapIdx.mp hmem
    obtain ⟨rfl, rfl⟩ := Prod.mk.inj heq
    exact ⟨_, ⟨hposition, rfl⟩, hindex, rfl⟩
  · rintro ⟨_, ⟨hposition, rfl⟩, hindex, rfl⟩
    exact ⟨_, ⟨place.component, hposition, rfl⟩, List.mem_mapIdx.mpr ⟨place.button, hindex, rfl⟩⟩

/-- There is one piece at a place. -/
theorem eq_of_mem_pieces {place : Place} {a b : Piece} (ha : (place, a) ∈ template.pieces)
    (hb : (place, b) ∈ template.pieces) : a = b := by
  obtain ⟨component, hcomponent, ha⟩ := template.mem_pieces.mp ha
  obtain ⟨component', hcomponent', hb⟩ := template.mem_pieces.mp hb
  rw [hcomponent] at hcomponent'
  cases hcomponent'
  rw [ha] at hb
  exact Option.some.inj hb

/-- Without their places the pieces of a template are those of its components. -/
theorem map_snd_pieces :
    template.pieces.map Prod.snd = template.components.flatMap Component.pieces := by
  rw [pieces, List.map_flatten, map_mapIdx, List.flatMap_def, ← mapIdx_eq_map]
  congr 2
  funext position component
  rw [map_mapIdx, mapIdx_eq_map, List.map_id']

/-- What the pieces of a template give, one after the other, is what its components give. -/
theorem flatMap_pieces {α : Type} (f : Piece → List α) {g : Component → List α}
    (h : ∀ component, g component = component.pieces.flatMap f) :
    template.components.flatMap g = template.pieces.flatMap fun piece => f piece.2 := by
  rw [← List.flatMap_map Prod.snd f, map_snd_pieces, List.flatMap_assoc]
  exact congrArg (List.flatMap · template.components) (funext h)

/-- The slots of a template are those of its pieces, of several with one id the first. -/
theorem slots_eq_pieces :
    template.slots = distinctBy Slot.id (template.pieces.flatMap fun piece => piece.2.slots) := by
  rw [slots, template.flatMap_pieces _ Component.slots_eq_pieces]

variable (values : Variables)

/-- The fragment of a template is that of its pieces, one after the other. -/
theorem fragment_eq_pieces :
    template.fragment values
      = .join (template.pieces.map fun piece => piece.2.fragment values) := by
  have hcomponent (component : Component) := component.fragment_eq_pieces values
  apply Fragment.ext
  · rw [fragment, Fragment.components_join, Fragment.components_join, List.flatMap_map,
      List.flatMap_map]
    exact template.flatMap_pieces (fun piece => (piece.fragment values).components)
      fun component => by rw [hcomponent, Fragment.components_join, List.flatMap_map]
  · rw [fragment, Fragment.fallbacks_join, Fragment.fallbacks_join, List.flatMap_map,
      List.flatMap_map]
    exact template.flatMap_pieces (fun piece => (piece.fragment values).fallbacks)
      fun component => by rw [hcomponent, Fragment.fallbacks_join, List.flatMap_map]

variable (sender recipient : String)

/-- The components of a payload are those of the pieces. -/
theorem components_eq_pieces :
    (template.compileWithReport sender recipient values).payload.template.components
      = template.pieces.flatMap fun piece => (piece.2.fragment values).components := by
  show (template.fragment values).components = _
  rw [fragment_eq_pieces, Fragment.components_join, List.flatMap_map]

/-- The fallbacks of a compilation are those of the pieces. -/
theorem fallbacks_eq_pieces :
    (template.compileWithReport sender recipient values).fallbacks
      = template.pieces.flatMap fun piece => (piece.2.fragment values).fallbacks := by
  show (template.fragment values).fallbacks = _
  rw [fragment_eq_pieces, Fragment.fallbacks_join, List.flatMap_map]

/-! ## An example -/

/-- A notice with an image, a text with a named and a numbered placeholder, a button that opens a
page and one that starts a flow. -/
def orderNotice : Template :=
  { (default : Template) with
    name := "order_notice"
    components := [
      .header (.media .image none),
      .body ⟨some "Hi \x7b\x7bname\x7d\x7d, order \x7b\x7b1\x7d\x7d is ready.", none, none⟩,
      .buttons [
        .url ⟨"Open", "https://shop/\x7b\x7b1\x7d\x7d", []⟩,
        .flow ⟨"Rate", none, some "rate", none⟩]] }

example : orderNotice.slots.map Slot.id =
    ["header_media_url", "body_param_name", "body_param_1", "button_0_param_1",
      "button_1_flow_token", "button_1_flow_action_data"] := by decide

end Template

end Courier
