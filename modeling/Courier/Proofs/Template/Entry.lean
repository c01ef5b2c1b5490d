import Courier.Proofs.Template.Keys

/-!
# Values in a payload

Each compiled component comes from a piece of the template, and the values in it stand in the order
of the keys that are sent for that piece. An `Entry` is a value together with its key and with the
place and the heading of its component. `Template.entries` takes every value of the payload
(`map_cell_entries`), and the value for a key is given by `Piece.cell?`, from the variable with the
id of that key and no other (`entries_eq_pieces`).
-/

namespace Courier

/-! ## Values -/

/-- A value in a payload. -/
inductive Cell where
  | text (text : String) (parameterName : Option String)
  | media (format : MediaFormat) (link : String)
  | flowToken (token : String)
  | flowActionData (data : Option Json)
  deriving DecidableEq, Repr

namespace Cell

/-- Whether a value is what a text stands for: the text itself, or for flow data its JSON value. -/
def Holds (text : String) : Cell → Prop
  | .text value _ => value = text
  | .media _ link => link = text
  | .flowToken token => token = text
  | .flowActionData data => ∃ value, Json.parse text = .ok value ∧ data = some value

end Cell

/-- The values of a parameter. -/
def Parameter.cells : Parameter → List Cell
  | .text value parameterName => [.text value parameterName]
  | .media format link => [.media format link]
  | .action token data => [.flowToken token, .flowActionData data]

/-- Every parameter has a value. -/
theorem Parameter.cells_ne_nil (p : Parameter) : p.cells ≠ [] := by
  cases p <;> exact List.cons_ne_nil _ _

/-- The values of a compiled component. -/
def CompiledComponent.cells (component : CompiledComponent) : List Cell :=
  component.parameters.flatMap Parameter.cells

/-! ## Values by key -/

namespace Piece

/-- The media of a piece. -/
def mediaFormat? : Piece → Option MediaFormat
  | .header h => h.mediaFormat?
  | _ => none

/-- The flow of a piece. -/
def flow? : Piece → Option FlowButton
  | .button _ (.flow b) => some b
  | _ => none

/-- The value for a key that is sent for a piece. Media are left out if their slot is not filled. -/
def cell? (values : Variables) (piece : Piece) (key : SlotKey) : Option Cell :=
  let value? := values.slot? key
  let text (p : Placeholder) (fallback : String) : Cell :=
    .text (value?.getD fallback) p.parameterName?
  match key with
  | .body name | .header name => some (text ⟨name⟩ (Placeholder.raw ⟨name⟩))
  | .headerMedia => piece.mediaFormat?.bind fun format => value?.map (.media format)
  | .buttonParam _ name => some (text ⟨name⟩ buttonParameterFallback)
  | .flowToken _ => some (.flowToken (value?.getD flowTokenFallback))
  | .flowActionData index => piece.flow?.map fun flow => .flowActionData (flow.data? values index)

variable (values : Variables) (piece : Piece)

section Texts

variable {α : Type} (items : List α) (key : α → SlotKey) (value : α → String)
  (name : α → Option String)

/-- The values of parameters that are texts are these texts. -/
theorem cells_texts :
    (items.map fun a => Parameter.text (value a) (name a)).flatMap Parameter.cells
      = items.map fun a => .text (value a) (name a) := by
  rw [List.flatMap_map, List.map_eq_flatMap]
  rfl

variable {items key value name} in
/-- The values of texts belong to the keys of the texts, if they are the values for these keys. -/
theorem zip_cells_texts
    (h : ∀ a ∈ items, piece.cell? values (key a) = some (.text (value a) (name a))) :
    (items.map key).zip
        ((items.map fun a => Parameter.text (value a) (name a)).flatMap Parameter.cells)
      = (items.map key).filterMap fun key => (piece.cell? values key).map (key, ·) := by
  have hcell (a : α) (ha : a ∈ items) :
      (piece.cell? values (key a)).map (key a, ·) = some (key a, .text (value a) (name a)) := by
    rw [h a ha]
    rfl
  calc
    _ = items.map fun a => (key a, Cell.text (value a) (name a)) := by
      rw [cells_texts, List.zip_map']
    _ = items.filterMap fun a => (piece.cell? values (key a)).map (key a, ·) := by
      rw [List.filterMap_congr hcell]
      exact (congrFun List.filterMap_eq_map' items).symm
    _ = _ := by rw [List.filterMap_map]; rfl

/-- As many values as keys of texts. -/
theorem length_cells_texts :
    ((items.map fun a => Parameter.text (value a) (name a)).flatMap Parameter.cells).length
      = (items.map key).length := by
  rw [cells_texts, List.length_map, List.length_map]

end Texts

/-- The values of a piece belong to the keys that are sent for it, in order. -/
theorem zip_cells :
    piece.sent.zip ((piece.parameters values).flatMap Parameter.cells)
      = piece.sent.filterMap fun key => (piece.cell? values key).map (key, ·) := by
  cases piece with
  | body b => exact zip_cells_texts _ _ fun p hp => rfl
  | header header =>
    cases header with
    | text header => exact zip_cells_texts _ _ fun p hp => rfl
    | media format samples =>
      cases h : values.slot? .headerMedia <;>
        simp [sent, parameters, cell?, mediaFormat?, Header.mediaFormat?, h, Parameter.cells]
    | location | product | unknown => rfl
  | button index b =>
    cases b with
    | url b | copyCode b =>
      simp only [sent, Button.sent, Button.flowKeys, List.append_nil]
      exact zip_cells_texts _ _ fun p hp => rfl
    | flow | phoneNumber | label | otp | unknown => rfl

variable {values piece} in
/-- A component has a value for every key that is sent for its piece. -/
theorem length_cells (h : piece.parameters values ≠ []) :
    ((piece.parameters values).flatMap Parameter.cells).length = piece.sent.length := by
  cases piece with
  | body b => exact length_cells_texts ..
  | header header =>
    cases header with
    | text header => exact length_cells_texts ..
    | media format samples =>
      cases hmedia : values.slot? .headerMedia with
      | none => simp [parameters, hmedia] at h
      | some link => simp [sent, parameters, hmedia, Parameter.cells]
    | location | product | unknown => rfl
  | button index b =>
    cases b with
    | url b | copyCode b =>
      simp only [sent, Button.sent, Button.flowKeys, List.append_nil]
      exact length_cells_texts ..
    | flow | phoneNumber | label | otp | unknown => rfl

variable {values piece} in
/-- The value for a key depends on its variable alone. -/
theorem cell?_congr {values' : Variables} {key : SlotKey}
    (h : values.slot? key = values'.slot? key) :
    piece.cell? values key = piece.cell? values' key := by
  cases key <;> simp only [cell?, FlowButton.data?, h]

variable {values piece} in
/-- A variable is the value for its key, provided that flow data is JSON. -/
theorem exists_cell?_holds {key : SlotKey} {text : String} (hkey : key ∈ piece.sent)
    (hslot : values.slot? key = some text)
    (hjson : ∀ index, key = .flowActionData index → Json.IsText text) :
    ∃ cell, piece.cell? values key = some cell ∧ cell.Holds text := by
  cases key with
  | body | header | buttonParam | flowToken =>
    exact ⟨_, rfl, by simp [hslot, Cell.Holds]⟩
  | headerMedia =>
    obtain ⟨format, samples, rfl⟩ := exists_media_of_mem_sent hkey
    exact ⟨.media format text, by simp [cell?, mediaFormat?, Header.mediaFormat?, hslot], rfl⟩
  | flowActionData index =>
    obtain ⟨flow, rfl⟩ := exists_flow_of_mem_sent hkey
    obtain ⟨value, hvalue⟩ := hjson index rfl
    exact ⟨.flowActionData (some value), by simp [cell?, flow?, FlowButton.data?, hslot, hvalue],
      value, hvalue, rfl⟩

end Piece

/-! ## Values of a payload -/

/-- A compiled component with the piece that gave it and its place. -/
structure Placed where
  place : Place
  piece : Piece
  component : CompiledComponent

/-- A value with its key, and with the place and the heading of its component. -/
structure Entry where
  place : Place
  heading : Heading
  key : SlotKey
  cell : Cell
  deriving DecidableEq, Repr

/-- The values of a component, with the keys that are sent for its piece. -/
def Placed.entries (placed : Placed) : List Entry :=
  (placed.piece.sent.zip placed.component.cells).map fun (key, cell) =>
    ⟨placed.place, placed.component.heading, key, cell⟩

namespace Template

/-- The components of a payload with their pieces. -/
def placed (template : Template) (values : Variables) : List Placed :=
  template.pieces.flatMap fun piece =>
    (piece.2.fragment values).components.map (⟨piece.1, piece.2, ·⟩)

/-- The values of a payload with their keys. -/
def entries (template : Template) (values : Variables) : List Entry :=
  (template.placed values).flatMap Placed.entries

variable (template : Template) (values : Variables) (sender recipient : String)

/-- The placed components are the components of the payload. -/
theorem components_eq_placed :
    (template.compileWithReport sender recipient values).payload.template.components
      = (template.placed values).map Placed.component := by
  rw [components_eq_pieces, placed, List.map_flatMap]
  refine List.flatMap_congr fun piece _ => ?_
  rw [List.map_map]
  exact (List.map_id _).symm

/-- Every value of a payload is in one entry, in order. -/
theorem map_cell_entries :
    (template.entries values).map Entry.cell
      = (template.compileWithReport sender recipient values).payload.template.components.flatMap
          CompiledComponent.cells := by
  rw [entries, components_eq_placed, List.map_flatMap, List.flatMap_map]
  refine List.flatMap_congr fun placed hplaced => ?_
  obtain ⟨piece, -, hmem⟩ := List.mem_flatMap.mp hplaced
  obtain ⟨component, hcomponent, rfl⟩ := List.mem_map.mp hmem
  obtain ⟨-, hparameters, hne⟩ := Piece.eq_of_mem_fragment hcomponent
  have hlength : component.cells.length = piece.2.sent.length := by
    rw [CompiledComponent.cells, hparameters]
    exact Piece.length_cells (hparameters ▸ hne)
  rw [Placed.entries, List.map_map]
  exact List.map_snd_zip (Nat.le_of_eq hlength)

/-- The entries are the values for the keys that are sent. -/
theorem entries_eq_pieces :
    template.entries values = template.pieces.flatMap fun piece =>
      piece.2.sent.filterMap fun key =>
        (piece.2.cell? values key).map (⟨piece.1, piece.2.heading, key, ·⟩) := by
  rw [entries, placed, List.flatMap_assoc]
  refine List.flatMap_congr fun ⟨place, piece⟩ _ => ?_
  -- without parameters there is neither a component nor a value
  have hcomponent : ((piece.fragment values).components.map (Placed.mk place piece ·)).flatMap
        Placed.entries
      = (piece.sent.zip ((piece.parameters values).flatMap Parameter.cells)).map fun pair =>
          ⟨place, piece.heading, pair.1, pair.2⟩ := by
    rw [Piece.components_fragment, Piece.component?]
    split
    · rename_i hnil
      rw [hnil, List.flatMap_nil, List.zip_nil_right]
      rfl
    · exact List.flatMap_singleton ..
  rw [hcomponent, Piece.zip_cells, List.map_filterMap]
  refine List.filterMap_congr fun key _ => ?_
  rw [Option.map_map]
  rfl

end Template

end Courier
