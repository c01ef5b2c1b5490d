import Courier.Proofs.Decode.Restore
import Courier.Proofs.Template.Order

/-!
# Sending a payload and reading it back

A payload is read back from its own document as it was sent (`Payload.restores`), with one
exception. The flow data of a button may be missing, and null is read as missing, so flow data of
null are lost (`Payload.withoutNull`). A payload that was compiled has such data exactly if a caller
gave the text `null` for them (`Template.compile_readBack`).
-/

namespace Courier

open Decoder

/-! ## What is lost -/

/-- A parameter without flow data of null. -/
def Parameter.withoutNull : Parameter → Parameter
  | .action token data => .action token (data.filter (· ≠ .null))
  | .text value name => .text value name
  | .media format link => .media format link

/-- The values for one component, without flow data of null. -/
def CompiledComponent.withoutNull (component : CompiledComponent) : CompiledComponent :=
  { component with parameters := component.parameters.map Parameter.withoutNull }

/-- A payload without flow data of null. -/
def Payload.withoutNull (payload : Payload) : Payload :=
  { payload with template :=
    { payload.template with
      components := payload.template.components.map CompiledComponent.withoutNull } }

/-- The flow data of a parameter are a value. -/
def Parameter.Sendable : Parameter → Prop
  | .action _ data => ∀ value, data = some value → value.IsValue
  | .text _ _ | .media _ _ => True

/-- The index of a component has its bits, and the flow data in it are values. -/
structure CompiledComponent.Sendable (component : CompiledComponent) : Prop where
  index : ∀ i, component.index = some i → i < twoTo 64
  parameters : ∀ p ∈ component.parameters, p.Sendable

/-! ## Reading back -/

namespace Parameter

theorem restores_media (format : MediaFormat) (link : String) (noun : String) :
    (mediaDecoder format noun).Restores
      (.object [(format.parameterName, some (.object [("link", some (.str link))]))])
      (.media format link) := by
  have hlink : ((Fields.make id |>.required "link" string).decoder "struct MediaLink").Restores
      (.object [("link", some (.str link))]) link := by
    refine Fields.restores_object (by decide) rfl ?_ _
    exact (Fields.finds_make _).string rfl
  refine Fields.restores_object ?_ rfl ?_ _
  · exact List.nodup_singleton _
  · refine (Fields.finds_make _).required ?_ hlink
    rw [Assoc.find?_cons, if_pos rfl]
    rfl

theorem restores (p : Parameter) (h : p.Sendable) :
    tagged.decoder.Restores p.toJson p.withoutNull := by
  -- the parts of a parameter are the parameter itself
  cases p with
  | text value name =>
    show tagged.decoder.Restores _ (id (text value name))
    refine Tagged.restores_part rfl (by simp [tagged]) ?_
    refine Fields.restores_object (by decide) rfl ?_ _
    exact ((Fields.finds_make _).string rfl).optionalString rfl
  | media format link =>
    show tagged.decoder.Restores _ (id (media format link))
    cases format <;>
      exact Tagged.restores_part rfl (by simp [tagged, MediaFormat.parameterName])
        (restores_media _ link _)
  | action token data =>
    show tagged.decoder.Restores _ (id (action token (data.filter (· ≠ .null))))
    refine Tagged.restores_part rfl (by simp [tagged]) ?_
    refine Fields.restores_object (by decide) rfl ?_ _
    refine (Fields.finds_make _).required rfl ?_
    refine Fields.restores_object (by decide) rfl ?_ _
    exact ((Fields.finds_make _).string rfl).optionalJson rfl h

end Parameter

theorem ComponentKind.restores (kind : ComponentKind) :
    ComponentKind.enumeration.decoder.Restores (.str kind.name) kind :=
  restores_enumeration (by cases kind <;> rfl)

theorem ButtonKind.restores (kind : ButtonKind) :
    ButtonKind.enumeration.decoder.Restores (.str kind.name) kind :=
  restores_enumeration (by cases kind <;> rfl)

theorem CompiledComponent.restores (c : CompiledComponent) (h : c.Sendable) :
    CompiledComponent.decoder.Restores c.toJson c.withoutNull := by
  refine Fields.restores_object (by decide) rfl ?_ _
  exact ((((Fields.finds_make _).required rfl c.kind.restores).optional rfl fun kind _ =>
    kind.restores.optional nofun).optional rfl fun i hi =>
    (restores_natural (h.index i hi) _).optional nofun).required rfl
    (restores_list_map fun p hp => p.restores (h.parameters p hp))

/-- **A payload is read back as it was sent**, except that flow data of null are lost. -/
theorem Payload.restores (payload : Payload)
    (h : ∀ c ∈ payload.template.components, c.Sendable) :
    Payload.decoder.Restores payload.toJson payload.withoutNull := by
  have htemplate : TemplatePayload.decoder.Restores payload.template.toJson
      payload.withoutNull.template := by
    refine Fields.restores_object (by decide) rfl ?_ _
    exact (((Fields.finds_make _).string rfl).string rfl).required rfl
      (restores_list_map fun c hc => c.restores (h c hc))
  refine Fields.restores_object (by decide) rfl ?_ _
  exact ((((Fields.finds_make _).string rfl).string rfl).string rfl).required rfl htemplate

theorem Parameter.withoutNull_eq_iff {p : Parameter} :
    p.withoutNull = p ↔ ∀ token, p ≠ .action token (some .null) := by
  cases p with
  | text | media => exact iff_of_true rfl nofun
  | action token data =>
    rw [withoutNull, Parameter.action.injEq, eq_self_iff_true, true_and]
    cases data with
    | none => exact iff_of_true rfl nofun
    | some value =>
      by_cases hnull : value = .null
      · subst hnull
        exact iff_of_false nofun fun h => h token rfl
      · refine iff_of_true (Option.filter_some_pos (decide_eq_true hnull)) fun _ heq => hnull ?_
        cases heq
        rfl

theorem CompiledComponent.withoutNull_eq_iff {c : CompiledComponent} :
    c.withoutNull = c ↔ ∀ token, .action token (some .null) ∉ c.parameters := by
  have hparameters : c.withoutNull = c ↔ c.parameters.map Parameter.withoutNull
      = c.parameters.map id := by
    rw [List.map_id]
    exact ⟨congrArg parameters, fun h => congrArg (mk c.kind c.buttonKind c.index) h⟩
  rw [hparameters, List.map_inj_left]
  constructor
  · exact fun h token hmem => Parameter.withoutNull_eq_iff.mp (h _ hmem) token rfl
  · exact fun h p hp => Parameter.withoutNull_eq_iff.mpr fun token heq => h token (heq ▸ hp)

/-- Nothing is lost of a payload without flow data of null. -/
theorem Payload.withoutNull_eq_iff {payload : Payload} :
    payload.withoutNull = payload ↔ ∀ c ∈ payload.template.components, ∀ token,
      .action token (some .null) ∉ c.parameters := by
  have hcomponents : payload.withoutNull = payload ↔
      payload.template.components.map CompiledComponent.withoutNull
        = payload.template.components.map id := by
    rw [List.map_id]
    refine ⟨congrArg fun sent : Payload => sent.template.components, fun h => ?_⟩
    rw [withoutNull, h]
  rw [hcomponents, List.map_inj_left]
  exact forall₂_congr fun c _ => CompiledComponent.withoutNull_eq_iff

/-! ## Flow data of a button -/

namespace FlowButton

variable {flow : FlowButton} {values : Variables} {index : Nat}

/-- The flow data that a button has of its own are an object of values. -/
theorem exists_of_ownData? {value : Json} (h : flow.ownData? = some value) :
    ∃ members, value = .object members ∧ ∀ m ∈ members, ∀ v, m.2 = some v → v.IsValue := by
  have htext (part : Option String) (v : Json) (hv : (part.filter (· ≠ "")).map .str = some v) :
      v.IsValue := by
    obtain ⟨s, -, rfl⟩ := Option.map_eq_some_iff.mp hv
    rfl
  unfold ownData? at h
  extract_lets flowId text at h
  have hflowId (v : Json) (hv : flowId = some v) : v.IsValue := by
    unfold flowId at hv
    split at hv
    · cases hv
      rfl
    · split at hv
      · cases hv
      · cases hv
        rfl
    · cases hv
  -- whichever of the three parts are there, each is a number or a text
  split at h
  · cases h
  · cases h
    refine ⟨_, rfl, fun m hm v hv => ?_⟩
    have hmem := List.mem_of_mem_filter hm
    simp only [List.mem_cons, List.not_mem_nil, or_false] at hmem
    rcases hmem with rfl | rfl | rfl
    · exact hflowId v hv
    · exact htext _ v hv
    · exact htext _ v hv

/-- Flow data are a value, whether the caller gave them or the button has them. -/
theorem isValue_of_data? {value : Json} (h : flow.data? values index = some value) :
    value.IsValue := by
  unfold data? at h
  split at h
  · obtain ⟨members, rfl, hmembers⟩ := exists_of_ownData? h
    exact Json.isValue_object hmembers
  · split at h
    · rename_i hparse
      cases h
      obtain ⟨tree, -, rfl⟩ := map_eq_ok_iff.mp hparse
      exact Json.isValue_normalize tree
    · cases h
      decide

/-- Flow data are null exactly if the caller gave them so. -/
theorem data?_eq_null_iff : flow.data? values index = some .null ↔
    ∃ text, values.slot? (.flowActionData index) = some text ∧ Json.parse text = .ok .null := by
  unfold data?
  cases hslot : values.slot? (.flowActionData index) with
  | none =>
    refine iff_of_false (fun h => ?_) (by simp)
    obtain ⟨members, hnull, -⟩ := exists_of_ownData? h
    cases hnull
  | some text => cases hparse : Json.parse text <;> simp [hparse]

end FlowButton

/-- Only a flow button has flow data. -/
theorem Piece.exists_flow_of_action {values : Variables} {piece : Piece} {token : String}
    {data : Option Json} (h : .action token data ∈ piece.parameters values) :
    ∃ index flow, piece = .button index (.flow flow) ∧ flow.data? values index = data := by
  have htexts {α : Type} {items : List α} {text : α → String} {name : α → Option String} :
      .action token data ∉ items.map fun a => Parameter.text (text a) (name a) := by
    simp
  cases piece with
  | body b => exact absurd h htexts
  | header header =>
    cases header with
    | text header => exact absurd h htexts
    | media format samples => simp [parameters] at h
    | location | product | unknown => cases h
  | button index b =>
    cases b with
    | flow flow =>
      cases List.mem_singleton.mp h
      exact ⟨index, flow, rfl, rfl⟩
    | url | copyCode | phoneNumber | label | otp | unknown => exact absurd h htexts

/-! ## Compiled payloads -/

namespace Template

/-- Whether a caller gives null as the flow data of a flow button. -/
def GivesNull (template : Template) (values : Variables) : Prop :=
  ∃ bs i flow text, .buttons bs ∈ template.components ∧ bs[i]? = some (.flow flow) ∧
    values.slot? (.flowActionData i) = some text ∧ Json.parse text = .ok .null

variable {template : Template} {values : Variables} {sender recipient : String}

/-- A component of a payload has the heading and the parameters of a piece. -/
theorem exists_piece_of_mem {c : CompiledComponent}
    (h : c ∈ (template.compile sender recipient values).template.components) :
    ∃ place piece, template.At place piece ∧ c.heading = piece.heading ∧
      c.parameters = piece.parameters values := by
  change c ∈ (template.compileWithReport sender recipient values).payload.template.components at h
  rw [components_eq_pieces] at h
  obtain ⟨⟨place, piece⟩, hpiece, hc⟩ := List.mem_flatMap.mp h
  obtain ⟨hheading, hparameters, -⟩ := Piece.eq_of_mem_fragment hc
  exact ⟨place, piece, template.mem_pieces_iff_at.mp hpiece, hheading, hparameters⟩

/-- A piece with parameters has a component in the payload. -/
theorem exists_mem_of_at {place : Place} {piece : Piece} (hat : template.At place piece)
    (hparameters : piece.parameters values ≠ []) :
    ∃ c ∈ (template.compile sender recipient values).template.components,
      c.parameters = piece.parameters values := by
  have hcomponent : ∃ c, piece.component? values = some c ∧
      c.parameters = piece.parameters values := by
    unfold Piece.component?
    split
    · contradiction
    · exact ⟨_, rfl, rfl⟩
  obtain ⟨c, hc, hsame⟩ := hcomponent
  refine ⟨c, ?_, hsame⟩
  show c ∈ (template.compileWithReport sender recipient values).payload.template.components
  rw [components_eq_filterMap, List.mem_filterMap]
  exact ⟨(place, piece), template.mem_pieces_iff_at.mpr hat, hc⟩

/-- A payload is sendable if no row has more buttons than there are indices. -/
theorem sendable_of_mem (hrows : ∀ bs, .buttons bs ∈ template.components → bs.length ≤ twoTo 64)
    {c : CompiledComponent}
    (h : c ∈ (template.compile sender recipient values).template.components) : c.Sendable := by
  obtain ⟨place, piece, hat, hheading, hparameters⟩ := exists_piece_of_mem h
  constructor
  · intro i hi
    have hindex : piece.heading.index = some i := (congrArg Heading.index hheading).symm.trans hi
    cases hat with
    | body | header => cases hindex
    | button hbuttons hbutton =>
      cases hindex
      obtain ⟨hlt, -⟩ := List.getElem?_eq_some_iff.mp hbutton
      exact hlt.trans_le (hrows _ (List.mem_of_getElem? hbuttons))
  · intro p hp
    cases p with
    | text | media => trivial
    | action token data =>
      rw [hparameters] at hp
      obtain ⟨index, flow, -, rfl⟩ := Piece.exists_flow_of_action hp
      exact fun value hvalue => FlowButton.isValue_of_data? hvalue

/-- Flow data of null stand in a compiled payload exactly if the caller gave them. -/
theorem withoutNull_compile_eq_iff :
    (template.compile sender recipient values).withoutNull
      = template.compile sender recipient values ↔ ¬ template.GivesNull values := by
  rw [Payload.withoutNull_eq_iff]
  constructor
  · -- the component of that button has the null
    rintro h ⟨bs, i, flow, text, hbs, hflow, hslot, hparse⟩
    obtain ⟨n, hn⟩ := List.mem_iff_getElem?.mp hbs
    obtain ⟨c, hc, hparameters⟩ := exists_mem_of_at (At.button hn hflow) (List.cons_ne_nil _ _)
    refine h c hc ((values.slot? (.flowToken i)).getD flowTokenFallback) ?_
    rw [hparameters, Piece.parameters, Button.parameters,
      FlowButton.data?_eq_null_iff.mpr ⟨text, hslot, hparse⟩]
    exact List.mem_singleton_self _
  · intro h c hc token hmem
    obtain ⟨place, piece, hat, -, hparameters⟩ := exists_piece_of_mem hc
    rw [hparameters] at hmem
    obtain ⟨index, flow, rfl, hdata⟩ := Piece.exists_flow_of_action hmem
    obtain ⟨text, hslot, hparse⟩ := FlowButton.data?_eq_null_iff.mp hdata
    cases hat with
    | button hbuttons hbutton =>
      exact h ⟨_, _, flow, text, List.mem_of_getElem? hbuttons, hbutton, hslot, hparse⟩

/-- **A compiled payload is read back as it was sent**, except that flow data of null are lost. So
it is the same payload exactly if the caller gives no null for flow data. -/
theorem compile_readBack (template : Template)
    (hrows : ∀ bs, .buttons bs ∈ template.components → bs.length ≤ twoTo 64)
    (sender recipient : String) (values : Variables) :
    let payload := template.compile sender recipient values
    Payload.decoder.run payload.toJson = .ok payload.withoutNull ∧
      (Payload.decoder.run payload.toJson = .ok payload ↔ ¬ template.GivesNull values) := by
  intro payload
  have hread : Payload.decoder.run payload.toJson = .ok payload.withoutNull :=
    payload.restores (fun c hc => sendable_of_mem hrows hc) .plain
  refine ⟨hread, ?_⟩
  rw [hread, Except.ok.injEq]
  exact withoutNull_compile_eq_iff

/-- The notice of a caller who gives null is not read back. -/
theorem orderNotice_null_lost :
    let payload := orderNotice.compile "a" "b" (.set .empty "button_1_flow_action_data" "null")
    (Payload.decoder.run payload.toJson).toOption = some payload.withoutNull ∧
      Payload.decoder.run payload.toJson ≠ .ok payload := by
  intro payload
  have hread : (Payload.decoder.run payload.toJson).toOption = some payload.withoutNull := by
    decide +kernel
  refine ⟨hread, fun h => ?_⟩
  rw [h] at hread
  exact absurd hread (by decide +kernel)

/-- The notice of a caller who gives an array is read back, also if there is null in the array. -/
theorem orderNotice_readBack :
    let payload := orderNotice.compile "a" "b" (.set .empty "button_1_flow_action_data" "[null]")
    Payload.decoder.run payload.toJson = .ok payload := by
  have hrows : ∀ bs, .buttons bs ∈ orderNotice.components → bs.length ≤ twoTo 64 := by
    intro bs hbs
    simp only [orderNotice, List.mem_cons, reduceCtorEq, Component.buttons.injEq, false_or,
      List.not_mem_nil, or_false] at hbs
    subst hbs
    decide
  refine (orderNotice.compile_readBack hrows "a" "b" _).2.mpr ?_
  rintro ⟨bs, i, flow, text, -, -, hslot, hparse⟩
  -- the only variable that is set is not null
  have harray : (Json.parse "[null]").toOption = some (.arr [.null]) := by decide +kernel
  obtain ⟨hget, -⟩ := Variables.slot?_eq_some_iff.mp hslot
  rw [Variables.get?_set] at hget
  split at hget
  · cases hget
    rw [hparse] at harray
    cases harray
  · cases hget

end Template

end Courier
