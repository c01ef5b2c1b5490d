import Courier.Proofs.Template.Entry
import Mathlib.Data.List.Nodup

/-!
# The report of fallbacks

Every key that is sent for a piece has an outcome: the value in the payload, if there is one, and
the fallback that is reported, if there is one. The values of a payload and its report are both read
off the outcomes, in document order, so there is one line in the report for each default that was
used, and none for anything else (`Template.report_exact`).

Which outcomes there are is said by two relations, without regard to how they come about.
`Piece.Defaults` lists the defaults and what is reported for them; `Piece.Carries` says that nothing
took the place of a value, or that a flow button gave data of its own.
-/

namespace Courier

/-! ## Outcomes -/

/-- What became of a key that is sent. -/
structure Outcome where
  key : SlotKey
  /-- The value in the payload. -/
  cell? : Option Cell
  /-- The kind of the fallback that is reported. -/
  reported? : Option FallbackKind

/-- The line of an outcome in the report. -/
def Outcome.fallback? (outcome : Outcome) : Option Fallback :=
  outcome.reported?.map (⟨outcome.key.id, ·⟩)

namespace Piece

/-- The outcomes of a piece, one for each key that is sent for it. -/
def outcomes (values : Variables) (piece : Piece) : List Outcome :=
  piece.sent.map fun key =>
    ⟨key, piece.cell? values key, (values.fallbackFor? key).map Fallback.kind⟩

/-- The heading of the component of a piece with the values of its outcomes. Without values there is
no component. -/
def shown? (values : Variables) (piece : Piece) : Option (Heading × List Cell) :=
  match (piece.outcomes values).filterMap Outcome.cell? with
  | [] => none
  | cells => some (piece.heading, cells)

end Piece

/-! ## Defaults -/

/-- Whether the variable of a key is missing or empty. -/
def Variables.Lacks (values : Variables) (key : SlotKey) : Prop :=
  values.get? key.id = none ∨ values.get? key.id = some ""

/-- The defaults of a piece: the key, the kind of the fallback, and what stands in the payload
instead of a value. -/
inductive Piece.Defaults (values : Variables) :
    Piece → SlotKey → FallbackKind → Option Cell → Prop where
  /-- A placeholder of a body is sent as it stands in the text. -/
  | body {b : Body} {p : Placeholder} (hmem : p ∈ Placeholder.all (b.text.getD ""))
      (hlacks : values.Lacks (.body p.name)) :
      Defaults values (.body b) (.body p.name) .rawToken (some (.text p.raw p.parameterName?))
  /-- So is a placeholder of a header. -/
  | header {h : TextHeader} {p : Placeholder} (hmem : p ∈ Placeholder.all h.text)
      (hlacks : values.Lacks (.header p.name)) :
      Defaults values (.header (.text h)) (.header p.name) .rawToken
        (some (.text p.raw p.parameterName?))
  /-- Media are left out. -/
  | media {format : MediaFormat} {samples : Option (List String)}
      (hlacks : values.Lacks .headerMedia) :
      Defaults values (.header (.media format samples)) .headerMedia .mediaOmitted none
  /-- The first placeholder of an address is sent as a fixed text. -/
  | url {index : Nat} {b : UrlButton} {p : Placeholder} (hfirst : Placeholder.first? b.url = some p)
      (hlacks : values.Lacks (.buttonParam index p.name)) :
      Defaults values (.button index (.url b)) (.buttonParam index p.name) .buttonPlaceholder
        (some (.text "123456" p.parameterName?))
  /-- So is the first placeholder of a code. -/
  | copyCode {index : Nat} {b : CopyCodeButton} {p : Placeholder}
      (hfirst : Placeholder.first? (firstNonEmpty [b.text, b.url]) = some p)
      (hlacks : values.Lacks (.buttonParam index p.name)) :
      Defaults values (.button index (.copyCode b)) (.buttonParam index p.name) .buttonPlaceholder
        (some (.text "123456" p.parameterName?))
  /-- A flow token is sent as a fixed text. -/
  | flowToken {index : Nat} {b : FlowButton} (hlacks : values.Lacks (.flowToken index)) :
      Defaults values (.button index (.flow b)) (.flowToken index) .flowToken
        (some (.flowToken "unused"))
  /-- Flow data that are no JSON text are sent as an empty object. -/
  | flowData {index : Nat} {b : FlowButton} {text : String}
      (hget : values.get? (SlotKey.flowActionData index).id = some text) (hne : text ≠ "")
      (hjson : ¬ Json.IsText text) :
      Defaults values (.button index (.flow b)) (.flowActionData index) .malformedFlowActionData
        (some (.flowActionData (some (.obj []))))

/-- The values of a piece that are no defaults. -/
inductive Piece.Carries (values : Variables) : Piece → SlotKey → Option Cell → Prop where
  /-- The value of the caller is sent. -/
  | given {piece : Piece} {key : SlotKey} {text : String} {cell : Cell}
      (hget : values.get? key.id = some text) (hne : text ≠ "") (hholds : cell.Holds text) :
      Carries values piece key (some cell)
  /-- Without flow data of the caller, those of the button are sent. -/
  | own {index : Nat} {b : FlowButton} (hlacks : values.Lacks (.flowActionData index)) :
      Carries values (.button index (.flow b)) (.flowActionData index)
        (some (.flowActionData b.ownData?))

/-- Whether an outcome is accounted for: what is reported is a default, and what is not reported
carries its value. -/
def Piece.Accounts (values : Variables) (piece : Piece) (o : Outcome) : Prop :=
  match o.reported? with
  | some kind => piece.Defaults values o.key kind o.cell?
  | none => piece.Carries values o.key o.cell?

/-! ## The outcomes of a piece -/

namespace Piece

variable {values : Variables} {piece : Piece} {key : SlotKey}

/-- The key of a default is sent. -/
theorem Defaults.mem_sent {kind : FallbackKind} {cell? : Option Cell}
    (h : piece.Defaults values key kind cell?) : key ∈ piece.sent := by
  cases h with
  | body hmem | header hmem => exact List.mem_map_of_mem hmem
  | media => exact List.mem_cons_self
  | url hfirst | copyCode hfirst =>
    exact List.mem_append_left _ (List.mem_map_of_mem (Option.mem_toList.mpr hfirst))
  | flowToken => exact List.mem_cons_self
  | flowData => exact List.mem_cons_of_mem _ List.mem_cons_self

/-- A default is sent and reported. -/
theorem Defaults.outcome {kind : FallbackKind} {cell? : Option Cell}
    (h : piece.Defaults values key kind cell?) :
    piece.cell? values key = cell? ∧ (values.fallbackFor? key).map Fallback.kind = some kind := by
  cases h with
  -- the only default of a variable that is filled
  | flowData hget hne hjson =>
    have hslot := Variables.slot?_eq_some_iff.mpr ⟨hget, hne⟩
    cases hparse : Json.parse _ with
    | ok value => exact absurd ⟨value, hparse⟩ hjson
    | error fault =>
      simp [Piece.cell?, flow?, FlowButton.data?, Variables.fallbackFor?,
        FlowButton.dataFallback?, hslot, hparse]
  | body _ hlacks | header _ hlacks | media hlacks | url _ hlacks | copyCode _ hlacks
  | flowToken hlacks =>
    have hslot := Variables.slot?_eq_none_iff.mpr hlacks
    simp [Piece.cell?, mediaFormat?, Header.mediaFormat?, buttonParameterFallback,
      flowTokenFallback, Variables.fallbackFor?, Variables.fallback?, hslot]

/-- The key of a button without flow is that of its first placeholder. -/
theorem exists_first?_of_mem_sent {index : Nat} {b : Button} (hkey : key ∈ b.sent index)
    (hflow : b.flowKeys index = []) :
    ∃ p, Placeholder.first? b.sentText = some p ∧ key = .buttonParam index p.name := by
  rw [Button.sent, hflow, List.append_nil] at hkey
  obtain ⟨p, hp, rfl⟩ := List.mem_map.mp hkey
  exact ⟨p, Option.mem_toList.mp hp, rfl⟩

/-- There is a default for every key whose variable is missing or empty, unless it is that of flow
data. -/
theorem exists_defaults_of_lacks (hkey : key ∈ piece.sent) (hlacks : values.Lacks key) :
    (∃ kind cell?, piece.Defaults values key kind cell?) ∨
      ∃ index flow, piece = .button index (.flow flow) ∧ key = .flowActionData index := by
  -- one default for each way in which a key is sent
  cases piece with
  | body b =>
    obtain ⟨p, hp, rfl⟩ := List.mem_map.mp hkey
    exact .inl ⟨_, _, .body hp hlacks⟩
  | header header =>
    cases header with
    | text h =>
      obtain ⟨p, hp, rfl⟩ := List.mem_map.mp hkey
      exact .inl ⟨_, _, .header hp hlacks⟩
    | media format samples =>
      obtain rfl := List.mem_singleton.mp hkey
      exact .inl ⟨_, _, .media hlacks⟩
    | location | product | unknown => cases hkey
  | button index b =>
    cases b with
    | url b =>
      obtain ⟨p, hp, rfl⟩ := exists_first?_of_mem_sent hkey rfl
      exact .inl ⟨_, _, .url hp hlacks⟩
    | copyCode b =>
      obtain ⟨p, hp, rfl⟩ := exists_first?_of_mem_sent hkey rfl
      exact .inl ⟨_, _, .copyCode hp hlacks⟩
    | flow b =>
      rcases List.mem_pair.mp hkey with rfl | rfl
      · exact .inl ⟨_, _, .flowToken hlacks⟩
      · exact .inr ⟨index, b, rfl, rfl⟩
    | phoneNumber | label | otp | unknown => cases hkey

/-- The outcomes of a piece are as the relations say. -/
theorem accounts_of_mem_outcomes {o : Outcome} (ho : o ∈ piece.outcomes values) :
    piece.Accounts values o := by
  obtain ⟨key, hkey, rfl⟩ := List.mem_map.mp ho
  have hdefault {kind : FallbackKind} {cell? : Option Cell}
      (h : piece.Defaults values key kind cell?) : piece.Accounts values
        ⟨key, piece.cell? values key, (values.fallbackFor? key).map Fallback.kind⟩ := by
    obtain ⟨hcell, hkind⟩ := h.outcome
    rw [hcell, hkind]
    exact h
  cases hslot : values.slot? key with
  | none =>
    have hlacks : values.Lacks key := Variables.slot?_eq_none_iff.mp hslot
    rcases exists_defaults_of_lacks hkey hlacks with ⟨kind, cell?, h⟩ | ⟨index, flow, rfl, rfl⟩
    · exact hdefault h
    · simpa [Accounts, Piece.cell?, flow?, Variables.fallbackFor?, FlowButton.dataFallback?,
        FlowButton.data?, hslot] using Carries.own hlacks
  | some text =>
    obtain ⟨hget, hne⟩ := Variables.slot?_eq_some_iff.mp hslot
    by_cases hjson : ∀ index, key = .flowActionData index → Json.IsText text
    · obtain ⟨cell, hcell, hholds⟩ := exists_cell?_holds hkey hslot hjson
      rw [hcell, Variables.fallbackFor?_eq_none hslot hjson]
      exact .given hget hne hholds
    · -- only flow data can be refused
      push Not at hjson
      obtain ⟨index, rfl, hjson⟩ := hjson
      obtain ⟨flow, rfl⟩ := exists_flow_of_mem_sent hkey
      exact hdefault (.flowData hget hne hjson)

/-- Every default is among the outcomes. -/
theorem Defaults.mem_outcomes {kind : FallbackKind} {cell? : Option Cell}
    (h : piece.Defaults values key kind cell?) :
    ⟨key, cell?, some kind⟩ ∈ piece.outcomes values := by
  obtain ⟨hcell, hkind⟩ := h.outcome
  exact List.mem_map.mpr ⟨key, h.mem_sent, by rw [hcell, hkind]⟩

/-- The distinct placeholders of a text have distinct keys. -/
theorem nodup_map_all {key : String → SlotKey} (hkey : Function.Injective key) (text : String) :
    ((Placeholder.all text).map fun p => key p.name).Nodup := by
  have hnames : ((Placeholder.all text).map Placeholder.name).Nodup := nodup_map_distinctBy
  rw [← Function.comp_def, ← List.map_map]
  exact List.Nodup.map hkey hnames

/-- The keys that are sent for a piece are distinct. -/
theorem nodup_sent (piece : Piece) : piece.sent.Nodup := by
  cases piece with
  | body b => exact nodup_map_all (fun _ _ h => SlotKey.body.inj h) _
  | header header =>
    cases header with
    | text h => exact nodup_map_all (fun _ _ h => SlotKey.header.inj h) _
    | media | location | product | unknown => simp [sent]
  | button index b =>
    cases b with
    | flow b =>
      have hsent : (Piece.button index (.flow b)).sent
          = [.flowToken index, .flowActionData index] := rfl
      simp [hsent]
    | url b | copyCode b =>
      simp only [sent, Button.sent, Button.flowKeys, List.append_nil]
      cases Placeholder.first? _ <;> simp
    | phoneNumber | label | otp | unknown => exact List.nodup_nil

/-- The report of a piece is that of its outcomes. -/
theorem filterMap_fallback?_outcomes :
    (piece.outcomes values).filterMap Outcome.fallback? = (piece.fragment values).fallbacks := by
  rw [fallbacks_fragment, outcomes, List.filterMap_map]
  refine List.filterMap_congr fun key _ => ?_
  cases h : values.fallbackFor? key with
  | none => simp [Outcome.fallback?, h]
  | some f => simp [Outcome.fallback?, h, ← Variables.slotId_fallbackFor? h]

/-- The values of the component of a piece are those of its outcomes. -/
theorem filterMap_cell?_outcomes :
    (piece.outcomes values).filterMap Outcome.cell?
      = (piece.parameters values).flatMap Parameter.cells := by
  have hcells : (piece.outcomes values).filterMap Outcome.cell?
      = (piece.sent.zip ((piece.parameters values).flatMap Parameter.cells)).map Prod.snd := by
    rw [zip_cells, outcomes, List.filterMap_map, List.map_filterMap]
    refine List.filterMap_congr fun key _ => ?_
    rw [Option.map_map]
    exact Option.map_id'.symm
  rw [hcells]
  by_cases hnil : piece.parameters values = []
  · rw [hnil, List.flatMap_nil, List.zip_nil_right, List.map_nil]
  · exact List.map_snd_zip (Nat.le_of_eq (length_cells hnil))

/-- The component of a piece shows its outcomes. -/
theorem map_component? :
    (piece.component? values).map (fun component => (component.heading, component.cells))
      = piece.shown? values := by
  rw [component?, shown?, filterMap_cell?_outcomes]
  cases hparameters : piece.parameters values with
  | nil => rfl
  | cons p ps =>
    obtain ⟨cell, cells, hcells⟩ := List.exists_cons_of_ne_nil p.cells_ne_nil
    simp [CompiledComponent.cells, CompiledComponent.heading, List.flatMap_cons, hcells]

end Piece

/-! ## Compilations -/

/-- **The report is exact.** Report and payload are read off the outcomes of the pieces, in document
order: the report has a line for each outcome that is reported, a component has the values of the
outcomes of its piece. A piece has one outcome for a key; what is reported is a default, every
default is reported, and what is not reported carries its value. So if the report is empty, every
value does. -/
theorem Template.report_exact (template : Template) (sender recipient : String)
    (values : Variables) :
    let compilation := template.compileWithReport sender recipient values
    compilation.fallbacks = template.pieces.flatMap (fun piece =>
        (piece.2.outcomes values).filterMap Outcome.fallback?) ∧
    compilation.payload.template.components.map (fun component =>
        (component.heading, component.cells))
      = template.pieces.filterMap (fun piece => piece.2.shown? values) ∧
    (∀ piece : Piece,
      ((piece.outcomes values).map Outcome.key).Nodup ∧
      (∀ o ∈ piece.outcomes values, piece.Accounts values o) ∧
      ∀ key kind cell?, piece.Defaults values key kind cell? →
        ⟨key, cell?, some kind⟩ ∈ piece.outcomes values) ∧
    (compilation.fallbacks = [] → ∀ piece ∈ template.pieces, ∀ o ∈ piece.2.outcomes values,
      piece.2.Carries values o.key o.cell?) := by
  have hfallbacks : (template.compileWithReport sender recipient values).fallbacks
      = template.pieces.flatMap fun piece =>
          (piece.2.outcomes values).filterMap Outcome.fallback? := by
    rw [fallbacks_eq_pieces]
    exact List.flatMap_congr fun piece _ => Piece.filterMap_fallback?_outcomes.symm
  refine ⟨hfallbacks, ?_, fun piece => ⟨?_, ?_, ?_⟩, ?_⟩
  · -- the components show the cells of the outcomes
    rw [components_eq_filterMap, List.map_filterMap]
    exact List.filterMap_congr fun piece _ => Piece.map_component?
  · rw [Piece.outcomes, List.map_map]
    exact (List.map_id _).symm ▸ piece.nodup_sent
  · exact fun o ho => Piece.accounts_of_mem_outcomes ho
  · exact fun key kind cell? h => h.mem_outcomes
  · -- no line at all means that no outcome of any piece is reported
    intro hempty piece hpiece o ho
    rw [hfallbacks, List.flatMap_eq_nil_iff] at hempty
    have hnone := List.filterMap_eq_nil_iff.mp (hempty piece hpiece) o ho
    have haccounts := Piece.accounts_of_mem_outcomes ho
    rw [Outcome.fallback?, Option.map_eq_none_iff] at hnone
    rw [Piece.Accounts, hnone] at haccounts
    exact haccounts

end Courier
