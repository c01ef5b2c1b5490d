import Courier.Template.Compiling
import Mathlib.Data.List.Basic

/-!
# Payloads in one walk

Compiling a template step by step gives its payload with its fallbacks (`Template.compileStepwise_eq`).
Each step only adds to what was compiled before (`Compiling.Adds`), and what it adds is the fragment
of the part that it is about. Steps one after the other add one fragment behind the other, so a walk
through the components adds the fragment of the template.
-/

namespace Courier

namespace Fragment

variable (a b c : Fragment)

theorem append_empty : a ++ empty = a :=
  Fragment.ext (List.append_nil _) (List.append_nil _)

theorem empty_append : empty ++ a = a := rfl

theorem append_assoc : a ++ b ++ c = a ++ (b ++ c) :=
  Fragment.ext (List.append_assoc ..) (List.append_assoc ..)

end Fragment

namespace Compiling

variable {α β : Type} {step : Compiling α} {k : α → Compiling β} {a : α} {b : β}
  {first second added : Fragment}

/-! ## Steps -/

/-- A step gives something and adds a fragment to whatever has been compiled before. -/
def Adds (step : Compiling α) (a : α) (added : Fragment) : Prop :=
  ∀ compiled, step.run compiled = (a, compiled ++ added)

theorem adds_pure (a : α) : Adds (pure a) a .empty := by
  intro compiled
  rw [Fragment.append_empty]
  rfl

theorem Adds.bind (h : Adds step a first) (h' : Adds (k a) b second) :
    Adds (step >>= k) b (first ++ second) := by
  intro compiled
  rw [StateT.run_bind, h compiled]
  show (k a).run (compiled ++ first) = _
  rw [h', Fragment.append_assoc]

/-- A step that is followed by one that adds nothing. -/
theorem Adds.map (h : Adds step a first) (f : α → β) :
    Adds (do let a ← step; pure (f a)) (f a) first := by
  have hboth := h.bind (k := fun a => pure (f a)) (adds_pure (f a))
  rwa [Fragment.append_empty] at hboth

/-- A walk adds what its steps add, one behind the other. -/
theorem adds_forM {items : List β} {visit : β → Compiling Unit} {part : β → Fragment}
    (h : ∀ item, Adds (visit item) () (part item)) :
    Adds (items.forM visit) () (.join (items.map part)) := by
  induction items with
  | nil => exact adds_pure ()
  | cons item rest ih => exact (h item).bind (k := fun _ => rest.forM visit) ih

/-- Making a list item by item adds what making the items adds. -/
theorem adds_mapM {items : List β} {make : β → Compiling α} {made : β → α} {part : β → Fragment}
    (h : ∀ item, Adds (make item) (made item) (part item)) :
    Adds (items.mapM make) (items.map made) (.join (items.map part)) := by
  induction items with
  | nil =>
    rw [List.mapM_nil]
    exact adds_pure []
  | cons item rest ih =>
    rw [List.mapM_cons]
    exact (h item).bind (k := fun a => do let made ← rest.mapM make; pure (a :: made))
      (ih.map (made item :: ·))

theorem adds_fallback (key : SlotKey) (kind : FallbackKind) :
    Adds (fallback key kind) () ⟨[], [⟨key.id, kind⟩]⟩ := by
  intro compiled
  exact congrArg (Prod.mk ()) (Fragment.ext (List.append_nil _).symm rfl)

theorem adds_push (kind : ComponentKind) (button : Option (ButtonKind × Nat))
    {parameters : List Parameter} (h : parameters ≠ []) :
    Adds (push kind button parameters) ()
      ⟨[⟨kind, button.map Prod.fst, button.map Prod.snd, parameters⟩], []⟩ := by
  intro compiled
  rw [push, if_neg h]
  exact congrArg (Prod.mk ()) (Fragment.ext rfl (List.append_nil _).symm)

/-- The notes of a step stand behind the component that is made of what it gives. -/
theorem Adds.push {notes : List Fallback} (h : Adds step a ⟨[], notes⟩) (kind : ComponentKind)
    (button : Option (ButtonKind × Nat)) {f : α → List Parameter} (hparameters : f a ≠ []) :
    Adds (do let a ← step; Compiling.push kind button (f a)) ()
      ⟨[⟨kind, button.map Prod.fst, button.map Prod.snd, f a⟩], notes⟩ := by
  have hboth := h.bind (k := fun a => Compiling.push kind button (f a))
    (adds_push kind button hparameters)
  have hnotes (components : List CompiledComponent) :
      (⟨[], notes⟩ : Fragment) ++ ⟨components, []⟩ = ⟨components, notes⟩ :=
    Fragment.ext rfl (List.append_nil _)
  rwa [hnotes] at hboth

variable (values : Variables)

/-- A value that is not there is noted, and what is sent in its place is given. -/
theorem adds_valueOr (key : SlotKey) (kind : FallbackKind) (default : String) :
    Adds (valueOr values key kind default) ((values.slot? key).getD default)
      ⟨[], (values.fallback? key kind).toList⟩ := by
  rw [valueOr, Variables.fallback?]
  cases values.slot? key with
  | some value => exact adds_pure value
  | none => exact (adds_fallback key kind).map fun _ => default

/-! ## Texts -/

/-- The parameters of a text are made one by one, and each notes its own fallback. -/
theorem adds_textParameters (key : String → SlotKey) (text : String) :
    Adds (textParameters values key text)
      ((Placeholder.all text).map (Placeholder.parameter values key))
      ⟨[], (Placeholder.all text).filterMap fun p =>
        values.fallback? (key p.name) .rawToken⟩ := by
  have hmake (p : Placeholder) := (adds_valueOr values (key p.name) .rawToken p.raw).map fun value =>
    Parameter.text value p.parameterName?
  -- the notes of the single parameters, joined, are those of the whole text
  have hnotes : Fragment.join ((Placeholder.all text).map fun p =>
        ⟨[], (values.fallback? (key p.name) .rawToken).toList⟩)
      = ⟨[], (Placeholder.all text).filterMap fun p =>
          values.fallback? (key p.name) .rawToken⟩ := by
    refine Fragment.ext ?_ ?_
    · simp
    · rw [Fragment.fallbacks_join, List.flatMap_map, List.filterMap_eq_flatMap_toList]
  rw [← hnotes]
  exact adds_mapM hmake

/-- A text adds a component with its parameters, unless it has no placeholders. -/
theorem adds_ofText (kind : ComponentKind) (key : String → SlotKey) (text : String) :
    Adds (do let parameters ← textParameters values key text; Compiling.push kind none parameters)
      () (.ofText values kind key text) := by
  have hparameters := adds_textParameters values key text
  rw [Fragment.ofText]
  -- without placeholders nothing is pushed
  cases hall : Placeholder.all text with
  | nil =>
    rw [hall] at hparameters
    exact hparameters.bind (k := Compiling.push kind none) (adds_pure ())
  | cons p rest =>
    rw [hall] at hparameters
    exact hparameters.push kind none (List.cons_ne_nil _ _)

/-! ## Components -/

theorem adds_body (body : Body) : Adds (Compiling.body values body) () (body.fragment values) := by
  rw [Compiling.body, Body.fragment]
  cases body.text with
  | none => exact adds_pure ()
  | some text => exact adds_ofText values .body .body text

theorem adds_header (header : Header) :
    Adds (Compiling.header values header) () (header.fragment values) := by
  cases header with
  | text header => exact adds_ofText values .header .header header.text
  | media format sample =>
    rw [Compiling.header, Header.fragment]
    cases values.slot? .headerMedia with
    | some link => exact adds_push .header none (List.cons_ne_nil _ _)
    | none => exact adds_fallback .headerMedia .mediaOmitted
  | location | product | unknown => exact adds_pure ()

theorem adds_buttonParameter (kind : ButtonKind) (index : Nat) (text : String) :
    Adds (buttonParameter values kind index text) () (.ofButton values kind index text) := by
  rw [buttonParameter, Fragment.ofButton]
  cases Placeholder.first? text with
  | none => exact adds_pure ()
  | some p =>
    exact (adds_valueOr values (.buttonParam index p.name) .buttonPlaceholder _).push .button
      (some (kind, index)) (List.cons_ne_nil _ _)

theorem adds_flowData (index : Nat) (flow : FlowButton) :
    Adds (flowData values index flow) (flow.data? values index)
      ⟨[], (FlowButton.dataFallback? values index).toList⟩ := by
  rw [flowData, FlowButton.data?, FlowButton.dataFallback?]
  cases values.slot? (.flowActionData index) with
  | none => exact adds_pure flow.ownData?
  | some text =>
    cases hparse : Json.parse text with
    | ok value =>
      simp only [hparse]
      exact adds_pure (some value)
    | error fault =>
      simp only [hparse]
      exact (adds_fallback (.flowActionData index) .malformedFlowActionData).map fun _ =>
        some (Json.obj [])

theorem adds_flowButton (index : Nat) (flow : FlowButton) :
    Adds (flowButton values index flow) () (flow.fragment values index) := by
  have hdata (token : String) := (adds_flowData values index flow).push .button
    (some (.flow, index)) (f := fun data => [.action token data]) (List.cons_ne_nil _ _)
  exact (adds_valueOr values (.flowToken index) .flowToken flowTokenFallback).bind
    (k := fun token => do
      let data ← flowData values index flow
      Compiling.push .button (some (.flow, index)) [.action token data]) (hdata _)

theorem adds_button (index : Nat) (button : Button) :
    Adds (Compiling.button values index button) () (button.fragment values index) := by
  cases button with
  | url button => exact adds_buttonParameter values .url index button.url
  | copyCode button => exact adds_buttonParameter values .copyCode index _
  | flow button => exact adds_flowButton values index button
  | _ => exact adds_pure ()

/-- **A component adds its fragment.** -/
theorem adds_component (component : Component) :
    Adds (Compiling.component values component) () (component.fragment values) := by
  cases component with
  | body b => exact adds_body values b
  | header h => exact adds_header values h
  | buttons bs =>
    rw [Component.fragment, List.mapIdx_eq_zipIdx_map]
    exact adds_forM fun (button, index) => adds_button values index button
  | _ => exact adds_pure ()

end Compiling

/-- **A template can be compiled in one walk.** The payload is the same, and so are the fallbacks and
their order. -/
theorem Template.compileStepwise_eq (template : Template) (sender recipient : String)
    (values : Variables) :
    template.compileStepwise sender recipient values
      = template.compileWithReport sender recipient values := by
  have hwalk : (template.components.forM (Compiling.component values)).run .empty
      = ((), .empty ++ template.fragment values) :=
    Compiling.adds_forM (Compiling.adds_component values) .empty
  rw [compileStepwise, compileWithReport, hwalk, Fragment.empty_append]

end Courier
