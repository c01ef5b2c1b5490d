import Courier.Proofs.Template.Piece

/-!
# Templates in parts

A template can be cut between any two of its components. What is compiled from the whole is what is
compiled from the parts, one behind the other, and the slots of the whole are those of the front and
behind them the slots of the back that the front does not have already
(`Template.results_append`). A component that gives neither slots nor values can thus stand
anywhere.
-/

namespace Courier

/-! ## Passive components -/

/-- The kinds of components that have no slots and give nothing to a payload. -/
inductive Component.Passive : Component → Prop where
  | footer (footer : Footer) : Passive (.footer footer)
  | carousel (cards : List (List Component)) : Passive (.carousel cards)
  | limitedTimeOffer (offer : Option LimitedTimeOffer) : Passive (.limitedTimeOffer offer)
  | callPermissionRequest : Passive .callPermissionRequest
  | unknown : Passive .unknown

namespace Component.Passive

variable {component : Component}

theorem slots_eq_nil (h : component.Passive) : component.slots = [] := by
  cases h <;> rfl

theorem fragment_eq_empty (h : component.Passive) (values : Variables) :
    component.fragment values = .empty := by
  cases h <;> rfl

end Component.Passive

/-! ## Cutting a template -/

namespace Template

/-- A template with other components. -/
def withComponents (template : Template) (components : List Component) : Template :=
  { template with components }

variable (template : Template) (front back : List Component)

/-- The fragment of the whole is that of the front and behind it that of the back. -/
theorem fragment_append (values : Variables) :
    (template.withComponents (front ++ back)).fragment values
      = (template.withComponents front).fragment values
        ++ (template.withComponents back).fragment values := by
  apply Fragment.ext
  all_goals
    simp only [fragment, withComponents, List.map_append, Fragment.components_join,
      Fragment.fallbacks_join, List.flatMap_append]
    rfl

/-- The slots of the whole are those of the front and the new ones of the back. -/
theorem slots_append :
    (template.withComponents (front ++ back)).slots
      = (template.withComponents front).slots
        ++ (template.withComponents back).slots.filter
            (·.id ∉ (template.withComponents front).slots.map Slot.id) := by
  simp only [slots, withComponents, List.flatMap_append]
  exact distinctBy_append ..

variable {component : Component}

/-- A passive component has no part in a fragment. -/
theorem fragment_insert (h : component.Passive) (values : Variables) :
    (template.withComponents (front ++ component :: back)).fragment values
      = (template.withComponents (front ++ back)).fragment values := by
  have hskip : (template.withComponents (component :: back)).fragment values
      = (template.withComponents back).fragment values := by
    simp only [fragment, withComponents, List.map_cons, h.fragment_eq_empty]
    rfl
  rw [fragment_append, fragment_append, hskip]

/-- A passive component has no part in the slots. -/
theorem slots_insert (h : component.Passive) :
    (template.withComponents (front ++ component :: back)).slots
      = (template.withComponents (front ++ back)).slots := by
  have hskip : (template.withComponents (component :: back)).slots
      = (template.withComponents back).slots := by
    simp only [slots, withComponents, List.flatMap_cons, h.slots_eq_nil, List.nil_append]
  rw [slots_append, slots_append, hskip]

/-- **A template works by its parts.** The components and the fallbacks compiled from the whole are
those from the front followed by those from the back, and the slots of the whole are those of the
front followed by the slots of the back whose ids the front does not have. A passive component
changes nothing wherever it is inserted. -/
theorem results_append :
    (∀ sender recipient values,
      let compiled (components : List Component) :=
        (template.withComponents components).compileWithReport sender recipient values
      (compiled (front ++ back)).payload.template.components
          = (compiled front).payload.template.components
            ++ (compiled back).payload.template.components ∧
        (compiled (front ++ back)).fallbacks
          = (compiled front).fallbacks ++ (compiled back).fallbacks) ∧
    (template.withComponents (front ++ back)).slots
        = (template.withComponents front).slots
          ++ (template.withComponents back).slots.filter
              (·.id ∉ (template.withComponents front).slots.map Slot.id) ∧
    ∀ component, component.Passive →
      (template.withComponents (front ++ component :: back)).slots
          = (template.withComponents (front ++ back)).slots ∧
        ∀ sender recipient values,
          (template.withComponents (front ++ component :: back)).compileWithReport
              sender recipient values
            = (template.withComponents (front ++ back)).compileWithReport
                sender recipient values := by
  refine ⟨fun sender recipient values => ?_, template.slots_append front back, ?_⟩
  · -- components and fallbacks are two parts of one fragment
    have hfragment := template.fragment_append front back values
    exact ⟨congrArg Fragment.components hfragment, congrArg Fragment.fallbacks hfragment⟩
  · intro component hpassive
    refine ⟨template.slots_insert front back hpassive, fun sender recipient values => ?_⟩
    have hfragment := template.fragment_insert front back hpassive values
    rw [compileWithReport, compileWithReport, hfragment]
    rfl

/-- A footer between the text and the buttons of the notice makes no difference, and the text comes
before a second one with one placeholder of its own. -/
theorem orderNotice_extended :
    let footer : Component := .footer ⟨some "Bye \x7b\x7b1\x7d\x7d", none⟩
    let more : Component := .body ⟨some "\x7b\x7b1\x7d\x7d and \x7b\x7b2\x7d\x7d", none, none⟩
    ((orderNotice.withComponents (orderNotice.components ++ [more])).slots.map Slot.id
      = ["header_media_url", "body_param_name", "body_param_1", "button_0_param_1",
          "button_1_flow_token", "button_1_flow_action_data", "body_param_2"]) ∧
    (orderNotice.withComponents (orderNotice.components ++ footer :: [more])).slots
      = (orderNotice.withComponents (orderNotice.components ++ [more])).slots := by
  intro footer more
  obtain ⟨-, hslots, hpassive⟩ := orderNotice.results_append orderNotice.components [more]
  refine ⟨?_, (hpassive footer (.footer _)).1⟩
  rw [hslots]
  decide

end Template

end Courier
