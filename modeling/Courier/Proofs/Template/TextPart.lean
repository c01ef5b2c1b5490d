import Courier.Proofs.Distinct
import Courier.Proofs.Template.Concatenation
import Courier.Proofs.Template.Occurrence
import Courier.Proofs.Template.Report

/-!
# Texts in a payload

The text of a body or a header is known to the receiver, so only the values of its placeholders are
sent. `Placeholder.SentAs` says which parameter a placeholder may be sent as, and `TextPart.Gives`
says what a text gives to a payload: nothing if it has no placeholder, and otherwise one component
with a parameter for each distinct placeholder, in the order in which they occur first. Compiling
gives that for every text of a template, at the place of its component (`Template.text_exact`).
-/

namespace Courier

/-! ## Parameters -/

/-- Whether a parameter is what a placeholder is sent as. The text is the variable of its slot, or
the placeholder itself if that is missing or empty. The name is sent unless it consists of ASCII
digits. -/
def Placeholder.SentAs (values : Variables) (key : SlotKey) (p : Placeholder) : Parameter → Prop
  | .text text parameterName =>
    (values.get? key.id = some text ∧ text ≠ "" ∨
      values.Lacks key ∧ text = "\x7b\x7b" ++ p.name ++ "\x7d\x7d") ∧
    ((∃ c ∈ p.name.toList, ¬('0' ≤ c ∧ c ≤ '9')) ∧ parameterName = some p.name ∨
      (∀ c ∈ p.name.toList, '0' ≤ c ∧ c ≤ '9') ∧ parameterName = none)
  | .media _ _ | .action _ _ => False

namespace Placeholder

variable {values : Variables} {key : String → SlotKey} {p q : Placeholder}

/-- A placeholder is positional exactly if its name consists of ASCII digits. -/
theorem isPositional_iff : p.isPositional = true ↔ ∀ c ∈ p.name.toList, '0' ≤ c ∧ c ≤ '9' := by
  simp [isPositional, Text.isAllDigits, Text.isAsciiDigit]

/-- The parameter of a placeholder is what the placeholder is sent as. -/
theorem sentAs_parameter (values : Variables) (key : String → SlotKey) (p : Placeholder) :
    p.SentAs values (key p.name) (p.parameter values key) := by
  constructor
  · cases hslot : values.slot? (key p.name) with
    | some text => exact .inl (Variables.slot?_eq_some_iff.mp hslot)
    | none => exact .inr ⟨Variables.slot?_eq_none_iff.mp hslot, rfl⟩
  · rw [parameterName?]
    split
    · rename_i hpositional
      exact .inr ⟨isPositional_iff.mp hpositional, rfl⟩
    · rename_i hnamed
      rw [isPositional_iff, not_forall] at hnamed
      obtain ⟨c, hdigit⟩ := hnamed
      obtain ⟨hc, hother⟩ := Classical.not_imp.mp hdigit
      exact .inl ⟨⟨c, hc, hother⟩, rfl⟩

end Placeholder

/-! ## Components -/

/-- The parts of a message that are texts with placeholders. -/
inductive TextPart where
  | body
  | header

namespace TextPart

/-- The kind of the component that is compiled from a text. -/
def kind : TextPart → ComponentKind
  | .body => .body
  | .header => .header

/-- The key of the slot of a name. -/
def key : TextPart → String → SlotKey
  | .body => .body
  | .header => .header

/-- What a text gives to a payload. -/
inductive Gives (values : Variables) (part : TextPart) (text : String) :
    List CompiledComponent → Prop where
  | nothing (hnone : Placeholder.scan text = []) : Gives values part text []
  | component {ps : List Placeholder} {parameters : List Parameter}
      (hsome : Placeholder.scan text ≠ [])
      (hfirst : FirstOccurrences Placeholder.name (Placeholder.scan text) ps)
      (hsent : List.Forall₂ (fun p => p.SentAs values (part.key p.name)) ps parameters) :
      Gives values part text [⟨part.kind, none, none, parameters⟩]

end TextPart

/-- The components with a text. -/
inductive Component.HasText : Component → TextPart → String → Prop where
  | body {b : Body} {text : String} (htext : b.text = some text) : HasText (.body b) .body text
  | header (h : TextHeader) : HasText (.header (.text h)) .header h.text

namespace TextPart

variable {values : Variables} {part : TextPart} {text : String}

/-- The parameters of the distinct placeholders of a text. -/
def parameters (values : Variables) (part : TextPart) (text : String) : List Parameter :=
  (Placeholder.all text).map (Placeholder.parameter values part.key)

/-- The fragment of a text with a placeholder has one component, with the parameters of the text. -/
theorem components_ofText (h : Placeholder.scan text ≠ []) :
    (Fragment.ofText values part.kind part.key text).components
      = [⟨part.kind, none, none, part.parameters values text⟩] := by
  have hall : Placeholder.all text ≠ [] :=
    Placeholder.all_ne_nil_iff.mpr (Placeholder.scan_ne_nil_iff.mp h)
  rw [Fragment.ofText]
  split
  · rename_i hnil
    exact absurd hnil hall
  · rfl

/-- The parameters of a text are those of its first placeholders. -/
theorem forall₂_parameters (values : Variables) (part : TextPart) (text : String) :
    List.Forall₂ (fun p => p.SentAs values (part.key p.name)) (Placeholder.all text)
      (part.parameters values text) := by
  rw [parameters, List.forall₂_map_right_iff, List.forall₂_same]
  exact fun p _ => p.sentAs_parameter values part.key

/-- The fragment of a text is what the text gives. -/
theorem gives_ofText : part.Gives values text
    (Fragment.ofText values part.kind part.key text).components := by
  by_cases h : Placeholder.scan text = []
  · rw [Fragment.ofText, Placeholder.all, h]
    exact .nothing h
  · rw [components_ofText h]
    exact .component h (firstOccurrences_distinctBy ..) (part.forall₂_parameters values text)

/-- The fragment of a component with a text is that of the text. -/
theorem fragment_eq_ofText {component : Component} (h : component.HasText part text)
    (values : Variables) :
    component.fragment values = .ofText values part.kind part.key text := by
  cases h with
  | body htext =>
    rw [Component.fragment, Body.fragment, htext]
    rfl
  | header => rfl

end TextPart

/-! ## Payloads -/

namespace Template

variable (template : Template)

/-- The components of a fragment are those of the components before another one, its own, and those
of the components behind it. -/
theorem components_fragment_of_eq_append {front back : List Component} {component : Component}
    (h : template.components = front ++ component :: back) (values : Variables) :
    (template.fragment values).components
      = ((template.withComponents front).fragment values).components
        ++ (component.fragment values).components
        ++ ((template.withComponents back).fragment values).components := by
  simp only [fragment, withComponents, h, List.map_append, List.map_cons, Fragment.components_join,
    List.flatMap_append, List.flatMap_cons, List.append_assoc]

/-- **A text is sent placeholder by placeholder.** At the place of a component with a text, a
payload has what the text gives: no component if it has no placeholder, and otherwise one component
with one parameter for each distinct placeholder, in order. -/
theorem text_exact (front back : List Component) {component : Component} {part : TextPart}
    {text : String} (hcomponents : template.components = front ++ component :: back)
    (htext : component.HasText part text) (sender recipient : String) (values : Variables) :
    let compiled (components : List Component) :=
      ((template.withComponents components).compileWithReport
        sender recipient values).payload.template.components
    ∃ own, part.Gives values text own ∧
      (template.compileWithReport sender recipient values).payload.template.components
        = compiled front ++ own ++ compiled back := by
  refine ⟨(component.fragment values).components, ?_, ?_⟩
  · rw [TextPart.fragment_eq_ofText htext]
    exact TextPart.gives_ofText
  · exact template.components_fragment_of_eq_append hcomponents values

/-- The text of the notice has a placeholder with a value and one whose value is empty. -/
theorem orderNotice_text :
    let values : Variables := ⟨[("body_param_name", "Ann"), ("body_param_1", "")]⟩
    TextPart.body.Gives values "Hi \x7b\x7bname\x7d\x7d, order \x7b\x7b1\x7d\x7d is ready."
      [⟨.body, none, none, [.text "Ann" (some "name"), .text "\x7b\x7b1\x7d\x7d" none]⟩] := by
  intro values
  obtain ⟨own, hgives, hcomponents⟩ := orderNotice.text_exact (orderNotice.components.take 1)
    (orderNotice.components.drop 2) rfl (.body rfl) "a" "b" values
  -- the payload has no header, as the link for it is missing, and two buttons
  have hpayload : (orderNotice.compileWithReport "a" "b" values).payload.template.components
      = [⟨.body, none, none, [.text "Ann" (some "name"), .text "\x7b\x7b1\x7d\x7d" none]⟩]
        ++ ((orderNotice.withComponents (orderNotice.components.drop 2)).compileWithReport
            "a" "b" values).payload.template.components := by decide
  have hown := List.append_cancel_right (hcomponents.symm.trans hpayload)
  exact hown ▸ hgives

end Template

end Courier
