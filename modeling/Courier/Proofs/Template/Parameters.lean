import Courier.Proofs.Template.Piece
import Mathlib.Data.List.Basic

/-!
# The component of a piece

A piece gives one component or none. It says which heading the component has and which parameters
are in it, and it gives none exactly if there are no parameters (`Piece.components_fragment`).
-/

namespace Courier

/-! ## Headings and parameters -/

/-- What a compiled component says of itself besides its values. -/
structure Heading where
  kind : ComponentKind
  buttonKind : Option ButtonKind
  index : Option Nat
  deriving DecidableEq, Repr

/-- The heading of a compiled component. -/
def CompiledComponent.heading (component : CompiledComponent) : Heading :=
  ⟨component.kind, component.buttonKind, component.index⟩

/-- The text of a button whose first placeholder is sent. -/
def Button.sentText : Button → String
  | .url button => button.url
  | .copyCode button => firstNonEmpty [button.text, button.url]
  | _ => ""

/-- The kind of the component of a button, if it can have one. -/
def Button.compiledKind? : Button → Option ButtonKind
  | .url _ => some .url
  | .copyCode _ => some .copyCode
  | .flow _ => some .flow
  | .phoneNumber _ | .label _ _ | .otp _ | .unknown => none

/-- The parameters of the button at an index. -/
def Button.parameters (values : Variables) (index : Nat) : Button → List Parameter
  | .flow b =>
    [.action ((values.slot? (.flowToken index)).getD flowTokenFallback) (b.data? values index)]
  | button => (Placeholder.first? button.sentText).toList.map fun p =>
    .text ((values.slot? (.buttonParam index p.name)).getD buttonParameterFallback)
      p.parameterName?

namespace Piece

/-- The heading of the component of a piece. -/
def heading : Piece → Heading
  | .body _ => ⟨.body, none, none⟩
  | .header _ => ⟨.header, none, none⟩
  | .button index b => ⟨.button, b.compiledKind?, some index⟩

/-- The parameters of the component of a piece. -/
def parameters (values : Variables) : Piece → List Parameter
  | .body b => (Placeholder.all (b.text.getD "")).map (Placeholder.parameter values .body)
  | .header (.text h) => (Placeholder.all h.text).map (Placeholder.parameter values .header)
  | .header (.media format _) => (values.slot? .headerMedia).toList.map (.media format)
  | .header _ => []
  | .button index b => b.parameters values index

/-- The component of a piece, if it has parameters. -/
def component? (values : Variables) (piece : Piece) : Option CompiledComponent :=
  match piece.parameters values with
  | [] => none
  | ps => some ⟨piece.heading.kind, piece.heading.buttonKind, piece.heading.index, ps⟩

variable (values : Variables) (piece : Piece)

/-- A piece gives its component and nothing else. -/
theorem components_fragment :
    (piece.fragment values).components = (piece.component? values).toList := by
  -- without parameters there is no component either
  cases piece with
  | body b =>
    simp only [fragment, Body.fragment, Fragment.ofText, component?, parameters]
    cases Placeholder.all (b.text.getD "") <;> rfl
  | header header =>
    cases header with
    | text header =>
      simp only [fragment, Header.fragment, Fragment.ofText, component?, parameters]
      cases Placeholder.all header.text <;> rfl
    | media format samples =>
      simp only [fragment, Header.fragment, component?, parameters]
      cases values.slot? .headerMedia <;> rfl
    | location | product | unknown => rfl
  | button index b =>
    cases b with
    | url b =>
      simp only [fragment, Button.fragment, Fragment.ofButton, component?, parameters,
        Button.parameters, Button.sentText]
      cases Placeholder.first? b.url <;> rfl
    | copyCode b =>
      simp only [fragment, Button.fragment, Fragment.ofButton, component?, parameters,
        Button.parameters, Button.sentText]
      cases Placeholder.first? (firstNonEmpty [b.text, b.url]) <;> rfl
    | flow | phoneNumber | label | otp | unknown => rfl

variable {values piece} in
/-- The component of a piece has the heading of the piece and all its parameters, of which there is
at least one. -/
theorem eq_of_mem_fragment {component : CompiledComponent}
    (h : component ∈ (piece.fragment values).components) :
    component.heading = piece.heading ∧ component.parameters = piece.parameters values ∧
      component.parameters ≠ [] := by
  rw [components_fragment, Option.mem_toList, component?] at h
  split at h
  · cases h
  · rename_i hne
    cases h
    exact ⟨rfl, rfl, hne⟩

end Piece

/-- The components of a payload are those of its pieces that have one. -/
theorem Template.components_eq_filterMap (template : Template) (sender recipient : String)
    (values : Variables) :
    (template.compileWithReport sender recipient values).payload.template.components
      = template.pieces.filterMap fun piece => piece.2.component? values := by
  rw [components_eq_pieces, List.filterMap_eq_flatMap_toList]
  exact List.flatMap_congr fun piece _ => piece.2.components_fragment values

end Courier
