import Courier.Template.Payload
import Courier.Template.Slot
import Courier.Template.Variables

/-!
# Compiling a template

A template and variables make a payload. Compiling never fails: where a variable is missing or of no
use, a fallback takes its place, and the fallbacks are listed in the order in which they were used.

What a component gives, values to send and fallbacks, is a `Fragment`. It depends on that component
and the variables only, and the fragment of a template is the sequence of the fragments of its
components.
-/

namespace Courier

/-- What is sent for a button parameter without a value; a placeholder would be refused. -/
def buttonParameterFallback : String := "123456"

/-- What is sent for a flow token without a value. -/
def flowTokenFallback : String := "unused"

/-- Values to send, with the fallbacks that were needed for them. -/
@[ext] structure Fragment where
  components : List CompiledComponent
  fallbacks : List Fallback
  deriving DecidableEq, Repr, Inhabited

namespace Fragment

/-- Nothing to send. -/
def empty : Fragment := ⟨[], []⟩

/-- One fragment behind another. -/
def append (a b : Fragment) : Fragment :=
  ⟨a.components ++ b.components, a.fallbacks ++ b.fallbacks⟩

instance : Append Fragment := ⟨append⟩

/-- Fragments one behind the other. -/
def join (fragments : List Fragment) : Fragment :=
  ⟨fragments.flatMap Fragment.components, fragments.flatMap Fragment.fallbacks⟩

@[simp] theorem components_join (fragments : List Fragment) :
    (join fragments).components = fragments.flatMap Fragment.components := rfl

@[simp] theorem fallbacks_join (fragments : List Fragment) :
    (join fragments).fallbacks = fragments.flatMap Fragment.fallbacks := rfl

end Fragment

/-! ## Texts -/

/-- The value of a slot, if it has one that is not empty. -/
def Variables.slot? (values : Variables) (key : SlotKey) : Option String :=
  values.filled? key.id

/-- The fallback of a slot, unless it is filled. -/
def Variables.fallback? (values : Variables) (key : SlotKey) (kind : FallbackKind) :
    Option Fallback :=
  match values.slot? key with
  | some _ => none
  | none => some ⟨key.id, kind⟩

/-- The parameter of a placeholder: the value of its slot, or else the placeholder itself. -/
def Placeholder.parameter (values : Variables) (key : String → SlotKey) (p : Placeholder) :
    Parameter :=
  .text ((values.slot? (key p.name)).getD p.raw) p.parameterName?

/-- The fragment of a text: one parameter for each distinct placeholder. -/
def Fragment.ofText (values : Variables) (kind : ComponentKind) (key : String → SlotKey)
    (text : String) : Fragment :=
  match Placeholder.all text with
  | [] => .empty
  | ps =>
    ⟨[⟨kind, none, none, ps.map (Placeholder.parameter values key)⟩],
     ps.filterMap fun p => values.fallback? (key p.name) .rawToken⟩

/-! ## Components -/

/-- The fragment of a body. -/
def Body.fragment (values : Variables) (body : Body) : Fragment :=
  .ofText values .body .body (body.text.getD "")

/-- The fragment of a header. One with media is left out when its slot is not filled. -/
def Header.fragment (values : Variables) : Header → Fragment
  | .text header => .ofText values .header .header header.text
  | .media format _ =>
    match values.slot? .headerMedia with
    | some link => ⟨[⟨.header, none, none, [.media format link]⟩], []⟩
    | none => ⟨[], [⟨SlotKey.headerMedia.id, .mediaOmitted⟩]⟩
  | .location | .product | .unknown => .empty

/-- A compiled button with its only parameter. -/
def CompiledComponent.button (kind : ButtonKind) (index : Nat) (parameter : Parameter) :
    CompiledComponent :=
  ⟨.button, some kind, some index, [parameter]⟩

/-- The fragment of a button with a parameter: that of the first placeholder of a text. -/
def Fragment.ofButton (values : Variables) (kind : ButtonKind) (index : Nat) (text : String) :
    Fragment :=
  match Placeholder.first? text with
  | none => .empty
  | some p =>
    let key := SlotKey.buttonParam index p.name
    ⟨[.button kind index
        (.text ((values.slot? key).getD buttonParameterFallback) p.parameterName?)],
     (values.fallback? key .buttonPlaceholder).toList⟩

/-- The flow data that a button has of its own: its parts that are there and not empty. -/
def FlowButton.ownData? (flow : FlowButton) : Option Json :=
  let flowId := match flow.flowId with
    | some (.number value) => some (Json.ofNat value)
    | some (.text value) => if value = "" then none else some (.str value)
    | none => none
  let text (part : Option String) : Option Json := (part.filter (· ≠ "")).map .str
  match [("flow_id", flowId), ("flow_action", text flow.flowAction),
      ("navigate_screen", text flow.navigateScreen)].filter (·.2.isSome) with
  | [] => none
  | members => some (.object members)

/-- The flow data of a flow button. A value must be a JSON text. -/
def FlowButton.data? (values : Variables) (index : Nat) (flow : FlowButton) : Option Json :=
  match values.slot? (.flowActionData index) with
  | none => flow.ownData?
  | some text =>
    match Json.parse text with
    | .ok value => some value
    | .error _ => some (.obj [])

/-- The fallback of flow data that is not JSON. -/
def FlowButton.dataFallback? (values : Variables) (index : Nat) : Option Fallback :=
  match values.slot? (.flowActionData index) with
  | none => none
  | some text =>
    match Json.parse text with
    | .ok _ => none
    | .error _ => some ⟨(SlotKey.flowActionData index).id, .malformedFlowActionData⟩

/-- The fragment of a flow button. -/
def FlowButton.fragment (values : Variables) (index : Nat) (flow : FlowButton) : Fragment :=
  ⟨[.button .flow index
      (.action ((values.slot? (.flowToken index)).getD flowTokenFallback)
        (flow.data? values index))],
   (values.fallback? (.flowToken index) .flowToken).toList
     ++ (dataFallback? values index).toList⟩

/-- The fragment of the button at an index. -/
def Button.fragment (values : Variables) (index : Nat) : Button → Fragment
  | .url button => .ofButton values .url index button.url
  | .copyCode button =>
    .ofButton values .copyCode index (firstNonEmpty [button.text, button.url])
  | .flow button => button.fragment values index
  | _ => .empty

/-- The fragment of a component. -/
def Component.fragment (values : Variables) : Component → Fragment
  | .body b => b.fragment values
  | .header h => h.fragment values
  | .buttons bs => .join (bs.mapIdx (Button.fragment values))
  | _ => .empty

/-! ## Templates -/

/-- A payload with the fallbacks that were needed for it. -/
structure Compilation where
  payload : Payload
  fallbacks : List Fallback
  deriving DecidableEq, Repr, Inhabited

/-- The fragment of a template. -/
def Template.fragment (values : Variables) (template : Template) : Fragment :=
  .join (template.components.map (Component.fragment values))

/-- The payload of a template, with a report of the fallbacks. -/
def Template.compileWithReport (template : Template) (sender recipient : String)
    (values : Variables) : Compilation :=
  let fragment := template.fragment values
  { payload :=
      { sender, recipient, messageType := "template",
        template :=
          { name := template.name, languageCode := template.language,
            components := fragment.components } }
    fallbacks := fragment.fallbacks }

/-- The payload of a template. -/
def Template.compile (template : Template) (sender recipient : String) (values : Variables) :
    Payload :=
  (template.compileWithReport sender recipient values).payload

end Courier
