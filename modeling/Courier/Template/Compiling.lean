import Courier.Template.Compile

/-!
# Compiling step by step

One walk through a template that compiles it. A step adds to what has been compiled so far: a
component to send, unless it has no parameters, or the note of a fallback. A value is looked up and
its fallback is noted in one step, so fallbacks are noted in the order in which they are used.
-/

namespace Courier

/-- A step of compiling. Its state is what has been compiled so far. -/
abbrev Compiling := StateM Fragment

namespace Compiling

/-- Notes a fallback. -/
def fallback (key : SlotKey) (kind : FallbackKind) : Compiling Unit :=
  modify fun compiled => { compiled with fallbacks := compiled.fallbacks ++ [⟨key.id, kind⟩] }

/-- Adds a component, which is that of a button or of none. Without parameters nothing is added. -/
def push (kind : ComponentKind) (button : Option (ButtonKind × Nat)) (parameters : List Parameter) :
    Compiling Unit :=
  if parameters = [] then pure ()
  else modify fun compiled =>
    { compiled with
      components :=
        compiled.components ++ [⟨kind, button.map Prod.fst, button.map Prod.snd, parameters⟩] }

variable (values : Variables)

/-- The value of a slot, or what is sent in its place, which is noted. -/
def valueOr (key : SlotKey) (kind : FallbackKind) (default : String) : Compiling String :=
  match values.slot? key with
  | some value => pure value
  | none => do
    fallback key kind
    pure default

/-- The parameters of a text: one for each distinct placeholder. -/
def textParameters (key : String → SlotKey) (text : String) : Compiling (List Parameter) :=
  (Placeholder.all text).mapM fun p => do
    let value ← valueOr values (key p.name) .rawToken p.raw
    pure (.text value p.parameterName?)

/-- Compiles a body. -/
def body (body : Body) : Compiling Unit :=
  match body.text with
  | none => pure ()
  | some text => do
    let parameters ← textParameters values .body text
    push .body none parameters

/-- Compiles a header. -/
def header : Header → Compiling Unit
  | .text header => do
    let parameters ← textParameters values .header header.text
    push .header none parameters
  | .media format _ =>
    match values.slot? .headerMedia with
    | some link => push .header none [.media format link]
    | none => fallback .headerMedia .mediaOmitted
  | .location | .product | .unknown => pure ()

/-- Compiles a button with a parameter. Only the first placeholder of its text is sent. -/
def buttonParameter (kind : ButtonKind) (index : Nat) (text : String) : Compiling Unit :=
  match Placeholder.first? text with
  | none => pure ()
  | some p => do
    let value ←
      valueOr values (.buttonParam index p.name) .buttonPlaceholder buttonParameterFallback
    push .button (some (kind, index)) [.text value p.parameterName?]

/-- The flow data that is sent with a flow button. -/
def flowData (index : Nat) (flow : FlowButton) : Compiling (Option Json) :=
  match values.slot? (.flowActionData index) with
  | none => pure flow.ownData?
  | some text =>
    match Json.parse text with
    | .ok value => pure (some value)
    | .error _ => do
      fallback (.flowActionData index) .malformedFlowActionData
      pure (some (.obj []))

/-- Compiles a flow button. -/
def flowButton (index : Nat) (flow : FlowButton) : Compiling Unit := do
  let token ← valueOr values (.flowToken index) .flowToken flowTokenFallback
  let data ← flowData values index flow
  push .button (some (.flow, index)) [.action token data]

/-- Compiles the button at an index. -/
def button (index : Nat) : Button → Compiling Unit
  | .url button => buttonParameter values .url index button.url
  | .copyCode button =>
    buttonParameter values .copyCode index (firstNonEmpty [button.text, button.url])
  | .flow button => flowButton values index button
  | _ => pure ()

/-- Compiles a component. -/
def component : Component → Compiling Unit
  | .body b => body values b
  | .header h => header values h
  | .buttons bs => bs.zipIdx.forM fun (b, index) => button values index b
  | _ => pure ()

end Compiling

/-- The payload of a template, with a report of the fallbacks, as a walk through the template
compiles it. -/
def Template.compileStepwise (template : Template) (sender recipient : String)
    (values : Variables) : Compilation :=
  let compiled := (template.components.forM (Compiling.component values)).run .empty |>.2
  { payload :=
      { sender, recipient, messageType := "template",
        template :=
          { name := template.name, languageCode := template.language,
            components := compiled.components } }
    fallbacks := compiled.fallbacks }

end Courier
