import Courier.Template.Document

/-!
# Payloads

What is sent for a template message: the template by name and language, and for each of its
components that takes values the values themselves, as parameters. `Fallback` is not sent; it tells
the caller which value was missing and what was done about it.
-/

namespace Courier

open Decoder

/-! ## Types -/

/-- The kind of a compiled component. -/
inductive ComponentKind where
  | header
  | body
  | button
  deriving DecidableEq, Repr, Inhabited

/-- The kind of a compiled button. -/
inductive ButtonKind where
  | url
  | copyCode
  | flow
  deriving DecidableEq, Repr, Inhabited

/-- A value for a template. -/
inductive Parameter where
  /-- A text, with the name of the placeholder if that is named. -/
  | text (text : String) (parameterName : Option String)
  /-- Hosted media. -/
  | media (format : MediaFormat) (link : String)
  /-- The start of a flow. -/
  | action (flowToken : String) (flowActionData : Option Json)
  deriving DecidableEq, Repr, Inhabited

/-- The values for one component. -/
structure CompiledComponent where
  kind : ComponentKind
  buttonKind : Option ButtonKind
  /-- The index of a button among the buttons of its component. -/
  index : Option Nat
  parameters : List Parameter
  deriving DecidableEq, Repr, Inhabited

/-- A template with its values. -/
structure TemplatePayload where
  name : String
  languageCode : String
  components : List CompiledComponent
  deriving DecidableEq, Repr, Inhabited

/-- A message as it is sent. -/
structure Payload where
  sender : String
  recipient : String
  messageType : String
  template : TemplatePayload
  deriving DecidableEq, Repr, Inhabited

/-- What took the place of a value that was missing or unusable. -/
inductive FallbackKind where
  /-- The placeholder itself was sent. -/
  | rawToken
  /-- A fixed button parameter was sent. -/
  | buttonPlaceholder
  /-- A fixed flow token was sent. -/
  | flowToken
  /-- Empty flow data was sent for data that was not JSON. -/
  | malformedFlowActionData
  /-- The header with media was left out. -/
  | mediaOmitted
  deriving DecidableEq, Repr, Inhabited

/-- A fallback and the slot whose value it replaced. -/
structure Fallback where
  slotId : String
  kind : FallbackKind
  deriving DecidableEq, Repr, Inhabited

/-! ## Names -/

/-- The name of a kind of component. -/
def ComponentKind.name : ComponentKind → String
  | .header => "header"
  | .body => "body"
  | .button => "button"

/-- The name of a kind of button. -/
def ButtonKind.name : ButtonKind → String
  | .url => "url"
  | .copyCode => "copy_code"
  | .flow => "flow"

/-- The name of a media format in payloads. -/
def MediaFormat.parameterName : MediaFormat → String
  | .image => "image"
  | .video => "video"
  | .document => "document"
  | .audio => "audio"

/-- The name of a kind of fallback. -/
def FallbackKind.name : FallbackKind → String
  | .rawToken => "raw_token"
  | .buttonPlaceholder => "button_placeholder"
  | .flowToken => "flow_token"
  | .malformedFlowActionData => "malformed_flow_action_data"
  | .mediaOmitted => "media_omitted"

/-- The kinds of components by name. -/
def ComponentKind.enumeration : Enumeration ComponentKind where
  named := [("header", .header), ("body", .body), ("button", .button)]
  other := none

/-- The kinds of buttons by name. -/
def ButtonKind.enumeration : Enumeration ButtonKind where
  named := [("url", .url), ("copy_code", .copyCode), ("flow", .flow)]
  other := none

/-- The kinds of fallbacks by name. -/
def FallbackKind.enumeration : Enumeration FallbackKind where
  named :=
    [("raw_token", .rawToken), ("button_placeholder", .buttonPlaceholder),
     ("flow_token", .flowToken), ("malformed_flow_action_data", .malformedFlowActionData),
     ("media_omitted", .mediaOmitted)]
  other := none

/-! ## Reading -/

/-- The part of a media parameter, under the name of its format. -/
def Parameter.mediaDecoder (format : MediaFormat) (noun : String) : Decoder Parameter :=
  (Fields.make (Parameter.media format)
    |>.required format.parameterName
      ((Fields.make id |>.required "link" string).decoder "struct MediaLink")).decoder noun

/-- The parameters by type. -/
def Parameter.tagged : Tagged Parameter where
  noun := "internally tagged enum Parameter"
  tag := "type"
  named :=
    [("text", Tagged.part id
       ((Fields.make Parameter.text
         |>.required "text" string
         |>.optional "parameter_name" string).decoder "struct variant Parameter::Text")),
     ("image", Tagged.part id (mediaDecoder .image "struct variant Parameter::Image")),
     ("video", Tagged.part id (mediaDecoder .video "struct variant Parameter::Video")),
     ("document", Tagged.part id (mediaDecoder .document "struct variant Parameter::Document")),
     ("audio", Tagged.part id (mediaDecoder .audio "struct variant Parameter::Audio")),
     ("action", Tagged.part id
       ((Fields.make id
         |>.required "action"
           ((Fields.make Parameter.action
             |>.required "flow_token" string
             |>.optional "flow_action_data" json).decoder "struct FlowAction")).decoder
         "struct variant Parameter::Action"))]
  other := none

/-- The values for one component. -/
def CompiledComponent.decoder : Decoder CompiledComponent :=
  (Fields.make CompiledComponent.mk
    |>.required "type" ComponentKind.enumeration.decoder
    |>.optional "sub_type" ButtonKind.enumeration.decoder
    |>.optional "index" count
    |>.required "parameters" (list Parameter.tagged.decoder)).decoder "struct CompiledComponent"

/-- A template with its values. -/
def TemplatePayload.decoder : Decoder TemplatePayload :=
  (Fields.make TemplatePayload.mk
    |>.required "name" string
    |>.required "lang_code" string
    |>.required "components" (list CompiledComponent.decoder)).decoder "struct TemplatePayload"

/-- A message as it is sent. -/
def Payload.decoder : Decoder Payload :=
  (Fields.make Payload.mk
    |>.required "from" string
    |>.required "to" string
    |>.required "type" string
    |>.required "template" TemplatePayload.decoder).decoder "struct OutboundPayload"

/-- A fallback. -/
def Fallback.decoder : Decoder Fallback :=
  (Fields.make Fallback.mk
    |>.required "slot_id" string
    |>.required "kind" FallbackKind.enumeration.decoder).decoder "struct Fallback"

/-! ## Writing -/

/-- A parameter. -/
def Parameter.toJson : Parameter → Json
  | .text value name =>
    .object [("type", some (.str "text")), ("text", some (.str value)),
      ("parameter_name", name.map .str)]
  | .media format link =>
    .object [("type", some (.str format.parameterName)),
      (format.parameterName, some (.object [("link", some (.str link))]))]
  | .action token data =>
    .object [("type", some (.str "action")),
      ("action", some (.object [("flow_token", some (.str token)), ("flow_action_data", data)]))]

/-- The values for one component. -/
def CompiledComponent.toJson (component : CompiledComponent) : Json :=
  .object
    [("type", some (.str component.kind.name)),
     ("sub_type", component.buttonKind.map fun kind => .str kind.name),
     ("index", component.index.map .ofNat),
     ("parameters", some (.arr (component.parameters.map Parameter.toJson)))]

/-- A template with its values. -/
def TemplatePayload.toJson (template : TemplatePayload) : Json :=
  .object
    [("name", some (.str template.name)),
     ("lang_code", some (.str template.languageCode)),
     ("components", some (.arr (template.components.map CompiledComponent.toJson)))]

/-- A message as it is sent. -/
def Payload.toJson (payload : Payload) : Json :=
  .object
    [("from", some (.str payload.sender)),
     ("to", some (.str payload.recipient)),
     ("type", some (.str payload.messageType)),
     ("template", some payload.template.toJson)]

/-- A fallback. -/
def Fallback.toJson (fallback : Fallback) : Json :=
  .object [("slot_id", some (.str fallback.slotId)), ("kind", some (.str fallback.kind.name))]

end Courier
