import Courier.Decode.Enumeration
import Courier.Decode.Tagged
import Courier.Template.Basic

/-!
# Template documents

The JSON form of templates. For each type the fields are listed once for reading, with the name, the
reader and the rule for a missing field, and once for writing. A field that may be missing is left
out when it has no value; lists of samples and named samples are left out when they are empty.

Components are tagged by `type`, headers in addition by `format`, one-time password buttons in
addition by `otp_type`. The components of a carousel card are read by the same decoder one level
deeper, so the decoder of components is indexed by the levels that are left, `Component.decoderAt`.
-/

namespace Courier

open Decoder

/-! ## Names of values -/

/-- The categories by name; every other name is an unknown category. -/
def Category.enumeration : Enumeration Category where
  named := [("UTILITY", .utility), ("MARKETING", .marketing), ("AUTHENTICATION", .authentication),
    ("UNKNOWN", .unknown)]
  other := some .unknown

/-- The statuses by name; every other name is an unknown status. -/
def Status.enumeration : Enumeration Status where
  named := [("APPROVED", .approved), ("PENDING", .pending), ("REJECTED", .rejected),
    ("UNKNOWN", .unknown)]
  other := some .unknown

/-- The parameter formats, in small or capital letters. -/
def ParameterFormat.enumeration : Enumeration ParameterFormat where
  named := [("NAMED", .named), ("named", .named), ("POSITIONAL", .positional),
    ("positional", .positional)]
  other := none

/-! ## Reading headers, bodies and footers -/

/-- A header of text. -/
def TextHeader.decoder : Decoder TextHeader :=
  (Fields.make TextHeader.mk
    |>.defaulted "text" string ""
    |>.optional "example" ((Fields.make id |>.defaulted "header_text" (list string) []).decoder
        "struct TextHeaderExample")).decoder
    "struct TextHeader"

/-- The sample handles of a media header. -/
def Header.mediaDecoder : Decoder (Option (List String)) :=
  (Fields.make id
    |>.optional "example" ((Fields.make id |>.defaulted "header_handle" (list string) []).decoder
        "struct MediaHeaderExample")).decoder
    "struct MediaHeader"

/-- The headers by format. -/
def Header.tagged : Tagged Header where
  noun := "internally tagged enum HeaderComponent"
  tag := "format"
  named :=
    [("TEXT", Tagged.part .text TextHeader.decoder),
     ("IMAGE", Tagged.part (.media .image) Header.mediaDecoder),
     ("VIDEO", Tagged.part (.media .video) Header.mediaDecoder),
     ("DOCUMENT", Tagged.part (.media .document) Header.mediaDecoder),
     ("AUDIO", Tagged.part (.media .audio) Header.mediaDecoder),
     ("LOCATION", Tagged.bare .location),
     ("PRODUCT", Tagged.bare .product),
     ("UNKNOWN", Tagged.bare .unknown)]
  other := some (Tagged.bare .unknown)

/-- A sample value with its name. -/
def NamedSample.decoder : Decoder NamedSample :=
  (Fields.make NamedSample.mk
    |>.required "param_name" string
    |>.required "example" string).decoder "struct NamedParamExample"

/-- The sample values of a body. -/
def BodySamples.decoder : Decoder BodySamples :=
  (Fields.make BodySamples.mk
    |>.defaulted "body_text" (list (list string)) []
    |>.defaulted "body_text_named_params" (list NamedSample.decoder) []).decoder
    "struct BodyExample"

/-- A body. -/
def Body.decoder : Decoder Body :=
  (Fields.make Body.mk
    |>.optional "text" string
    |>.optional "add_security_recommendation" bool
    |>.optional "example" BodySamples.decoder).decoder "struct BodyComponent"

/-- A footer. -/
def Footer.decoder : Decoder Footer :=
  (Fields.make Footer.mk
    |>.optional "text" string
    |>.optional "code_expiration_minutes" natural32).decoder "struct FooterComponent"

/-- The parts of a component with a limited-time offer. -/
def LimitedTimeOffer.componentDecoder : Decoder (Option LimitedTimeOffer) :=
  (Fields.make id
    |>.optional "limited_time_offer"
      ((Fields.make LimitedTimeOffer.mk
        |>.defaulted "text" string ""
        |>.optional "has_expiration" bool).decoder "struct LimitedTimeOffer")).decoder
    "struct LimitedTimeOfferComponent"

/-! ## Reading buttons -/

/-- A button that opens a page. -/
def UrlButton.decoder : Decoder UrlButton :=
  (Fields.make UrlButton.mk
    |>.defaulted "text" string ""
    |>.defaulted "url" string ""
    |>.defaulted "example" (list string) []).decoder "struct UrlButton"

/-- A button that calls a number. -/
def PhoneNumberButton.decoder : Decoder PhoneNumberButton :=
  (Fields.make PhoneNumberButton.mk
    |>.defaulted "text" string ""
    |>.defaulted "phone_number" string "").decoder "struct PhoneNumberButton"

/-- The text of a button that has nothing else. -/
def LabelKind.textDecoder : Decoder String :=
  (Fields.make id |>.defaulted "text" string "").decoder "struct TextButton"

/-- A button that copies a code. -/
def CopyCodeButton.decoder : Decoder CopyCodeButton :=
  (Fields.make CopyCodeButton.mk
    |>.optional "text" string
    |>.optional "url" string
    |>.optional "example" json).decoder "struct CopyCodeButton"

/-- A flow id: a natural number of 64 bits or a text. -/
def FlowId.decoder : Decoder FlowId :=
  whole fun
    | .num (.int i) =>
      if 0 ≤ i ∧ i < twoTo 64 then .ok (.number i.toNat) else .error (.noAlternative "FlowId")
    | .str s => .ok (.text s)
    | _ => .error (.noAlternative "FlowId")

/-- A button that starts a flow. -/
def FlowButton.decoder : Decoder FlowButton :=
  (Fields.make FlowButton.mk
    |>.defaulted "text" string ""
    |>.optional "flow_id" FlowId.decoder
    |>.optional "flow_action" string
    |>.optional "navigate_screen" string).decoder "struct FlowButton"

/-- An app that takes a one-time password by itself. -/
def SupportedApp.decoder : Decoder SupportedApp :=
  (Fields.make SupportedApp.mk
    |>.required "package_name" string
    |>.required "signature_hash" string).decoder "struct SupportedApp"

/-- A one-time password that an app takes by itself. -/
def AutofillOtp.decoder : Decoder AutofillOtp :=
  (Fields.make AutofillOtp.mk
    |>.optional "text" string
    |>.optional "autofill_text" string
    |>.optional "zero_tap_terms_accepted" bool
    |>.defaulted "supported_apps" (list SupportedApp.decoder) []).decoder "struct AutofillOtp"

/-- The buttons for one-time passwords by kind. There is no room for unknown kinds. -/
def OtpButton.tagged : Tagged OtpButton where
  noun := "internally tagged enum OtpButton"
  tag := "otp_type"
  named :=
    [("one_tap", Tagged.part .oneTap AutofillOtp.decoder),
     ("zero_tap", Tagged.part .zeroTap AutofillOtp.decoder),
     ("copy_code", Tagged.part .copyCode
       ((Fields.make id |>.optional "text" string).decoder "struct CopyCodeOtp"))]
  other := none

/-- The buttons by kind. -/
def Button.tagged : Tagged Button where
  noun := "internally tagged enum Button"
  tag := "type"
  named :=
    [("URL", Tagged.part .url UrlButton.decoder),
     ("PHONE_NUMBER", Tagged.part .phoneNumber PhoneNumberButton.decoder),
     ("QUICK_REPLY", Tagged.part (.label .quickReply) LabelKind.textDecoder),
     ("COPY_CODE", Tagged.part .copyCode CopyCodeButton.decoder),
     ("FLOW", Tagged.part .flow FlowButton.decoder),
     ("SPM", Tagged.part (.label .spm) LabelKind.textDecoder),
     ("CATALOG", Tagged.part (.label .catalog) LabelKind.textDecoder),
     ("MPM", Tagged.part (.label .mpm) LabelKind.textDecoder),
     ("OTP", Tagged.part .otp OtpButton.tagged.decoder),
     ("UNKNOWN", Tagged.bare .unknown)]
  other := some (Tagged.bare .unknown)

/-! ## Reading components and templates -/

/-- The components by kind, with the decoder of the components of carousel cards. -/
def Component.tagged (inner : Decoder Component) : Tagged Component where
  noun := "internally tagged enum TemplateComponent"
  tag := "type"
  named :=
    [("HEADER", Tagged.part .header Header.tagged.decoder),
     ("BODY", Tagged.part .body Body.decoder),
     ("FOOTER", Tagged.part .footer Footer.decoder),
     ("BUTTONS", Tagged.part .buttons
       ((Fields.make id |>.defaulted "buttons" (list Button.tagged.decoder) []).decoder
         "struct ButtonsComponent")),
     ("CAROUSEL", Tagged.part .carousel
       ((Fields.make id |>.defaulted "cards"
          (list ((Fields.make id |>.defaulted "components" (list inner) []).decoder
            "struct CarouselCard")) []).decoder "struct CarouselComponent")),
     ("LIMITED_TIME_OFFER", Tagged.part .limitedTimeOffer LimitedTimeOffer.componentDecoder),
     ("CALL_PERMISSION_REQUEST", Tagged.bare .callPermissionRequest),
     ("UNKNOWN", Tagged.bare .unknown)]
  other := some (Tagged.bare .unknown)

/-- The decoder of components that have carousels at most a number of levels deep. -/
def Component.decoderAt : Nat → Decoder Component
  | 0 => (Component.tagged (whole fun _ => .error (.missingField "type"))).decoder
  | levels + 1 => (Component.tagged (Component.decoderAt levels)).decoder

/-- The decoder of components. A value cannot hold carousels deeper than it is deep itself, nor a
text deeper than it may nest. -/
def Component.decoder : Decoder Component where
  ofJson context value := (Component.decoderAt value.depth).ofJson context value
  ofText room := (Component.decoderAt room).ofText room

/-- The decoder of templates. -/
def Template.decoder : Decoder Template :=
  (Fields.make Template.mk
    |>.optional "id" string
    |>.required "name" string
    |>.required "language" string
    |>.defaulted "category" Category.enumeration.decoder .unknown
    |>.defaulted "status" Status.enumeration.decoder .unknown
    |>.optional "message_send_ttl_seconds" natural32
    |>.optional "parameter_format" ParameterFormat.enumeration.decoder
    |>.optional "sub_category" string
    |>.defaulted "components" (list Component.decoder) []).decoder "struct MessageTemplate"

/-! ## Writing -/

/-- A list of texts as an array. -/
def Json.ofTexts (texts : List String) : Json :=
  .arr (texts.map .str)

/-- A list that is left out when it is empty. -/
def Json.unlessEmpty : List Json → Option Json
  | [] => none
  | items => some (.arr items)

/-- The members of a header. -/
def Header.members : Header → List (String × Option Json)
  | .text header =>
    [("format", some (.str "TEXT")), ("text", some (.str header.text)),
     ("example", header.samples.map fun s => .object [("header_text", some (.ofTexts s))])]
  | .media format samples =>
    [("format", some (.str format.name)),
     ("example", samples.map fun s => .object [("header_handle", some (.ofTexts s))])]
  | .location => [("format", some (.str "LOCATION"))]
  | .product => [("format", some (.str "PRODUCT"))]
  | .unknown => [("format", some (.str "UNKNOWN"))]

/-- A sample value with its name. -/
def NamedSample.toJson (sample : NamedSample) : Json :=
  .object [("param_name", some (.str sample.name)), ("example", some (.str sample.value))]

/-- The sample values of a body. -/
def BodySamples.toJson (samples : BodySamples) : Json :=
  .object [("body_text", some (.arr (samples.rows.map .ofTexts))),
    ("body_text_named_params", Json.unlessEmpty (samples.named.map NamedSample.toJson))]

/-- The members of a body. -/
def Body.members (body : Body) : List (String × Option Json) :=
  [("text", body.text.map .str),
   ("add_security_recommendation", body.addSecurityRecommendation.map .bool),
   ("example", body.samples.map BodySamples.toJson)]

/-- The members of a footer. -/
def Footer.members (footer : Footer) : List (String × Option Json) :=
  [("text", footer.text.map .str),
   ("code_expiration_minutes", footer.codeExpirationMinutes.map .ofNat)]

/-- A limited-time offer. -/
def LimitedTimeOffer.toJson (offer : LimitedTimeOffer) : Json :=
  .object [("text", some (.str offer.text)), ("has_expiration", offer.hasExpiration.map .bool)]

/-- A flow id. -/
def FlowId.toJson : FlowId → Json
  | .number value => .ofNat value
  | .text value => .str value

/-- An app that takes a one-time password by itself. -/
def SupportedApp.toJson (app : SupportedApp) : Json :=
  .object [("package_name", some (.str app.packageName)),
    ("signature_hash", some (.str app.signatureHash))]

/-- The members of a one-time password that an app takes by itself. -/
def AutofillOtp.members (otp : AutofillOtp) : List (String × Option Json) :=
  [("text", otp.text.map .str), ("autofill_text", otp.autofillText.map .str),
   ("zero_tap_terms_accepted", otp.zeroTapTermsAccepted.map .bool),
   ("supported_apps", some (.arr (otp.supportedApps.map SupportedApp.toJson)))]

/-- The members of a button for a one-time password. -/
def OtpButton.members : OtpButton → List (String × Option Json)
  | .oneTap otp => ("otp_type", some (.str "one_tap")) :: otp.members
  | .zeroTap otp => ("otp_type", some (.str "zero_tap")) :: otp.members
  | .copyCode text => [("otp_type", some (.str "copy_code")), ("text", text.map .str)]

/-- The members of a button besides its kind. -/
def Button.members : Button → List (String × Option Json)
  | .url button =>
    [("text", some (.str button.text)), ("url", some (.str button.url)),
     ("example", Json.unlessEmpty (button.samples.map .str))]
  | .phoneNumber button =>
    [("text", some (.str button.text)), ("phone_number", some (.str button.phoneNumber))]
  | .label _ text => [("text", some (.str text))]
  | .copyCode button =>
    [("text", button.text.map .str), ("url", button.url.map .str), ("example", button.sample)]
  | .flow button =>
    [("text", some (.str button.text)), ("flow_id", button.flowId.map FlowId.toJson),
     ("flow_action", button.flowAction.map .str),
     ("navigate_screen", button.navigateScreen.map .str)]
  | .otp button => button.members
  | .unknown => []

/-- A button. -/
def Button.toJson (button : Button) : Json :=
  .object (("type", some (.str button.kindName)) :: button.members)

mutual

/-- A component. -/
def Component.toJson : Component → Json
  | .header h => .object (("type", some (.str "HEADER")) :: h.members)
  | .body b => .object (("type", some (.str "BODY")) :: b.members)
  | .footer f => .object (("type", some (.str "FOOTER")) :: f.members)
  | .buttons bs =>
    .object [("type", some (.str "BUTTONS")), ("buttons", some (.arr (bs.map Button.toJson)))]
  | .carousel cards =>
    .object [("type", some (.str "CAROUSEL")), ("cards", some (.arr (Component.cardsToJson cards)))]
  | .limitedTimeOffer offer =>
    .object [("type", some (.str "LIMITED_TIME_OFFER")),
      ("limited_time_offer", offer.map LimitedTimeOffer.toJson)]
  | .callPermissionRequest => .object [("type", some (.str "CALL_PERMISSION_REQUEST"))]
  | .unknown => .object [("type", some (.str "UNKNOWN"))]

/-- The cards of a carousel. -/
def Component.cardsToJson : List (List Component) → List Json
  | [] => []
  | card :: cards =>
    .object [("components", some (.arr (Component.listToJson card)))] :: Component.cardsToJson cards

/-- The components of a template or card. -/
def Component.listToJson : List Component → List Json
  | [] => []
  | component :: components => component.toJson :: Component.listToJson components

end

/-- A template. -/
def Template.toJson (template : Template) : Json :=
  .object
    [("id", template.id.map .str),
     ("name", some (.str template.name)),
     ("language", some (.str template.language)),
     ("category", some (.str template.category.name)),
     ("status", some (.str template.status.name)),
     ("message_send_ttl_seconds", template.messageSendTtlSeconds.map .ofNat),
     ("parameter_format", template.parameterFormat.map fun format => .str format.name),
     ("sub_category", template.subCategory.map .str),
     ("components", some (.arr (Component.listToJson template.components)))]

end Courier
