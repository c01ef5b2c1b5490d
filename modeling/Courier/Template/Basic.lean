import Courier.Json.Basic

/-!
# Message templates

A template is an approved message with blanks in it. It is a list of components: a header, a body, a
footer, a row of buttons and some rarer kinds. Which parts a component or button has depends on its
kind, so each kind is an alternative of an inductive type with its own parts.

Kinds that are not known are kept as `unknown` without their parts: a template with a new kind of
component is still a template.
-/

namespace Courier

/-- What a template is for. -/
inductive Category where
  | utility
  | marketing
  | authentication
  | unknown
  deriving DecidableEq, Repr, Inhabited

/-- Whether a template may be sent. -/
inductive Status where
  | approved
  | pending
  | rejected
  | unknown
  deriving DecidableEq, Repr, Inhabited

/-- How the placeholders of a template are addressed. -/
inductive ParameterFormat where
  | named
  | positional
  deriving DecidableEq, Repr, Inhabited

/-! ## Headers, bodies and footers -/

/-- The kinds of hosted media that a header can show. -/
inductive MediaFormat where
  | image
  | video
  | document
  | audio
  deriving DecidableEq, Repr, Inhabited

/-- A header of text. -/
structure TextHeader where
  text : String
  /-- Sample values of the placeholders. -/
  samples : Option (List String)
  deriving DecidableEq, Repr, Inhabited

/-- The header of a template. -/
inductive Header where
  | text (header : TextHeader)
  /-- Hosted media, with sample handles. -/
  | media (format : MediaFormat) (samples : Option (List String))
  | location
  | product
  | unknown
  deriving DecidableEq, Repr, Inhabited

/-- The format of a header that shows media. -/
def Header.mediaFormat? : Header → Option MediaFormat
  | .media format _ => some format
  | _ => none

/-- The sample value of a named placeholder. -/
structure NamedSample where
  name : String
  value : String
  deriving DecidableEq, Repr, Inhabited

/-- The sample values of a body. -/
structure BodySamples where
  /-- Rows of values for the numbered placeholders. -/
  rows : List (List String)
  named : List NamedSample
  deriving DecidableEq, Repr, Inhabited

/-- The body of a template. That of an authentication template has no text of its own. -/
structure Body where
  text : Option String
  addSecurityRecommendation : Option Bool
  samples : Option BodySamples
  deriving DecidableEq, Repr, Inhabited

/-- The sample value of the placeholder with a number, counted from 1 through all rows; an empty
value is none. -/
def Body.sampleAt? (body : Body) (position : Nat) : Option String :=
  match body.samples, position with
  | some samples, index + 1 => samples.rows.flatten[index]?.filter (· ≠ "")
  | _, _ => none

/-- The footer of a template. -/
structure Footer where
  text : Option String
  codeExpirationMinutes : Option Nat
  deriving DecidableEq, Repr, Inhabited

/-- An offer that ends at a given time. -/
structure LimitedTimeOffer where
  text : String
  hasExpiration : Option Bool
  deriving DecidableEq, Repr, Inhabited

/-! ## Buttons -/

/-- A button that opens a page. -/
structure UrlButton where
  text : String
  url : String
  samples : List String
  deriving DecidableEq, Repr, Inhabited

/-- A button that calls a number. -/
structure PhoneNumberButton where
  text : String
  phoneNumber : String
  deriving DecidableEq, Repr, Inhabited

/-- The kinds of button that have nothing but a text. -/
inductive LabelKind where
  | quickReply
  | spm
  | catalog
  | mpm
  deriving DecidableEq, Repr, Inhabited

/-- A button that copies a code. -/
structure CopyCodeButton where
  text : Option String
  url : Option String
  /-- A sample code, or several of them. -/
  sample : Option Json
  deriving DecidableEq, Repr, Inhabited

/-- The id of a flow, as a number or as a text. -/
inductive FlowId where
  | number (value : Nat)
  | text (value : String)
  deriving DecidableEq, Repr, Inhabited

/-- A button that starts a flow. -/
structure FlowButton where
  text : String
  flowId : Option FlowId
  flowAction : Option String
  navigateScreen : Option String
  deriving DecidableEq, Repr, Inhabited

/-- An app that may take a one-time password by itself. -/
structure SupportedApp where
  packageName : String
  signatureHash : String
  deriving DecidableEq, Repr, Inhabited

/-- A one-time password that an app takes by itself. -/
structure AutofillOtp where
  text : Option String
  autofillText : Option String
  zeroTapTermsAccepted : Option Bool
  supportedApps : List SupportedApp
  deriving DecidableEq, Repr, Inhabited

/-- A button for a one-time password. -/
inductive OtpButton where
  | oneTap (otp : AutofillOtp)
  | zeroTap (otp : AutofillOtp)
  | copyCode (text : Option String)
  deriving DecidableEq, Repr, Inhabited

/-- A button of a template. -/
inductive Button where
  | url (button : UrlButton)
  | phoneNumber (button : PhoneNumberButton)
  | label (kind : LabelKind) (text : String)
  | copyCode (button : CopyCodeButton)
  | flow (button : FlowButton)
  | otp (button : OtpButton)
  | unknown
  deriving DecidableEq, Repr, Inhabited

/-! ## Components and templates -/

/-- A block of a template. The cards of a carousel have components of their own. -/
inductive Component where
  | header (header : Header)
  | body (body : Body)
  | footer (footer : Footer)
  | buttons (buttons : List Button)
  | carousel (cards : List (List Component))
  | limitedTimeOffer (offer : Option LimitedTimeOffer)
  | callPermissionRequest
  | unknown
  deriving Repr, Inhabited

/-- A message template. -/
structure Template where
  id : Option String
  name : String
  language : String
  category : Category
  status : Status
  /-- How many seconds a message may wait for delivery. -/
  messageSendTtlSeconds : Option Nat
  parameterFormat : Option ParameterFormat
  subCategory : Option String
  components : List Component
  deriving Repr, Inhabited

/-! ## Names -/

/-- The name of a category in documents. -/
def Category.name : Category → String
  | .utility => "UTILITY"
  | .marketing => "MARKETING"
  | .authentication => "AUTHENTICATION"
  | .unknown => "UNKNOWN"

/-- The name of a status in documents. -/
def Status.name : Status → String
  | .approved => "APPROVED"
  | .pending => "PENDING"
  | .rejected => "REJECTED"
  | .unknown => "UNKNOWN"

/-- The name that is written for a parameter format; more names are read. -/
def ParameterFormat.name : ParameterFormat → String
  | .named => "named"
  | .positional => "positional"

/-- The name of a media format in documents and labels. -/
def MediaFormat.name : MediaFormat → String
  | .image => "IMAGE"
  | .video => "VIDEO"
  | .document => "DOCUMENT"
  | .audio => "AUDIO"

/-- The name of a kind of button with nothing but a text. -/
def LabelKind.name : LabelKind → String
  | .quickReply => "QUICK_REPLY"
  | .spm => "SPM"
  | .catalog => "CATALOG"
  | .mpm => "MPM"

/-- The name of the kind of a button in documents and labels. -/
def Button.kindName : Button → String
  | .url _ => "URL"
  | .phoneNumber _ => "PHONE_NUMBER"
  | .label kind _ => kind.name
  | .copyCode _ => "COPY_CODE"
  | .flow _ => "FLOW"
  | .otp _ => "OTP"
  | .unknown => "UNKNOWN"

end Courier
