import Courier.Catalog.Basic
import Courier.Http.MediaType
import Courier.Session.StatusTarget
import Courier.Template.Compile

/-!
# Contents of requests

The JSON bodies that the service takes. A body is looked at only if the headers announce JSON and it
is not too large. One that is not JSON and one that is JSON of the wrong shape are refused with
different statuses, by the first fault in the order of the text.

A body need not be UTF-8. Its bytes are read one by one, and a byte that belongs to no character is a
fault of the text wherever it is met, except in a string that is skipped. So such a body is read as a
text too, with something in the place of each such byte that is met with a fault at the same places
(`strayText`). Only the wording of that fault is another one.

Requests about a template name it in one of two ways, as a whole document or by a reference to the
catalog. The two members stand among the other members of the request, so a request is read from an
object only: members that are fields of the request itself go there, all others are set aside for
the source of the template.
-/

namespace Courier

namespace Decoder

/-- Any object, keys sorted. -/
def object : Decoder (List (String × Json)) where
  ofJson _
    | .obj members => .ok (Assoc.sort (Json.normalizeMembers members))
    | value => wrongType value "a map"
  ofText room := do
    match ← Scan.next? with
    | some '\x7b' =>
      match ← Scan.tree room with
      | .obj members => pure (Assoc.sort (Json.normalizeMembers members))
      | value => lift (wrongType value "a map")
    | _ => (scalar fun value => wrongType value "a map").ofText room

end Decoder

namespace Fields

variable {α β : Type}

/-- Reads fields from the members of an object in a text, and other fields from the members that are
none of the first. -/
def scanFlattened (room : Nat) (own : Fields α) (others : Fields β) : Scan (α × β) := do
  let (slots, reversed) ← Scan.members (fun (slots, reversed) key =>
    match own.fill (m := Scan) key
        (fun decoder => Scan.valueOf key (decoder.ofText room)) (fun misfit => Scan.misfit misfit)
        slots with
    | some filled => do
      let slots ← filled
      pure (slots, reversed)
    | none => do
      let value ← Scan.valueOf key (Scan.tree room)
      pure (slots, (key, value) :: reversed)) (own.empty, [])
  let a ← Decoder.lift (own.build slots)
  let b ← Decoder.lift (others.ofMembers .tagged reversed.reverse)
  pure (a, b)

/-- Reads fields and other fields from the members of an object. -/
def ofFlattened (context : Context) (own : Fields α) (others : Fields β)
    (members : List (String × Json)) : Except Misfit (α × β) := do
  let a ← own.ofMembers context members
  let b ← others.ofMembers .tagged (members.filter fun member => !own.names.contains member.1)
  .ok (a, b)

/-- The decoder of a record with fields of its own and fields of another record in one object. -/
def flattened (noun : String) (own : Fields α) (others : Fields β) : Decoder (α × β) where
  ofJson context
    | .obj members => own.ofFlattened context others members
    | value => Decoder.wrongType value noun
  ofText room := do
    match ← Scan.next? with
    | some '\x7b' => Scan.nested room fun room => Scan.object (own.scanFlattened room others)
    | _ => (Decoder.scalar fun value => Decoder.wrongType value noun).ofText room

end Fields

namespace Http

open Decoder

/-! ## Sources of templates -/

/-- Where a request has its template from. -/
structure TemplateSource where
  /-- A whole document. -/
  document : Option Json
  /-- A template of the catalog. -/
  reference : Option TemplateKey
  deriving DecidableEq, Repr, Inhabited

/-- The fields of a source. -/
def TemplateSource.fields : Fields TemplateSource :=
  Fields.make TemplateSource.mk
    |>.optional "template" json
    |>.optional "template_ref" ((Fields.make TemplateKey.mk
        |>.required "name" string
        |>.required "language" string).decoder "struct TemplateRef")

/-- Why a source gives no template. -/
inductive SourceError where
  /-- The document is no template. -/
  | malformed (error : TemplateError)
  /-- The catalog has no such template. -/
  | unknown (error : TemplateError)
  /-- There is neither document nor reference. -/
  | missing
  deriving DecidableEq, Repr, Inhabited

/-- The template of a source. A document comes before a reference. -/
def TemplateSource.resolve (source : TemplateSource) (catalog : Catalog) :
    Except SourceError Template :=
  match source.document, source.reference with
  | some document, _ => (Template.ofJson document).mapError .malformed
  | none, some key => (catalog.get key).mapError .unknown
  | none, none => .error .missing

/-! ## Requests -/

/-- The decoder of a request for the slots of a template. -/
def slotsRequest : Decoder TemplateSource :=
  ((Fields.make ()).flattened "struct ExtractSlotsRequest" TemplateSource.fields).map Prod.snd

/-- A request for a payload. -/
structure CompileRequest where
  sender : String
  recipient : String
  values : List (String × Json)
  deriving DecidableEq, Repr, Inhabited

/-- The decoder of a request for a payload, with its source. -/
def compileRequest : Decoder (CompileRequest × TemplateSource) :=
  (Fields.make CompileRequest.mk
    |>.required "from" string
    |>.required "to" string
    |>.defaulted "variables" object []).flattened "struct CompileTemplateRequest"
    TemplateSource.fields

/-- A request for a text message. -/
structure TextRequest where
  sender : String
  recipient : String
  body : String
  previewUrl : Bool
  deriving DecidableEq, Repr, Inhabited

/-- The decoder of a request for a text message. -/
def textRequest : Decoder TextRequest :=
  (Fields.make TextRequest.mk
    |>.required "from" string
    |>.required "to" string
    |>.required "body" string
    |>.defaulted "preview_url" bool false).decoder "struct TextMessageRequest"

/-- A request for a receipt. -/
structure StatusRequest where
  phoneNumberId : Option String
  messageId : Option String
  event : Option Json
  deriving DecidableEq, Repr, Inhabited

/-- The decoder of a request for a receipt. -/
def statusRequest : Decoder StatusRequest :=
  (Fields.make StatusRequest.mk
    |>.optional "phone_number_id" string
    |>.optional "message_id" string
    |>.optional "inbound" json).decoder "struct MessageStatusRequest"

/-! ## Bodies as texts -/

/-- What stands in a text for a byte that belongs to no character: one half of a surrogate pair
between two letters. A string that is kept can have neither, and a string that is skipped can have
both. The letter in front is wrong outside of strings and in an escape, and the letter behind keeps
the half alone. -/
def strayText : List Char :=
  ['x', '\\', 'u', 'd', '8', '0', '0', 'x']

/-- The text that a body is read as. -/
def RequestBody.text : RequestBody → String
  | .utf8 text => text
  | .bytes pieces => String.ofList (pieces.flatMap fun
    | .inl c => [c]
    | .inr _ => strayText)

@[simp] theorem RequestBody.text_utf8 (text : String) : (RequestBody.utf8 text).text = text := rfl

/-- No value begins with a stray byte. -/
theorem scalar?_stray (rest : List Char) :
    ∃ fault, Scan.scalar? (strayText ++ rest) = .error fault ∧
      fault.cause = .inText .expectedValue :=
  ⟨_, rfl, rfl⟩

/-- A string that is kept has no stray byte in it. -/
theorem stringFrom_stray (fuel : Nat) (done rest : List Char) :
    ∃ fault, Scan.stringFrom (fuel + 2) done (strayText ++ rest) = .error fault ∧
      fault.cause = .inText .missingSurrogate :=
  ⟨_, rfl, rfl⟩

/-- No escape goes on with a stray byte. -/
theorem escape_stray (rest : List Char) :
    ∃ fault, Scan.escape (strayText ++ rest) = .error fault ∧ fault.cause = .inText .badEscape :=
  ⟨_, rfl, rfl⟩

/-- In a string that is skipped a stray byte is passed over. -/
theorem ignoredStringFrom_stray (fuel : Nat) (rest : List Char) :
    Scan.ignoredStringFrom (fuel + 3) (strayText ++ rest) = Scan.ignoredStringFrom fuel rest :=
  rfl

/-! ## Taking a body -/

/-- The largest body that is ever read as JSON: two mebibytes. -/
def jsonBodyLimit : Nat := 2 * 1024 * 1024

/-- Why a body is not taken. -/
inductive BodyFault where
  /-- The headers do not announce JSON. -/
  | notAnnounced
  /-- The body is too large. -/
  | tooLarge
  /-- The body is not JSON, or JSON of the wrong shape. -/
  | unreadable (fault : Fault)
  deriving DecidableEq, Repr

/-- One step of a trail: numbers stand in brackets, and a question mark for a key that was not
read. -/
def stepText : TrailStep → String
  | .item index => "[" ++ Nat.repr index ++ "]"
  | .member key => key
  | .unread => "?"

/-- A trail, with points in front of the keys behind its first step. -/
def trailText : List TrailStep → String
  | [] => ""
  | step :: rest => stepText step ++ String.join (rest.map fun
    | .item index => stepText (.item index)
    | step => "." ++ stepText step)

/-- The wording of a fault of a body, with the trail in front if a part of it was read. -/
def faultText (body : String) (fault : Fault) : String :=
  if fault.trail.all (· = .unread) then fault.message body
  else trailText fault.trail ++ ": " ++ fault.message body

/-- The answer to a body that is not taken. -/
def BodyFault.response (body : String) : BodyFault → Response
  | .notAnnounced => .note 415 "Expected request with `Content-Type: application/json`"
  | .tooLarge => .note 413 "Failed to buffer the request body: length limit exceeded"
  | .unreadable fault =>
    match fault.cause with
    | .inText _ =>
      .note 400 ("Failed to parse the request body as JSON: " ++ faultText body fault)
    | .inShape _ =>
      .note 422
        ("Failed to deserialize the JSON body into the target type: " ++ faultText body fault)

/-- The content of a request with a JSON body of at most `limit` bytes. -/
def Request.content {α : Type} (request : Request) (limit : Nat) (decoder : Decoder α) :
    Except BodyFault α :=
  if ¬ request.headers.announceJson then .error .notAnnounced
  else if min limit jsonBodyLimit < request.body.size then .error .tooLarge
  else (decoder.parse request.body.text).mapError .unreadable

end Http

end Courier
