import Courier.Catalog.Listing
import Courier.Error
import Courier.Http.Content
import Courier.Http.Cors
import Courier.Http.Percent
import Courier.Http.Route
import Courier.Metrics
import Courier.Settings.Basic

/-!
# The service

The service as a function from a request and a state to a response and a state: `App.handle`. The
state is the catalog and the counters; the settings do not change.

A request passes four gates before an action is run, in this order: a question of a browser about
what is allowed is answered at once; a body announced to be too large is refused; the address must
be known; and behind the guarded addresses the API key must be shown. The key is asked for before
the method is looked at.
-/

namespace Courier.Http

/-- The service with its state. -/
structure App where
  settings : Settings
  policy : OriginPolicy
  catalog : Catalog
  counters : Counters
  /-- The whole seconds since the start. -/
  uptime : Nat

/-- The version that the service reports. -/
def version : String := "1.0.0"

namespace App

/-- The service at its start; none if the configured origins cannot be used. -/
def start? (settings : Settings) : Option App :=
  (OriginPolicy.ofOrigins settings.server.corsOrigins).map fun policy =>
    ⟨settings, policy, Catalog.empty settings.maxTemplates, Counters.zero, 0⟩

/-! ## Gates -/

/-- The header with the API key. -/
def keyHeader : String := "x-api-key"

/-- What is wrong with the key that headers show, for the key that is asked for. -/
def keyFault? (expected : Option String) (headers : Headers) : Option AppError :=
  match expected with
  | none => none
  | some expected =>
    match headers.text? keyHeader with
    | none => some (.auth "Missing X-API-Key header")
    | some shown => if shown = expected then none else some (.auth "Invalid API key")

/-- A number of bytes: digits, with a plus in front or not. -/
def byteCount? (text : String) : Option Nat :=
  let digits := match text.toList with
    | '+' :: rest => rest
    | cs => cs
  if digits ≠ [] ∧ digits.all Text.isAsciiDigit ∧ Text.digitsValue digits < twoTo 64 then
    some (Text.digitsValue digits)
  else none

/-- The number of bytes that headers announce. -/
def announcedLength? (headers : Headers) : Option Nat :=
  (headers.text? "content-length").bind byteCount?

/-- The number of bytes that may be read: the limit, or less if less is announced; none if more
is. -/
def readLimit? (limit : Nat) (headers : Headers) : Option Nat :=
  match announcedLength? headers with
  | none => some limit
  | some length => if limit < length then none else some length

/-! ## Actions -/

/-- The answer to an error. What goes wrong here is never internal, so the run mode does not
matter. -/
def refusal (error : AppError) : Response :=
  .json error.status (error.body true)

/-- An error of the validation class. -/
def invalid (message : String) : Response := refusal (.validation message)

/-- The answer to a blank field that must not be blank. -/
def blankField (name : String) : Response :=
  invalid ("`" ++ name ++ "` must not be empty")

/-- The error class of a source that gives no template. -/
def sourceRefusal : SourceError → Response
  | .malformed error | .unknown error => refusal (.ofTemplate error)
  | .missing => invalid "Either `template` or `template_ref` is required"

/-- Health of the service. -/
def health (app : App) : Response :=
  .json 200 (.object
    [("status", some (.str "healthy")),
     ("version", some (.str version)),
     ("uptime_seconds", some (.ofNat app.uptime)),
     ("catalog", some (.object [("templates", some (.ofNat app.catalog.count))]))])

/-- The metrics. -/
def metrics (app : App) : Response :=
  ⟨200, [("content-type", "text/plain; version=0.0.4; charset=utf-8")],
    .samples ((Counters.templatesGauge, app.catalog.count) :: app.counters.samples)⟩

/-- The short descriptions of the templates. -/
def listTemplates (app : App) : Response :=
  let options := app.catalog.options
  .json 200 (.object
    [("templates", some (.arr (options.map TemplateOption.toJson))),
     ("total", some (.ofNat options.length))])

/-- Loads a listing into the catalog. -/
def loadTemplates (app : App) (listing : Json) : Response × App :=
  match app.catalog.tryLoad listing with
  | (.ok summary, catalog) => (.json 200 summary.toJson, { app with catalog })
  | (.error error, catalog) => (refusal (.ofTemplate error), { app with catalog })

/-- The key of a template whose name and language are given as they are written in a path, or the
answer to the first of the two that stands for no text. -/
def pathKey (name language : String) : Except Response TemplateKey :=
  match Percent.decode? name, Percent.decode? language with
  | some name, some language => .ok ⟨name, language⟩
  | none, _ => .error (.note 400 "Invalid URL: Invalid UTF-8 in `name`")
  | some _, none => .error (.note 400 "Invalid URL: Invalid UTF-8 in `language`")

/-- A template of the catalog. -/
def getTemplate (app : App) (name language : String) : Response :=
  match pathKey name language with
  | .error response => response
  | .ok key =>
    match app.catalog.get key with
    | .ok template => .json 200 template.toJson
    | .error error => refusal (.ofTemplate error)

/-- Removes a template from the catalog. -/
def deleteTemplate (app : App) (name language : String) : Response × App :=
  match pathKey name language with
  | .error response => (response, app)
  | .ok key =>
    match app.catalog.tryRemove key with
    | (.ok (), catalog) => (.bare 204, { app with catalog })
    | (.error error, catalog) => (refusal (.ofTemplate error), { app with catalog })

/-- The answer with slots, which is counted. -/
def slotsAnswer (app : App) (slots : List Slot) : Response × App :=
  (.json 200 (.object
    [("slots", some (.arr (slots.map Slot.toJson))), ("total", some (.ofNat slots.length))]),
   { app with counters := app.counters.recordExtraction slots })

/-- The slots of a template. A document that is no template has none. -/
def extractSlots (app : App) (source : TemplateSource) : Response × App :=
  match source.resolve app.catalog with
  | .ok template => app.slotsAnswer template.slots
  | .error (.malformed _) => app.slotsAnswer []
  | .error error => (sourceRefusal error, app)

/-- The payload of a template. -/
def compileMessage (app : App) (request : CompileRequest) (source : TemplateSource) :
    Response × App :=
  if Text.isAllBlank request.sender then (blankField "from", app)
  else
    match Recipient.parse request.recipient with
    | .error error => (refusal (.ofMessage error), app)
    | .ok recipient =>
      match source.resolve app.catalog with
      | .error error => (sourceRefusal error, app)
      | .ok template =>
        let compilation := template.compileWithReport request.sender recipient.number
          (Variables.ofMembers request.values)
        (.json 200 (.object
          [("payload", some compilation.payload.toJson),
           ("fallbacks", some (.arr (compilation.fallbacks.map Fallback.toJson)))]),
         { app with counters := app.counters.recordCompiled compilation.fallbacks })

/-- A text message. -/
def textMessage (app : App) (request : TextRequest) : Response × App :=
  if Text.isAllBlank request.sender then (blankField "from", app)
  else if Text.isAllBlank request.body then (blankField "body", app)
  else
    match Recipient.parse request.recipient with
    | .error error => (refusal (.ofMessage error), app)
    | .ok recipient =>
      let message := TextMessage.to recipient request.sender request.body request.previewUrl
      (.json 200 message.toJson, { app with counters := app.counters.recordSession .text })

/-- A receipt, made by one of the two builders. -/
def statusMessage (app : App) (kind : SessionKind)
    (build : StatusTarget → Except MessageError StatusUpdate) (request : StatusRequest) :
    Response × App :=
  match (do
      let target ← StatusTarget.resolve request.phoneNumberId request.messageId request.event
      build target : Except MessageError StatusUpdate) with
  | .error error => (refusal (.ofMessage error), app)
  | .ok update =>
    (.json 200 update.toJson, { app with counters := app.counters.recordSession kind })

/-- Runs an action on the content of a request, or refuses the body. -/
def withContent {α : Type} (app : App) (request : Request) (limit : Nat) (decoder : Decoder α)
    (action : α → Response × App) : Response × App :=
  match request.content limit decoder with
  | .ok content => action content
  | .error fault => (fault.response request.body.text, app)

/-! ## Handling requests -/

/-- The action of an address for a method that it knows; none for another method. -/
def act? (app : App) (request : Request) (limit : Nat) (route : Route) : Option (Response × App) :=
  match route, request.method with
  | .health, "GET" => some (app.health, app)
  | .metrics, "GET" => some (app.metrics, app)
  | .templates, "GET" => some (app.listTemplates, app)
  | .templates, "POST" => some (app.withContent request limit Decoder.json app.loadTemplates)
  | .template name language, "GET" => some (app.getTemplate name language, app)
  | .template name language, "DELETE" => some (app.deleteTemplate name language)
  | .slots, "POST" => some (app.withContent request limit slotsRequest app.extractSlots)
  | .compile, "POST" =>
    some (app.withContent request limit compileRequest fun (content, source) =>
      app.compileMessage content source)
  | .text, "POST" => some (app.withContent request limit textRequest app.textMessage)
  | .read, "POST" =>
    some (app.withContent request limit statusRequest
      (app.statusMessage .read StatusTarget.markAsRead))
  | .typing, "POST" =>
    some (app.withContent request limit statusRequest
      (app.statusMessage .typing StatusTarget.showTyping))
  | _, _ => none

/-- The answer at an address: `HEAD` is answered as `GET`, and a method that the address does not
know is refused. -/
def answerAt (app : App) (request : Request) (limit : Nat) (route : Route) : Response × App :=
  let method := if request.method = "HEAD" then "GET" else request.method
  (app.act? { request with method } limit route).getD (.bare 405, app)

/-- The answer at an address to a request that has the key, or the refusal. -/
def guarded (app : App) (request : Request) (limit : Nat) (route : Route) : Response × App :=
  match if route.isGuarded then keyFault? app.settings.apiKey request.headers else none with
  | some error => (refusal error, app)
  | none => app.answerAt request limit route

/-- The answer to a request that is not a question of a browser about what is allowed. -/
def answer (app : App) (request : Request) : Response × App :=
  match readLimit? app.settings.server.bodyLimit request.headers with
  | none => (.note 413 "length limit exceeded", app)
  | some limit =>
    match Route.ofRequest request with
    | none => (.bare 404, app)
    | some route => app.guarded request limit route

/-- The answer to a question of a browser about what is allowed. -/
def preflight (app : App) (request : Request) : Response :=
  ⟨200, app.policy.preflightHeaders (request.headers.get? "origin"), .empty⟩

/-- The header with the known methods, on every answer of an address to a method it does not
know. -/
def allowHeader (request : Request) : Headers :=
  match Route.ofRequest request with
  | none => []
  | some route =>
    if route.methods.contains request.method then [] else [("allow", route.allowed)]

/-- The header with the number of bytes of a body. It is left out where the target has a path that
is no address. -/
def lengthHeader (request : Request) (body : Body) : Headers :=
  if request.path?.isSome ∧ Route.ofRequest request = none then []
  else (body.size?.map fun size => ("content-length", Nat.repr size)).toList

/-- The response with the headers about other origins. -/
def withPolicy (app : App) (request : Request) (response : Response) : Response :=
  response.withHeaders (app.policy.headers (request.headers.get? "origin"))

/-- The response as it is sent: with the methods that the address knows if the request has another
one, with the length of the body, and without the body itself if the method is `HEAD`. -/
def sent (request : Request) (response : Response) : Response :=
  let response :=
    response.withHeaders (allowHeader request ++ lengthHeader request response.body)
  if request.method = "HEAD" then response.withoutBody else response

/-- The response to a request, and the state behind it. -/
def handle (app : App) (request : Request) : Response × App :=
  if request.method = "OPTIONS" then (sent request (app.preflight request), app)
  else
    let (response, next) := app.answer request
    (sent request (app.withPolicy request response), next)

/-- The responses to requests that come one after the other. -/
def run (app : App) : List Request → List Response × App
  | [] => ([], app)
  | request :: rest =>
    let (response, next) := app.handle request
    let (responses, last) := next.run rest
    (response :: responses, last)

end App

end Courier.Http
