import Courier.Proofs.Decode.Flattened
import Courier.Proofs.Http.Handling
import Courier.Proofs.Json.RoundTrip

/-!
# Asking about a template

For a template one can ask for its slots or for a payload. Such a query is written together with the
source of the template, in one object, and the service reads back what was written
(`Request.Asks.answerAt_eq`), however the text orders the members of its objects. The answer takes
from the source no more than the template that it gives (`TemplateQuery.answer_congr`).
-/

namespace Courier

/-! ## Texts of values -/

/-- A value is written in a text: no object of the tree has a key twice, and with the members sorted
the tree is the value. -/
def Json.WrittenIn (value : Json) (text : String) : Prop :=
  ∃ tree, Scan.document (Scan.tree Scan.maxDepth) text = .ok tree ∧ tree.DistinctKeys ∧
    tree.normalize = value

/-- A value of integers is written in its own text, if it does not nest too deep. -/
theorem Json.writtenIn_text {value : Json} (hvalue : value.IsValue) (hintegral : value.Integral)
    (hdepth : value.depth ≤ Scan.maxDepth) : value.WrittenIn value.text := by
  have hkeys : value.DistinctKeys := by
    have hnormal := Json.distinctKeys_normalize value
    rwa [hvalue] at hnormal
  exact ⟨value, Scan.document_text hintegral hdepth, hkeys, hvalue⟩

/-- What is restored from a value is read from every text in which the value is written. -/
theorem Decoder.Restores.parse_eq_ok {α : Type} {d : Decoder α} {value : Json} {a : α}
    (h : d.Restores value a) (hagrees : d.Agrees) (hsteady : d.Steady) {text : String}
    (htext : value.WrittenIn text) : d.parse text = .ok a := by
  obtain ⟨tree, htree, hkeys, rfl⟩ := htext
  rw [← toOption_eq_some_iff, hagrees.toOption_parse htree, run, ← hsteady .plain hkeys,
    h .plain]
  rfl

/-- A value is read from every text in which it is written. -/
theorem Json.WrittenIn.parse_json {value : Json} {text : String} (h : value.WrittenIn text) :
    Decoder.json.parse text = .ok value := by
  have hvalue : value.IsValue := by
    obtain ⟨tree, -, -, rfl⟩ := h
    exact Json.isValue_normalize tree
  exact (Decoder.restores_json hvalue).parse_eq_ok Decoder.agrees_json Decoder.steady_json h

/-- The fields of a reference to a template. -/
def TemplateKey.fields : Fields TemplateKey :=
  Fields.make TemplateKey.mk
    |>.required "name" Decoder.string
    |>.required "language" Decoder.string

/-- A key as a reference to a template. -/
def TemplateKey.toJson (key : TemplateKey) : Json :=
  .object [("name", some (.str key.name)), ("language", some (.str key.language))]

namespace Http

open Decoder

/-! ## Sources -/

namespace TemplateSource

/-- The template itself. -/
def ofDocument (document : Json) : TemplateSource :=
  ⟨some document, none⟩

/-- A reference to a template of the catalog. -/
def ofKey (key : TemplateKey) : TemplateSource :=
  ⟨none, some key⟩

@[simp] theorem resolve_ofDocument (document : Json) (catalog : Catalog) :
    (ofDocument document).resolve catalog = (Template.ofJson document).mapError .malformed := rfl

@[simp] theorem resolve_ofKey (key : TemplateKey) (catalog : Catalog) :
    (ofKey key).resolve catalog = (catalog.get key).mapError .unknown := rfl

/-- The members with the source in an object. -/
def members (source : TemplateSource) : List (String × Option Json) :=
  [("template", source.document), ("template_ref", source.reference.map TemplateKey.toJson)]

/-- A document that can be told from a missing one. -/
def Proper (source : TemplateSource) : Prop :=
  ∀ document, source.document = some document → document.IsValue ∧ document ≠ .null

theorem proper_ofKey (key : TemplateKey) : (ofKey key).Proper := by
  intro document hmem
  cases hmem

theorem steady_fields : fields.Every Decoder.Steady := by
  have hkey : TemplateKey.fields.Every Decoder.Steady := ⟨⟨trivial, steady_string⟩, steady_string⟩
  exact ⟨⟨trivial, steady_json.optional⟩, (hkey.steady (by decide) _).optional⟩

/-- The fields of a source find what was written for it. -/
theorem finds_fields {source : TemplateSource} (h : source.Proper)
    {lookup : String → Option Json} (hdocument : lookup "template" = source.document)
    (hreference : lookup "template_ref" = source.reference.map TemplateKey.toJson) :
    fields.Finds lookup source := by
  have hkey (key : TemplateKey) : TemplateKey.fields.Finds (fun name => (Assoc.find? name
      [("name", some (.str key.name)), ("language", some (.str key.language))]).join) key :=
    ((Fields.finds_make _).string rfl).string rfl
  have hkept : source.document.filter (· ≠ .null) = source.document := by
    cases hdocument : source.document with
    | none => rfl
    | some document => simpa using (h document hdocument).2
  have hfound : (Fields.make TemplateSource.mk |>.optional "template" json).Finds lookup
      (TemplateSource.mk source.document) := by
    -- null would be read as a missing document
    rw [← hkept]
    exact (Fields.finds_make _).optionalJson hdocument fun document hmem => (h document hmem).1
  refine hfound.optional hreference fun key _ => Restores.optional ?_ nofun
  exact Fields.restores_object (by decide) rfl (hkey key) _

end TemplateSource

/-- The fields of a request for a payload, without those of its source. -/
def CompileRequest.fields : Fields CompileRequest :=
  Fields.make CompileRequest.mk
    |>.required "from" string
    |>.required "to" string
    |>.defaulted "variables" object []

theorem CompileRequest.agrees_fields : CompileRequest.fields.Every Decoder.Agrees :=
  ⟨⟨⟨trivial, agrees_string⟩, agrees_string⟩, agrees_object⟩

/-! ## Queries -/

/-- What can be asked about a template. -/
inductive TemplateQuery where
  /-- The slots. -/
  | slots
  /-- A payload. -/
  | compile (sender recipient : String) (values : Option (List (String × Json)))

namespace TemplateQuery

variable {source source' : TemplateSource} {app : App} {request : Request} {limit : Nat}

/-- The address of a query. -/
def route : TemplateQuery → Route
  | .slots => .slots
  | .compile .. => .compile

/-- A query and the source of the template as one object. -/
def toJson (source : TemplateSource) : TemplateQuery → Json
  | .slots => .object source.members
  | .compile sender recipient values => .object
    ([("from", some (.str sender)), ("to", some (.str recipient)), ("variables", values.map .obj)]
      ++ source.members)

/-- The values of a query as they are read. -/
def readValues (values : Option (List (String × Json))) : List (String × Json) :=
  values.elim [] fun members => Assoc.sort (Json.normalizeMembers members)

/-- The answer to a query, and the state behind it. -/
def answer (app : App) (source : TemplateSource) : TemplateQuery → Response × App
  | .slots => app.extractSlots source
  | .compile sender recipient values =>
    app.compileMessage ⟨sender, recipient, readValues values⟩ source

/-- Two sources of one template have the same answers. -/
theorem answer_congr (query : TemplateQuery)
    (h : source.resolve app.catalog = source'.resolve app.catalog) :
    query.answer app source = query.answer app source' := by
  cases query with
  | slots =>
    rw [answer, answer, App.extractSlots, App.extractSlots, h]
  | compile sender recipient values =>
    rw [answer, answer, App.compileMessage, App.compileMessage, h]

/-! ## Reading queries -/

/-- A query for slots is read as its source. -/
theorem parse_slots (hsource : source.Proper) {text : String}
    (htext : (TemplateQuery.slots.toJson source).WrittenIn text) :
    slotsRequest.parse text = .ok source := by
  have hagrees : (Fields.make ()).Every Decoder.Agrees := trivial
  have hsteady : (Fields.make ()).Every Decoder.Steady := trivial
  have hnames : ((Fields.make ()).names ++ TemplateSource.fields.names).Nodup := by decide
  have hrestores : slotsRequest.Restores (TemplateQuery.slots.toJson source) source := by
    refine Restores.map Prod.snd (Fields.restores_flattened hnames ?_ (Fields.finds_make ())
      (TemplateSource.finds_fields hsource rfl rfl) _)
    simp [TemplateSource.members]
  refine hrestores.parse_eq_ok (.map _ (hagrees.agrees_flattened _ _)) ?_ htext
  exact .map _ (hsteady.steady_flattened TemplateSource.steady_fields hnames _)

/-- A query for a payload is read as a request for it and its source. -/
theorem parse_compile (hsource : source.Proper) {sender recipient text : String}
    {values : Option (List (String × Json))}
    (htext : ((TemplateQuery.compile sender recipient values).toJson source).WrittenIn text) :
    compileRequest.parse text = .ok (⟨sender, recipient, readValues values⟩, source) := by
  have hagrees := CompileRequest.agrees_fields
  have hsteady : CompileRequest.fields.Every Decoder.Steady :=
    ⟨⟨⟨trivial, steady_string⟩, steady_string⟩, steady_object⟩
  have hnames : (CompileRequest.fields.names ++ TemplateSource.fields.names).Nodup := by decide
  refine Restores.parse_eq_ok ?_ (hagrees.agrees_flattened _ _)
    (hsteady.steady_flattened TemplateSource.steady_fields hnames _) htext
  refine Fields.restores_flattened hnames (by simp [TemplateSource.members]) ?_
    (TemplateSource.finds_fields hsource rfl rfl) _
  cases values with
  | none => exact (((Fields.finds_make _).string rfl).string rfl).absent rfl []
  | some members =>
    exact (((Fields.finds_make _).string rfl).string rfl).defaulted rfl (restores_object members)

end TemplateQuery

/-! ## Asking -/

/-- A request asks a query about the template of a source. -/
structure Request.Asks (request : Request) (query : TemplateQuery) (source : TemplateSource) :
    Prop where
  method : request.method = "POST"
  route : Route.ofRequest request = some query.route
  body : (query.toJson source).WrittenIn request.body.text

/-- The request for a query. -/
def TemplateQuery.request (query : TemplateQuery) (source : TemplateSource) : Request where
  method := "POST"
  target := String.ofList query.route.path
  headers := [("content-type", "application/json")]
  body := (query.toJson source).text

/-- A query of integers is asked by its request. -/
theorem TemplateQuery.asks_request {query : TemplateQuery} {source : TemplateSource}
    (hvalue : (query.toJson source).IsValue) (hintegral : (query.toJson source).Integral)
    (hdepth : (query.toJson source).depth ≤ Scan.maxDepth) :
    (query.request source).Asks query source where
  method := rfl
  route := by
    cases query with
    | slots =>
      show (pathOf? (String.ofList Route.slots.path)).bind Route.ofPath = some .slots
      decide
    | compile =>
      show (pathOf? (String.ofList Route.compile.path)).bind Route.ofPath = some .compile
      decide
  body := Json.writtenIn_text hvalue hintegral hdepth

namespace Request.Asks

variable {request : Request} {query : TemplateQuery} {source : TemplateSource} {app : App}
  {limit : Nat}

/-- **A query is answered**, if the headers announce JSON and the body is not too large. -/
theorem answerAt_eq (h : request.Asks query source) (hsource : source.Proper) :
    app.answerAt request limit query.route
      = if request.headers.announceJson then
          if request.body.size ≤ min limit jsonBodyLimit then query.answer app source
          else (BodyFault.tooLarge.response "", app)
        else (BodyFault.notAnnounced.response "", app) := by
  have hmethod : request.method ≠ "HEAD" := h.method.trans_ne (by decide)
  rw [App.answerAt_eq hmethod]
  cases query with
  | slots =>
    have hact : app.act? request limit .slots
        = some (app.withContent request limit slotsRequest app.extractSlots) := by
      rw [App.act?]
      exact h.method
    rw [TemplateQuery.route, hact, Option.getD_some,
      App.withContent_eq (TemplateQuery.parse_slots hsource h.body), TemplateQuery.answer]
  | compile sender recipient values =>
    have hact : app.act? request limit .compile
        = some (app.withContent request limit compileRequest fun content =>
          app.compileMessage content.1 content.2) := by
      rw [App.act?]
      exact h.method
    rw [TemplateQuery.route, hact, Option.getD_some,
      App.withContent_eq (TemplateQuery.parse_compile hsource h.body), TemplateQuery.answer]

/-- A query that is not refused for its size is answered, if the headers announce JSON. -/
theorem answerAt_of_status_ne (h : request.Asks query source) (hsource : source.Proper)
    (hstatus : (app.answerAt request limit query.route).1.status ≠ 413) :
    app.answerAt request limit query.route
      = if request.headers.announceJson then query.answer app source
        else (BodyFault.notAnnounced.response "", app) := by
  rw [h.answerAt_eq hsource] at hstatus ⊢
  by_cases hsize : request.body.size ≤ min limit jsonBodyLimit
  · rw [if_pos hsize]
  · rw [if_neg hsize] at hstatus ⊢
    split at hstatus
    · exact absurd rfl hstatus
    · rw [if_neg ‹_›, if_neg ‹_›]

/-- A query is refused for its size only if its body is larger than what may be read. -/
theorem status_handle_ne (h : request.Asks query source)
    (hlimit : App.readLimit? app.settings.server.bodyLimit request.headers = some limit)
    (hsize : request.body.size ≤ min limit jsonBodyLimit) :
    (app.handle request).1.status ≠ 413 := by
  rcases app.stops_or_letsIn request with ⟨response, hstops⟩ | ⟨limit', route, hlets⟩
  · rw [hstops.handle_eq, App.status_sent]
    -- the only gate that refuses for a size looks at the announced length
    cases hstops with
    | tooLong _ hnone =>
      rw [hlimit] at hnone
      cases hnone
    | preflight | unknown => simp
    | locked =>
      rw [App.status_withPolicy]
      exact App.status_refusal_ne _
  · obtain rfl : limit = limit' := Option.some.inj (hlimit.symm.trans hlets.limit_eq)
    obtain rfl : query.route = route := Option.some.inj (h.route.symm.trans hlets.route_eq)
    have htakes : "POST" ∈ query.route.methods := by
      cases query <;> simp [TemplateQuery.route, Route.methods]
    rw [hlets.handle_eq, App.status_sent, App.status_withPolicy, ne_eq,
      App.status_answerAt_post h.method h.route htakes]
    exact fun hlarge => Nat.not_lt.mpr hsize hlarge.2

end Request.Asks

end Http

end Courier
