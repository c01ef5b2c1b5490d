import Courier.Proofs.Decode.Misshapen
import Courier.Proofs.Decode.Values
import Courier.Proofs.Http.Reference

/-!
# One source at two addresses

Slots and payloads are asked for at two addresses, and both requests say in the same two members
where the template comes from. The addresses take the source in the same way (`App.source_alike`),
apart from what they do with a document that is no template: it has no slots, and there is no
payload of it.

The two requests can differ in everything else, so the theorem is about members and not about
bodies: whatever the order of the members of a text and whatever other members there are, a request
is known by the values of a few names (`Assoc.valuesOf`).
-/

namespace Courier

/-- A value refers to a template: an object in which name and language are there once, as strings,
or an array of the two. -/
inductive Json.RefersTo : Json → TemplateKey → Prop
  | object {members : List (String × Json)} {name language : String}
    (hname : Assoc.valuesOf "name" members = [.str name])
    (hlanguage : Assoc.valuesOf "language" members = [.str language]) :
    RefersTo (.obj members) ⟨name, language⟩
  | array {name language : String} : RefersTo (.arr [.str name, .str language]) ⟨name, language⟩

namespace TemplateKey

open Decoder

/-- The fields of a reference take what refers to a template, and nothing else. -/
theorem ofJson_fields_iff {noun : String} {context : Context} {value : Json} {key : TemplateKey} :
    ((fields.decoder noun).ofJson context value).toOption = some key ↔ value.RefersTo key := by
  constructor
  · intro h
    cases value with
    | obj members =>
      have hread : (fields.ofMembers context members).toOption = some key := h
      rw [Fields.toOption_ofMembers_eq (by decide), fields, Fields.ofValues_string_iff] at hread
      obtain ⟨ofLanguage, language, hbefore, hlanguage, rfl⟩ := hread
      obtain ⟨ofName, name, hmake, hname, rfl⟩ := Fields.ofValues_string_iff.mp hbefore
      obtain rfl : TemplateKey.mk = ofName := Option.some.inj hmake
      exact .object hname hlanguage
    | arr items =>
      -- an array has an item for each field and none behind them
      obtain ⟨⟨record, rest⟩, hread, hall⟩ := bind_eq_ok_iff.mp (toOption_eq_some_iff.mp h)
      dsimp only at hall
      split at hall
      · rename_i hempty
        obtain rfl : record = key := Except.ok.inj hall
        obtain rfl : rest = [] := List.isEmpty_iff.mp hempty
        obtain ⟨ofLanguage, language, hbefore, rfl⟩ :=
          Fields.ofItems_string_iff.mp (toOption_eq_some_iff.mpr hread)
        obtain ⟨ofName, name, hmake, rfl⟩ := Fields.ofItems_string_iff.mp hbefore
        cases hmake
        exact .array
      · cases hall
    | _ => cases h
  · rintro (⟨hname, hlanguage⟩ | _)
    · show (fields.ofMembers context _).toOption = _
      rw [Fields.toOption_ofMembers_eq (by decide), fields, Fields.ofValues_string_iff]
      exact ⟨_, _, Fields.ofValues_string_iff.mpr ⟨_, _, rfl, hname, rfl⟩, hlanguage, rfl⟩
    · rfl

end TemplateKey

namespace Http

open Decoder

/-! ## Sources -/

namespace TemplateSource

variable {members : List (String × Json)} {document reference : Option Json}
  {source : TemplateSource} {key? : Option TemplateKey} {catalog : Catalog} {template : Template}

/-- The two members for the source of a template are there as given, or not there. -/
structure In (members : List (String × Json)) (document reference : Option Json) : Prop where
  document_eq : Assoc.valuesOf "template" members = document.toList
  reference_eq : Assoc.valuesOf "template_ref" members = reference.toList

/-- What a source gives: the template that its document is, and without a document the template of
the catalog that it refers to. -/
inductive Gives (catalog : Catalog) : Option Json → Option TemplateKey → Template → Prop
  | document {document : Json} {key? : Option TemplateKey} {template : Template}
    (hnull : document ≠ .null) (h : Template.ofJson document.normalize = .ok template) :
    Gives catalog (some document) key? template
  | reference {document : Option Json} {key : TemplateKey} {template : Template}
    (hnone : document = none ∨ document = some .null) (h : catalog.get key = .ok template) :
    Gives catalog document (some key) template

/-- The fields of a source take any document, and a reference that refers to a template. -/
theorem ofMembers_fields_iff (h : In members document reference) :
    (fields.ofMembers .tagged members).toOption = some source ↔
      Optionally (fun value read => value.normalize = read) document source.document ∧
        Optionally Json.RefersTo reference source.reference := by
  rw [Fields.toOption_ofMembers_eq (by decide), fields,
    Fields.ofValues_optional_iff h.reference_eq]
  constructor
  · rintro ⟨ofKey, key?, hbefore, hkey, rfl⟩
    obtain ⟨ofDocument, document?, hmake, hdocument, rfl⟩ :=
      (Fields.ofValues_optional_iff h.document_eq).mp hbefore
    obtain rfl : TemplateSource.mk = ofDocument := Option.some.inj hmake
    exact ⟨hdocument.imp fun _ _ => Option.some.inj,
      hkey.imp fun _ _ => TemplateKey.ofJson_fields_iff.mp⟩
  · rintro ⟨hdocument, hkey⟩
    refine ⟨_, _, (Fields.ofValues_optional_iff h.document_eq).mpr ⟨_, _, rfl, ?_, rfl⟩,
      hkey.imp fun _ _ => TemplateKey.ofJson_fields_iff.mpr, rfl⟩
    exact hdocument.imp fun _ _ => congrArg some

/-- The source with the document of a member, which may be null, and a key. -/
def of (document : Option Json) (key? : Option TemplateKey) : TemplateSource :=
  ⟨(document.filter (· ≠ .null)).map Json.normalize, key?⟩

theorem of_none_or_null (hnone : document = none ∨ document = some .null) :
    of document key? = ⟨none, key?⟩ := by
  rcases hnone with rfl | rfl <;> rfl

theorem of_some {inline : Json} (hnull : inline ≠ .null) :
    of (some inline) key? = ⟨some inline.normalize, key?⟩ := by
  rw [of, Option.filter_some, if_pos (decide_eq_true hnull), Option.map_some]

theorem optionally_of :
    Optionally (fun value read => value.normalize = read) document (of document key?).document := by
  cases document with
  | none => exact .absent
  | some inline =>
    by_cases hnull : inline = .null
    · subst hnull
      exact .null
    · rw [of_some hnull]
      exact .present hnull rfl

/-- The fields of a source read it from its members. -/
theorem ofMembers_fields (h : In members document reference)
    (hkey : Optionally Json.RefersTo reference key?) :
    fields.ofMembers .tagged members = .ok (of document key?) :=
  toOption_eq_some_iff.mp ((ofMembers_fields_iff h).mpr ⟨optionally_of, hkey⟩)

/-- A reference that refers to nothing is refused. -/
theorem exists_ofMembers_eq_error (h : In members document reference)
    (hkey : ∀ key?, ¬ Optionally Json.RefersTo reference key?) :
    ∃ misfit, fields.ofMembers .tagged members = .error misfit := by
  cases hread : fields.ofMembers .tagged members with
  | error misfit => exact ⟨misfit, rfl⟩
  | ok source =>
    have hsource := (ofMembers_fields_iff h).mp (toOption_eq_some_iff.mpr hread)
    exact absurd hsource.2 (hkey _)

section Parse

variable {α : Type} {own : Fields α} {a : α} {text : String}
  (hagrees : own.Every Decoder.Agrees) (hnames : (own.names ++ fields.names).Nodup)
  (htext : Scan.document (Scan.tree Scan.maxDepth) text = .ok (.obj members))
  (hown : own.ofValues .plain (Assoc.valuesOf · members) = some a)
  (h : In members document reference)
include hagrees hnames htext hown h

omit hagrees htext hown in
/-- The members of a source are left by the own fields of a request. -/
theorem in_left : In (own.left members) document reference := by
  obtain ⟨-, -, hapart⟩ := List.nodup_append.mp hnames
  have hleft {name : String} (hname : name ∈ fields.names) : name ∉ own.names :=
    fun hmem => hapart name hmem name hname rfl
  exact ⟨(Fields.valuesOf_left (hleft (by decide))).trans h.document_eq,
    (Fields.valuesOf_left (hleft (by decide))).trans h.reference_eq⟩

/-- A request with a source is read with it. -/
theorem parse_flattened (hkey : Optionally Json.RefersTo reference key?) (noun : String) :
    (own.flattened noun fields).parse text = .ok (a, of document key?) := by
  have hread : own.ofMembers .plain members = .ok a := by
    rw [← toOption_eq_some_iff, Fields.toOption_ofMembers_eq (List.nodup_append.mp hnames).1, hown]
  exact Fields.parse_flattened_eq_ok hagrees htext hread (ofMembers_fields (in_left hnames h) hkey)
    noun

/-- A request with a reference that refers to nothing has the wrong shape. -/
theorem parse_flattened_eq_error (hkey : ∀ key?, ¬ Optionally Json.RefersTo reference key?)
    (noun : String) : ∃ fault misfit, (own.flattened noun fields).parse text = .error fault ∧
      fault.cause = .inShape misfit := by
  have hread : own.ofMembers .plain members = .ok a := by
    rw [← toOption_eq_some_iff, Fields.toOption_ofMembers_eq (List.nodup_append.mp hnames).1, hown]
  obtain ⟨misfit, hmisfit⟩ := exists_ofMembers_eq_error (in_left hnames h) hkey
  obtain ⟨fault, hfault, hcause⟩ :=
    Fields.parse_flattened_eq_error hagrees htext hread hmisfit noun
  exact ⟨fault, misfit, hfault, hcause⟩

end Parse

/-! ## Resolving -/

theorem resolve_of_document {inline : Json} (hnull : inline ≠ .null) :
    (of (some inline) key?).resolve catalog
      = (Template.ofJson inline.normalize).mapError .malformed := by
  rw [of_some hnull, resolve]

/-- A source resolves to the template that it gives, and to no other. -/
theorem resolve_eq_ok_iff :
    (of document key?).resolve catalog = .ok template ↔ Gives catalog document key? template := by
  constructor
  · intro h
    -- with a document the reference is not looked up at all
    by_cases hnone : document = none ∨ document = some .null
    · rw [of_none_or_null hnone] at h
      cases key? with
      | none => cases h
      | some key => exact .reference hnone (mapError_eq_ok_iff.mp h)
    · obtain ⟨hsome, hnull⟩ := not_or.mp hnone
      obtain ⟨inline, rfl⟩ := Option.ne_none_iff_exists'.mp hsome
      have hinline : inline ≠ .null := fun heq => hnull (congrArg some heq)
      rw [resolve_of_document hinline] at h
      exact .document hinline (mapError_eq_ok_iff.mp h)
  · intro h
    cases h with
    | document hnull h =>
      rw [resolve_of_document hnull]
      exact mapError_eq_ok_iff.mpr h
    | reference hnone h =>
      rw [of_none_or_null hnone]
      exact mapError_eq_ok_iff.mpr h

/-- A source resolves to a template, or its document is none, or there is no document and the
catalog has nothing for it either. -/
theorem resolve_cases (catalog : Catalog) (document : Option Json) (key? : Option TemplateKey) :
    (∃ template, (of document key?).resolve catalog = .ok template) ∨
    (∃ inline reason, document = some inline ∧ inline ≠ .null ∧
      Template.ofJson inline.normalize = .error (.invalidTemplate reason) ∧
      (of document key?).resolve catalog = .error (.malformed (.invalidTemplate reason))) ∨
    (document = none ∨ document = some .null) ∧
      (key? = none ∧ (of document key?).resolve catalog = .error .missing ∨
        ∃ key text, key? = some key ∧
          (of document key?).resolve catalog = .error (.unknown (.notFound text))) := by
  -- the reference counts only if there is no document
  by_cases hnone : document = none ∨ document = some .null
  · rw [of_none_or_null hnone]
    cases key? with
    | none => exact .inr (.inr ⟨hnone, .inl ⟨rfl, rfl⟩⟩)
    | some key =>
      have hresolve := resolve_ofKey key catalog
      cases hget : catalog.get key with
      | ok template =>
        rw [hget] at hresolve
        exact .inl ⟨template, hresolve⟩
      | error error =>
        rw [hget] at hresolve
        obtain rfl : error = .notFound key.text := by
          rw [Catalog.get] at hget
          split at hget <;> cases hget
          rfl
        exact .inr (.inr ⟨hnone, .inr ⟨key, _, rfl, hresolve⟩⟩)
  · obtain ⟨hsome, hnull⟩ := not_or.mp hnone
    obtain ⟨inline, rfl⟩ := Option.ne_none_iff_exists'.mp hsome
    have hinline : inline ≠ .null := fun h => hnull (congrArg some h)
    have hresolve := @resolve_of_document key? catalog inline hinline
    cases htemplate : Template.ofJson inline.normalize with
    | ok template =>
      rw [htemplate] at hresolve
      exact .inl ⟨template, hresolve⟩
    | error error =>
      rw [htemplate] at hresolve
      obtain ⟨reason, rfl⟩ : ∃ reason, error = .invalidTemplate reason := by
        rw [Template.ofJson] at htemplate
        cases hrun : Template.decoder.run inline.normalize with
        | ok template =>
          rw [hrun] at htemplate
          cases htemplate
        | error misfit =>
          rw [hrun] at htemplate
          cases htemplate
          exact ⟨_, rfl⟩
      exact .inr (.inl ⟨inline, reason, rfl, hinline, htemplate, hresolve⟩)

end TemplateSource

/-! ## Requests -/

namespace App

variable {app : App} {request : Request} {route : Route} {members : List (String × Json)}

/-- A request with an object in its body is sent to an address, with the key if one is asked for,
and its headers announce JSON. -/
structure Receives (app : App) (request : Request) (route : Route)
    (members : List (String × Json)) : Prop where
  method : request.method = "POST"
  route_eq : Route.ofRequest request = some route
  no_fault : keyFault? app.settings.apiKey request.headers = none
  announced : request.headers.announceJson
  body : Scan.document (Scan.tree Scan.maxDepth) request.body.text = .ok (.obj members)

namespace Receives

variable {α : Type} {decoder : Decoder α} {action : α → Response × App}

/-- A request that is not refused for its size is let in, and its body may be read. -/
theorem exists_letsIn (h : app.Receives request route members) (htakes : "POST" ∈ route.methods)
    (hsize : (app.handle request).1.status ≠ 413) :
    ∃ limit, app.LetsIn request limit route ∧
      request.body.size ≤ min limit jsonBodyLimit := by
  rcases app.stops_or_letsIn request with ⟨response, hstops⟩ | ⟨limit, route', hlets⟩
  · rw [hstops.handle_eq, status_sent] at hsize
    -- the other gates ask for what such a request has
    cases hstops with
    | preflight hmethod => exact absurd (h.method.symm.trans hmethod) (by decide)
    | tooLong => exact absurd rfl hsize
    | unknown _ _ hroute =>
      rw [h.route_eq] at hroute
      cases hroute
    | locked _ _ _ _ hkey =>
      rw [h.no_fault] at hkey
      cases hkey
  · obtain rfl : route = route' := Option.some.inj (h.route_eq.symm.trans hlets.route_eq)
    refine ⟨limit, hlets, Nat.le_of_not_lt fun hlarge => hsize ?_⟩
    rw [hlets.handle_eq, status_sent, status_withPolicy,
      status_answerAt_post h.method h.route_eq htakes]
    exact ⟨h.announced, hlarge⟩

section Handle

variable (h : app.Receives request route members) (htakes : "POST" ∈ route.methods)
  (hact : ∀ limit, app.act? request limit route
    = some (app.withContent request limit decoder action))
  (hsize : (app.handle request).1.status ≠ 413)
include h htakes hact hsize

/-- What such a request asks for is done with the content of its body, which may be read. -/
theorem exists_handle_eq : ∃ limit, request.body.size ≤ min limit jsonBodyLimit ∧
    (app.handle request).1.status = (app.withContent request limit decoder action).1.status ∧
    (app.handle request).1.body = (app.withContent request limit decoder action).1.body := by
  obtain ⟨limit, hlets, hfits⟩ := h.exists_letsIn htakes hsize
  have hhead : request.method ≠ "HEAD" := h.method.trans_ne (by decide)
  obtain ⟨hstatus, hbody, -⟩ := hlets.handle_of_act? hhead (hact limit)
  exact ⟨limit, hfits, hstatus, hbody⟩

theorem handle_of_parse {content : α} (hparse : decoder.parse request.body.text = .ok content) :
    (app.handle request).1.status = (action content).1.status ∧
      (app.handle request).1.body = (action content).1.body := by
  obtain ⟨limit, hfits, hstatus, hbody⟩ := h.exists_handle_eq htakes hact hsize
  have hcontent : request.content limit decoder = .ok content :=
    Request.content_eq_ok_iff.mpr ⟨h.announced, hfits, hparse⟩
  rw [withContent, hcontent] at hstatus hbody
  exact ⟨hstatus, hbody⟩

/-- JSON of the wrong shape is not taken. -/
theorem status_of_parse {fault : Fault} {misfit : Misfit}
    (hparse : decoder.parse request.body.text = .error fault) (hcause : fault.cause = .inShape misfit) :
    (app.handle request).1.status = 422 := by
  obtain ⟨limit, hfits, hstatus, -⟩ := h.exists_handle_eq htakes hact hsize
  have hcontent : request.content limit decoder = .error (.unreadable fault) := by
    rw [Request.content, if_neg (not_not.mpr h.announced), if_neg (Nat.not_lt.mpr hfits), hparse]
    rfl
  rw [hstatus, withContent, hcontent]
  show (BodyFault.response request.body.text (.unreadable fault)).status = 422
  rw [BodyFault.response, hcause]
  rfl

end Handle

end Receives

/-! ## Slots -/

/-- The answer with slots. -/
def slotsReport (slots : List Slot) : Json :=
  .object [("slots", some (.arr (slots.map Slot.toJson))), ("total", some (.ofNat slots.length))]

section Slots

variable {document reference : Option Json} {key? : Option TemplateKey}

theorem act?_slots (hmethod : request.method = "POST") (limit : Nat) :
    app.act? request limit .slots
      = some (app.withContent request limit slotsRequest app.extractSlots) := by
  rw [act?]
  exact hmethod

variable (h : app.Receives request .slots members)
  (hsource : TemplateSource.In members document reference)
  (hsize : (app.handle request).1.status ≠ 413)
include h hsource hsize

theorem handle_slots (hkey : Optionally Json.RefersTo reference key?) :
    (app.handle request).1.status = (app.extractSlots (.of document key?)).1.status ∧
      (app.handle request).1.body = (app.extractSlots (.of document key?)).1.body := by
  have hagrees : (Fields.make ()).Every Decoder.Agrees := trivial
  refine h.handle_of_parse List.mem_cons_self (act?_slots h.method) hsize ?_
  rw [slotsRequest, Decoder.parse_map,
    TemplateSource.parse_flattened hagrees (by decide) h.body rfl hsource hkey]
  rfl

theorem status_slots (hkey : ∀ key?, ¬ Optionally Json.RefersTo reference key?) :
    (app.handle request).1.status = 422 := by
  have hagrees : (Fields.make ()).Every Decoder.Agrees := trivial
  obtain ⟨fault, misfit, hfault, hcause⟩ := TemplateSource.parse_flattened_eq_error hagrees
    (by decide) h.body rfl hsource hkey "struct ExtractSlotsRequest"
  refine h.status_of_parse List.mem_cons_self (act?_slots h.method) hsize ?_ hcause
  rw [slotsRequest, Decoder.parse_map, hfault]
  rfl

end Slots

/-! ## Payloads -/

/-- The answer with a payload. -/
def payloadReport (compilation : Compilation) : Json :=
  .object [("payload", some compilation.payload.toJson),
    ("fallbacks", some (.arr (compilation.fallbacks.map Fallback.toJson)))]

/-- Members that make a request for a payload valid, whatever its source is. -/
structure ForPayload (members : List (String × Json)) (sender : String) (recipient : Recipient)
    (values : Option (List (String × Json))) : Prop where
  sender_eq : Assoc.valuesOf "from" members = [.str sender]
  sender_not_blank : Text.isAllBlank sender = false
  recipient_eq : ∃ text, Assoc.valuesOf "to" members = [.str text] ∧
    Recipient.parse text = .ok recipient
  values_eq : Assoc.valuesOf "variables" members = (values.map Json.obj).toList

section Payloads

variable {document reference : Option Json} {key? : Option TemplateKey} {sender : String}
  {recipient : Recipient} {values : Option (List (String × Json))}

theorem act?_compile (hmethod : request.method = "POST") (limit : Nat) :
    app.act? request limit .compile
      = some (app.withContent request limit compileRequest fun content =>
          app.compileMessage content.1 content.2) := by
  rw [act?]
  exact hmethod

/-- The fields of a valid request are there. -/
theorem ForPayload.exists_ofValues (h : ForPayload members sender recipient values) :
    ∃ text, Recipient.parse text = .ok recipient ∧
      CompileRequest.fields.ofValues .plain (Assoc.valuesOf · members)
        = some ⟨sender, text, TemplateQuery.readValues values⟩ := by
  obtain ⟨text, hto, hrecipient⟩ := h.recipient_eq
  refine ⟨text, hrecipient, ?_⟩
  have hbefore : ((Fields.make CompileRequest.mk |>.required "from" Decoder.string
      |>.required "to" Decoder.string).ofValues .plain (Assoc.valuesOf · members))
      = some (CompileRequest.mk sender text) :=
    Fields.ofValues_string_iff.mpr
      ⟨_, _, Fields.ofValues_string_iff.mpr ⟨_, _, rfl, h.sender_eq, rfl⟩, hto, rfl⟩
  rw [CompileRequest.fields, Fields.defaulted, Fields.ofValues, hbefore, Option.bind_some,
    h.values_eq]
  cases values <;> rfl

/-- A valid request is refused for its source or answered with the payload of its template. -/
theorem compileMessage_of_valid {text : String} (hsender : Text.isAllBlank sender = false)
    (hrecipient : Recipient.parse text = .ok recipient) (values : List (String × Json))
    (source : TemplateSource) :
    (app.compileMessage ⟨sender, text, values⟩ source).1
      = match source.resolve app.catalog with
        | .error error => sourceRefusal error
        | .ok template => .json 200 (payloadReport
            (template.compileWithReport sender recipient.number (Variables.ofMembers values))) := by
  rw [compileMessage, if_neg (by simp [hsender]), hrecipient]
  dsimp only
  cases source.resolve app.catalog <;> rfl

section Handle

variable (h : app.Receives request .compile members)
  (hpayload : ForPayload members sender recipient values)
  (hsource : TemplateSource.In members document reference)
  (hsize : (app.handle request).1.status ≠ 413)
include h hpayload hsource hsize

/-- The payload is that of the source, if its reference has the right shape. -/
theorem handle_compile (hkey : Optionally Json.RefersTo reference key?) :
    ∃ text, Recipient.parse text = .ok recipient ∧
      let content : CompileRequest := ⟨sender, text, TemplateQuery.readValues values⟩
      (app.handle request).1.status = (app.compileMessage content (.of document key?)).1.status ∧
        (app.handle request).1.body = (app.compileMessage content (.of document key?)).1.body := by
  obtain ⟨text, hrecipient, hown⟩ := hpayload.exists_ofValues
  refine ⟨text, hrecipient, ?_⟩
  exact h.handle_of_parse List.mem_cons_self (act?_compile h.method) hsize
    (TemplateSource.parse_flattened CompileRequest.agrees_fields (by decide) h.body hown hsource
      hkey _)

theorem status_compile (hkey : ∀ key?, ¬ Optionally Json.RefersTo reference key?) :
    (app.handle request).1.status = 422 := by
  obtain ⟨text, -, hown⟩ := hpayload.exists_ofValues
  obtain ⟨fault, misfit, hfault, hcause⟩ := TemplateSource.parse_flattened_eq_error
    CompileRequest.agrees_fields (by decide) h.body hown hsource hkey
    "struct CompileTemplateRequest"
  exact h.status_of_parse List.mem_cons_self (act?_compile h.method) hsize hfault hcause

end Handle

end Payloads

/-! ## Both addresses -/

section Both

variable {slots compile : Request} {ofSlots ofCompile : List (String × Json)}
  {document reference : Option Json} {key? : Option TemplateKey} {sender : String}
  {recipient : Recipient} {values : Option (List (String × Json))}
  (hslots : app.Receives slots .slots ofSlots)
  (hslotsSource : TemplateSource.In ofSlots document reference)
  (hcompile : app.Receives compile .compile ofCompile)
  (hcompileSource : TemplateSource.In ofCompile document reference)
  (hpayload : ForPayload ofCompile sender recipient values)
  (hslotsSize : (app.handle slots).1.status ≠ 413)
  (hcompileSize : (app.handle compile).1.status ≠ 413)
include hslots hslotsSource hcompile hcompileSource hpayload hslotsSize hcompileSize

/-- What both addresses answer depends on what the source resolves to. -/
theorem answers_cases (hkey : Optionally Json.RefersTo reference key?) :
    let s := (app.handle slots).1
    let c := (app.handle compile).1
    (∃ template, (TemplateSource.of document key?).resolve app.catalog = .ok template ∧
      (s.status = 200 ∧ s.body = .json (slotsReport template.slots)) ∧
      c.status = 200 ∧ c.body = .json (payloadReport (template.compileWithReport sender
        recipient.number (Variables.ofMembers (TemplateQuery.readValues values))))) ∨
    (∃ inline error, document = some inline ∧ inline ≠ .null ∧
      Template.ofJson inline.normalize = .error error ∧
      (s.status = 200 ∧ s.body = .json (slotsReport [])) ∧ c.status = 422) ∨
    (document = none ∨ document = some .null) ∧
      (∀ template, (TemplateSource.of document key?).resolve app.catalog ≠ .ok template) ∧
      s.status = (key?.elim 400 fun _ => 404) ∧ c.status = s.status ∧
      ∃ error, s.body = .json error ∧ c.body = .json error := by
  intro s c
  obtain ⟨hs, hsBody⟩ := handle_slots hslots hslotsSource hslotsSize hkey
  obtain ⟨text, hrecipient, hc, hcBody⟩ :=
    handle_compile hcompile hpayload hcompileSource hcompileSize hkey
  rw [compileMessage_of_valid hpayload.sender_not_blank hrecipient] at hc hcBody
  rw [extractSlots] at hs hsBody
  rcases TemplateSource.resolve_cases app.catalog document key? with
    ⟨template, hresolve⟩ | ⟨inline, reason, hinline, hnull, hmalformed, hresolve⟩ |
      ⟨hnone, ⟨rfl, hresolve⟩ | ⟨key, text, rfl, hresolve⟩⟩
  · rw [hresolve] at hs hsBody hc hcBody
    exact .inl ⟨template, hresolve, ⟨hs, hsBody⟩, hc, hcBody⟩
  · rw [hresolve] at hs hsBody hc
    exact .inr (.inl ⟨inline, _, hinline, hnull, hmalformed, ⟨hs, hsBody⟩, hc⟩)
  all_goals
    rw [hresolve] at hs hsBody hc hcBody
    refine .inr (.inr ⟨hnone, fun template h => ?_, hs, hc.trans hs.symm, _, hsBody, hcBody⟩)
    rw [hresolve] at h
    cases h

end Both

/-- **A source is taken alike at both addresses.** A request for slots and a valid request for a
payload come with the same two members for the source of the template, and neither of them is too
large. If the member for the reference has the wrong shape, both are refused for it, with status
422. Otherwise the payload is made exactly if the source gives a template, and then the slots are
those of this template. A document that is there is taken, whatever the reference is: if it is no
template, it has no slots, and for the payload it is refused with status 422. In every other case
both requests are refused alike: without any source with status 400, and with status 404 if the
catalog has no template for the reference. -/
theorem source_alike {slots compile : Request} {ofSlots ofCompile : List (String × Json)}
    {document reference : Option Json} {sender : String} {recipient : Recipient}
    {values : Option (List (String × Json))}
    (hslots : app.Receives slots .slots ofSlots)
    (hslotsSource : TemplateSource.In ofSlots document reference)
    (hcompile : app.Receives compile .compile ofCompile)
    (hcompileSource : TemplateSource.In ofCompile document reference)
    (hpayload : ForPayload ofCompile sender recipient values)
    (hslotsSize : (app.handle slots).1.status ≠ 413)
    (hcompileSize : (app.handle compile).1.status ≠ 413) :
    let s := (app.handle slots).1
    let c := (app.handle compile).1
    ((∀ key?, ¬ Optionally Json.RefersTo reference key?) → s.status = 422 ∧ c.status = 422) ∧
    ∀ key?, Optionally Json.RefersTo reference key? →
      (∀ template, TemplateSource.Gives app.catalog document key? template →
        s.status = 200 ∧ s.body = .json (slotsReport template.slots) ∧
        c.status = 200 ∧ c.body = .json (payloadReport (template.compileWithReport sender
          recipient.number (Variables.ofMembers (TemplateQuery.readValues values))))) ∧
      (c.status = 200 → ∃ template, TemplateSource.Gives app.catalog document key? template) ∧
      (∀ inline, document = some inline → inline ≠ .null →
        s.status = 200 ∧
        s.body = .json (slotsReport
          ((Template.ofJson inline.normalize).toOption.elim [] Template.slots)) ∧
        ((∀ template, Template.ofJson inline.normalize ≠ .ok template) → c.status = 422)) ∧
      (document = none ∨ document = some .null →
        (∀ template, ¬ TemplateSource.Gives app.catalog document key? template) →
        s.status = (key?.elim 400 fun _ => 404) ∧ c.status = s.status ∧
          ∃ error, s.body = .json error ∧ c.body = .json error) := by
  intro s c
  refine ⟨fun hkey => ⟨status_slots hslots hslotsSource hslotsSize hkey,
    status_compile hcompile hpayload hcompileSource hcompileSize hkey⟩, fun key? hkey => ?_⟩
  -- both answers follow the same source, so one case split serves all parts
  have hcases := answers_cases hslots hslotsSource hcompile hcompileSource hpayload hslotsSize
    hcompileSize hkey
  simp only [TemplateSource.resolve_eq_ok_iff, ne_eq] at hcases
  rcases hcases with ⟨template, hgives, hs, hc⟩ |
    ⟨inline, error, rfl, hnull, hmalformed, hs, hc⟩ | ⟨hnone, hnothing, hs, hc, hbody⟩
  · refine ⟨fun template' hgives' => ?_, fun _ => ⟨template, hgives⟩, ?_,
      fun _ hnothing => absurd hgives (hnothing template)⟩
    · have hsame := (TemplateSource.resolve_eq_ok_iff.mpr hgives').symm.trans
        (TemplateSource.resolve_eq_ok_iff.mpr hgives)
      obtain rfl : template' = template := Except.ok.inj hsame
      exact ⟨hs.1, hs.2, hc⟩
    · rintro inline rfl hnull
      have htemplate : Template.ofJson inline.normalize = .ok template := by
        cases hgives with
        | document _ h => exact h
        | reference hnone => simp [hnull] at hnone
      rw [htemplate]
      exact ⟨hs.1, hs.2, fun h => absurd rfl (h template)⟩
  · -- a document that is no template gives nothing, whatever the reference is
    have hnothing (template : Template) :
        ¬ TemplateSource.Gives app.catalog (some inline) key? template := by
      rintro (⟨-, h⟩ | ⟨hnone, -⟩)
      · rw [hmalformed] at h
        cases h
      · simp [hnull] at hnone
    refine ⟨fun template h => absurd h (hnothing template), fun h => ?_, ?_, fun hnone => ?_⟩
    · exact absurd (hc.symm.trans h) (by decide)
    · rintro inline' hinline -
      obtain rfl : inline = inline' := Option.some.inj hinline
      rw [hmalformed]
      exact ⟨hs.1, hs.2, fun _ => hc⟩
    · simp [hnull] at hnone
  · refine ⟨fun template h => absurd h (hnothing template), fun h => ?_, ?_,
      fun _ _ => ⟨hs, hc, hbody⟩⟩
    · have hstatus : (key?.elim 400 fun _ => 404) = 200 := hs.symm.trans (hc.symm.trans h)
      cases key? <;> cases hstatus
    · rintro inline rfl hnull
      simp [hnull] at hnone

/-! ## Requests with few members -/

/-- A request that sends a text as JSON to an address. -/
def sending (route : Route) (text : String) : Request where
  method := "POST"
  target := String.ofList route.path
  headers := [("content-type", "application/json")]
  body := text

theorem ofRequest_sending_slots (text : String) :
    Route.ofRequest (sending .slots text) = some .slots := by
  show (pathOf? (String.ofList Route.slots.path)).bind Route.ofPath = some .slots
  decide

theorem ofRequest_sending_compile (text : String) :
    Route.ofRequest (sending .compile text) = some .compile := by
  show (pathOf? (String.ofList Route.compile.path)).bind Route.ofPath = some .compile
  decide

/-- An object is received where its text is sent, if nobody has to show a key. -/
theorem receives_sending {bodyLimit : Nat} (hsettings : app.settings = limitedSettings bodyLimit)
    (hroute : Route.ofRequest (sending route (Json.obj members).text) = some route)
    (hintegral : (Json.obj members).Integral) (hdepth : (Json.obj members).depth ≤ Scan.maxDepth) :
    app.Receives (sending route (Json.obj members).text) route members where
  method := rfl
  route_eq := hroute
  no_fault := by
    rw [hsettings]
    rfl
  announced := announceJson_contentType
  body := Scan.document_text hintegral hdepth

/-- A text is refused for its size if it is larger than the limit in the settings or than two
mebibytes. -/
theorem status_sending_iff {bodyLimit : Nat} {text : String}
    (hsettings : app.settings = limitedSettings bodyLimit)
    (hroute : Route.ofRequest (sending route text) = some route) (htakes : "POST" ∈ route.methods) :
    (app.handle (sending route text)).1.status = 413 ↔
      min bodyLimit jsonBodyLimit < text.utf8ByteSize := by
  have hlets : app.LetsIn (sending route text) bodyLimit route :=
    letsIn_of_settings hsettings rfl hroute rfl
  have hjson : (sending route text).headers.announceJson := announceJson_contentType
  rw [hlets.handle_eq, status_sent, status_withPolicy, status_answerAt_post rfl hroute htakes]
  simp only [hjson, true_and]
  rfl

/-- The members for a payload, apart from the source. -/
def addressed : List (String × Json) :=
  [("from", .str "a"), ("to", .str "+12345678")]

theorem forPayload_addressed {rest : List (String × Json)}
    (hrest : ∀ name ∈ ["from", "to", "variables"], Assoc.valuesOf name rest = []) :
    ForPayload (addressed ++ rest) "a" ⟨"+12345678", by decide⟩ none := by
  have hvalues {name : String} (hname : name ∈ ["from", "to", "variables"]) :
      Assoc.valuesOf name (addressed ++ rest) = Assoc.valuesOf name addressed := by
    rw [Assoc.valuesOf_append, hrest name hname, List.append_nil]
  refine ⟨(hvalues (by decide)).trans rfl, by decide, ⟨"+12345678", ?_, rfl⟩,
    (hvalues (by decide)).trans rfl⟩
  exact (hvalues (by decide)).trans rfl

/-- A document that is no template, and a reference. -/
def strayDocument : List (String × Json) :=
  [("template", .str "x"),
    ("template_ref", .obj [("name", .str "note"), ("language", .str "en")])]

/-- The service with one template in its catalog. -/
def noteApp : App :=
  { limitedApp 200 with
    catalog := (Catalog.empty 1).put
      { (default : Template) with name := "note", language := "en" } }

/-- With a document that is no template the reference does not matter: there are no slots, and the
payload is refused, even if the catalog has the template that is referred to. -/
theorem strayDocument_alike :
    let slots := sending .slots (Json.obj strayDocument).text
    let compile := sending .compile (Json.obj (addressed ++ strayDocument)).text
    let document : Option Json := some (.str "x")
    let reference : Option Json := some (.obj [("name", .str "note"), ("language", .str "en")])
    noteApp.Receives slots .slots strayDocument ∧
      TemplateSource.In strayDocument document reference ∧
      noteApp.Receives compile .compile (addressed ++ strayDocument) ∧
      TemplateSource.In (addressed ++ strayDocument) document reference ∧
      ForPayload (addressed ++ strayDocument) "a" ⟨"+12345678", by decide⟩ none ∧
      (noteApp.handle slots).1.status ≠ 413 ∧ (noteApp.handle compile).1.status ≠ 413 ∧
      Optionally Json.RefersTo reference (some ⟨"note", "en"⟩) ∧
      noteApp.catalog.contains ⟨"note", "en"⟩ ∧
      (noteApp.handle slots).1.status = 200 ∧
      (noteApp.handle slots).1.body = .json (slotsReport []) ∧
      (noteApp.handle compile).1.status = 422 := by
  intro slots compile document reference
  have hslots : noteApp.Receives slots .slots strayDocument :=
    receives_sending rfl (ofRequest_sending_slots _)
      (by simp [strayDocument, Json.Integral, Json.IntegralMembers]) (by decide)
  have hcompile : noteApp.Receives compile .compile (addressed ++ strayDocument) :=
    receives_sending rfl (ofRequest_sending_compile _)
      (by simp [addressed, strayDocument, Json.Integral, Json.IntegralMembers]) (by decide)
  have hslotsSource : TemplateSource.In strayDocument document reference := ⟨rfl, rfl⟩
  have hcompileSource : TemplateSource.In (addressed ++ strayDocument) document reference :=
    ⟨rfl, rfl⟩
  have hpayload : ForPayload (addressed ++ strayDocument) "a" ⟨"+12345678", by decide⟩ none :=
    forPayload_addressed (by decide)
  have hslotsSize : (noteApp.handle slots).1.status ≠ 413 := by
    rw [ne_eq, status_sending_iff rfl (ofRequest_sending_slots _) List.mem_cons_self]
    decide
  have hcompileSize : (noteApp.handle compile).1.status ≠ 413 := by
    rw [ne_eq, status_sending_iff rfl (ofRequest_sending_compile _) List.mem_cons_self]
    decide
  have hreference : Optionally Json.RefersTo reference (some ⟨"note", "en"⟩) :=
    .present Json.noConfusion (.object rfl rfl)
  obtain ⟨-, halike⟩ := source_alike hslots hslotsSource hcompile hcompileSource hpayload
    hslotsSize hcompileSize
  obtain ⟨-, -, hdocument, -⟩ := halike _ hreference
  obtain ⟨hstatus, hbody, hrefused⟩ := hdocument (.str "x") rfl Json.noConfusion
  have hstray : (Template.ofJson (Json.str "x").normalize).toOption = none := rfl
  rw [hstray] at hbody
  refine ⟨hslots, hslotsSource, hcompile, hcompileSource, hpayload, hslotsSize, hcompileSize,
    hreference, by decide, hstatus, hbody, hrefused fun template htemplate => ?_⟩
  rw [htemplate] at hstray
  cases hstray

/-- A request for slots with a number that is out of range. -/
def hugeDocument : Request :=
  sending .slots "\x7b\"template\":1e999\x7d"

/-- Without the exceptions the answers can differ. Where bodies may have ten bytes, a request
without a source is refused for it only if it asks for slots, since a request for a payload is too
large. And a document that is no template is refused even where slots are asked for if it cannot be
read. -/
theorem emptySource_tooLarge :
    let slots := sending .slots (Json.obj []).text
    let compile := sending .compile (Json.obj addressed).text
    (start? (limitedSettings 10) = some (limitedApp 10) ∧
      (limitedApp 10).Receives slots .slots [] ∧
      TemplateSource.In [] none none ∧
      (limitedApp 10).Receives compile .compile addressed ∧
      TemplateSource.In addressed none none ∧
      ForPayload addressed "a" ⟨"+12345678", by decide⟩ none ∧
      Optionally Json.RefersTo none none ∧
      (∀ template, ¬ TemplateSource.Gives (limitedApp 10).catalog none none template) ∧
      ((limitedApp 10).handle slots).1.status = 400 ∧
      ((limitedApp 10).handle compile).1.status = 413) ∧
    start? (limitedSettings 200) = some (limitedApp 200) ∧
      ((limitedApp 200).handle hugeDocument).1.status = 400 := by
  intro slots compile
  have hslots : (limitedApp 10).Receives slots .slots [] :=
    receives_sending rfl (ofRequest_sending_slots _)
      (by simp [Json.Integral, Json.IntegralMembers]) (by decide)
  have hcompile : (limitedApp 10).Receives compile .compile addressed :=
    receives_sending rfl (ofRequest_sending_compile _)
      (by simp [addressed, Json.Integral, Json.IntegralMembers]) (by decide)
  have hsource : TemplateSource.In [] none none := ⟨rfl, rfl⟩
  have hslotsSize : ((limitedApp 10).handle slots).1.status ≠ 413 := by
    rw [ne_eq, status_sending_iff rfl (ofRequest_sending_slots _) List.mem_cons_self]
    decide
  refine ⟨⟨rfl, hslots, hsource, hcompile, ⟨rfl, rfl⟩, forPayload_addressed (by decide), .absent,
    fun template h => ?_, ?_, ?_⟩, rfl, by decide +kernel⟩
  · cases h
  · obtain ⟨hstatus, -⟩ := handle_slots hslots hsource hslotsSize .absent
    exact hstatus.trans rfl
  · rw [status_sending_iff rfl (ofRequest_sending_compile _) List.mem_cons_self]
    decide

end App

end Http

end Courier
