import Courier.Proofs.Catalog.Load
import Courier.Proofs.Decode.Image
import Courier.Proofs.Http.Query

/-!
# A template and a reference to it

A query can come with a template or with a reference to one. The two requests differ in their bodies,
and then in the lengths that they announce (`Request.SameButBody`); apart from the limits for bodies
no gate looks at these, so the answers are the same as soon as both sources give the same template
(`App.handle_eq_of_resolve_eq`). A template that was loaded is found under its key as long as no
request replaces or removes it (`App.find?_run`). So a template that was loaded once need not be sent
again (`App.inline_eq_reference`).
-/

namespace Courier.Http

/-! ## Requests with different bodies -/

/-- Two requests differ in nothing but their bodies and the lengths that they announce. -/
structure Request.SameButBody (first second : Request) : Prop where
  method : first.method = second.method
  target : first.target = second.target
  get?_eq : ∀ name, lower name ≠ "content-length" →
    first.headers.get? name = second.headers.get? name

namespace Request.SameButBody

variable {first second : Request} {app : App}

theorem text?_eq (h : first.SameButBody second) {name : String}
    (hname : lower name ≠ "content-length") :
    first.headers.text? name = second.headers.text? name := by
  rw [Headers.text?, Headers.text?, h.get?_eq name hname]

theorem path?_eq (h : first.SameButBody second) : first.path? = second.path? := by
  rw [Request.path?, Request.path?, h.target]

theorem ofRequest_eq (h : first.SameButBody second) :
    Route.ofRequest first = Route.ofRequest second := by
  rw [Route.ofRequest, Route.ofRequest, h.path?_eq]

theorem announceJson_eq (h : first.SameButBody second) :
    first.headers.announceJson = second.headers.announceJson := by
  rw [Headers.announceJson, Headers.announceJson, h.text?_eq (by decide)]

theorem keyFault?_eq (h : first.SameButBody second) (expected : Option String) :
    App.keyFault? expected first.headers = App.keyFault? expected second.headers := by
  unfold App.keyFault?
  rw [h.text?_eq (by decide)]

theorem sent_eq (h : first.SameButBody second) (response : Response) :
    App.sent first response = App.sent second response := by
  simp only [App.sent, App.allowHeader, App.lengthHeader, h.ofRequest_eq, h.path?_eq, h.method]

theorem withPolicy_eq (h : first.SameButBody second) (response : Response) :
    app.withPolicy first response = app.withPolicy second response := by
  rw [App.withPolicy, App.withPolicy, h.get?_eq "origin" (by decide)]

theorem preflight_eq (h : first.SameButBody second) :
    app.preflight first = app.preflight second := by
  rw [App.preflight, App.preflight, h.get?_eq "origin" (by decide)]

end Request.SameButBody

namespace App

variable {app : App} {request first second : Request}

/-- A request that is not refused for its size announces no more than the limit. -/
theorem exists_readLimit? (hmethod : request.method ≠ "OPTIONS")
    (h : (app.handle request).1.status ≠ 413) :
    ∃ limit, readLimit? app.settings.server.bodyLimit request.headers = some limit := by
  cases hlimit : readLimit? app.settings.server.bodyLimit request.headers with
  | some limit => exact ⟨limit, rfl⟩
  | none =>
    have hstops : app.Stops request _ := .tooLong hmethod hlimit
    rw [hstops.handle_eq, status_sent] at h
    exact absurd rfl h

/-- Requests with different bodies are handled alike, if they are answered alike where they are let
in to. -/
theorem handle_eq_of_answerAt_eq (h : first.SameButBody second) {route : Route}
    (hroute : Route.ofRequest first = some route) (hfirst : (app.handle first).1.status ≠ 413)
    (hsecond : (app.handle second).1.status ≠ 413)
    (hanswer : ∀ limit limit', (app.answerAt first limit route).1.status ≠ 413 →
      (app.answerAt second limit' route).1.status ≠ 413 →
      app.answerAt first limit route = app.answerAt second limit' route) :
    app.handle first = app.handle second := by
  by_cases hmethod : first.method = "OPTIONS"
  · have hmethod' : second.method = "OPTIONS" := by rwa [← h.method]
    rw [Stops.handle_eq (.preflight hmethod), Stops.handle_eq (.preflight hmethod'), h.sent_eq,
      h.preflight_eq]
  have hmethod' : second.method ≠ "OPTIONS" := by rwa [← h.method]
  have hroute' : Route.ofRequest second = some route := by rwa [← h.ofRequest_eq]
  obtain ⟨limit, hlimit⟩ := exists_readLimit? hmethod hfirst
  obtain ⟨limit', hlimit'⟩ := exists_readLimit? hmethod' hsecond
  -- behind the limits only the key is left, and both requests show the same
  by_cases hfault : ∃ error, route.isGuarded ∧
      keyFault? app.settings.apiKey first.headers = some error
  · obtain ⟨error, hguarded, hkey⟩ := hfault
    have hkey' : keyFault? app.settings.apiKey second.headers = some error := by
      rwa [← h.keyFault?_eq]
    rw [Stops.handle_eq (.locked hmethod hlimit hroute hguarded hkey),
      Stops.handle_eq (.locked hmethod' hlimit' hroute' hguarded hkey'), h.sent_eq, h.withPolicy_eq]
  · have hnone : route.isGuarded → keyFault? app.settings.apiKey first.headers = none := by
      intro hguarded
      refine Option.eq_none_iff_forall_ne_some.mpr fun error hkey => ?_
      exact hfault ⟨error, hguarded, hkey⟩
    have hlets : app.LetsIn first limit route := ⟨hmethod, hlimit, hroute, hnone⟩
    have hlets' : app.LetsIn second limit' route :=
      ⟨hmethod', hlimit', hroute', fun hguarded => by rw [← h.keyFault?_eq, hnone hguarded]⟩
    rw [hlets.handle_eq, status_sent, status_withPolicy] at hfirst
    rw [hlets'.handle_eq, status_sent, status_withPolicy] at hsecond
    rw [hlets.handle_eq, hlets'.handle_eq, hanswer limit limit' hfirst hsecond, h.sent_eq,
      h.withPolicy_eq]

/-- **Sources of one template are as good as each other**: a query is answered in the same way with
either, unless one of the two requests is refused for its size. -/
theorem handle_eq_of_resolve_eq {query : TemplateQuery} {source source' : TemplateSource}
    (h : first.SameButBody second) (hfirst : first.Asks query source)
    (hsecond : second.Asks query source') (hsource : source.Proper) (hsource' : source'.Proper)
    (hresolve : source.resolve app.catalog = source'.resolve app.catalog)
    (hsize : (app.handle first).1.status ≠ 413) (hsize' : (app.handle second).1.status ≠ 413) :
    app.handle first = app.handle second := by
  refine handle_eq_of_answerAt_eq h hfirst.route hsize hsize' fun limit limit' hread hread' => ?_
  rw [hfirst.answerAt_of_status_ne hsource hread, hsecond.answerAt_of_status_ne hsource' hread',
    h.announceJson_eq, query.answer_congr hresolve]

end App

/-! ## Keeping a template -/

/-- A request sends a listing with a template of a key. -/
def Request.Offers (request : Request) (key : TemplateKey) : Prop :=
  ∃ listing entries, request.Posts listing ∧ listing.Lists entries ∧
    ∃ template ∈ listedTemplates entries, template.key = key

/-- A request neither loads nor removes a template of a key: if it sends one or asks for the removal,
then the answer does not say that this was done. -/
def Request.Spares (request : Request) (key : TemplateKey) (answer : Response) : Prop :=
  (answer.status = 200 → ¬ request.Offers key) ∧ (answer.status = 204 → ¬ request.Deletes key)

namespace App

variable {app : App} {request : Request} {key : TemplateKey}

theorem find?_handle (h : request.Spares key (app.handle request).1) :
    (app.handle request).2.catalog.find? key = app.catalog.find? key := by
  obtain ⟨response, heffect, hstatus, -⟩ := app.exists_effect request
  obtain ⟨hoffers, hdeletes⟩ := h
  rw [hstatus] at hoffers hdeletes
  generalize (app.handle request).2 = next at heffect
  -- a request can change the catalog only by a listing that is loaded or by a removal
  cases heffect with
  | kept | counted => rfl
  | @loaded listing summary catalog hposts hload =>
    obtain ⟨entries, hentries, heq⟩ := Catalog.load_eq_ok_iff.mp hload
    have hcatalog : (app.catalog.loadEntries ⟨0, 0⟩ entries).2 = catalog := congrArg Prod.snd heq
    show catalog.find? key = app.catalog.find? key
    rw [← hcatalog]
    refine Catalog.find?_loadEntries _ fun template hmem hkey => ?_
    exact hoffers rfl ⟨listing, entries, hposts, listingEntries_eq_ok_iff.mp hentries, template,
      hmem, hkey⟩
  | @removed removed catalog hremoves hremove =>
    have hne : key ≠ removed := by
      rintro rfl
      exact hdeletes rfl hremoves
    exact ((Catalog.find?_of_remove hremove).2 key).trans (if_neg hne)

/-- **A template is kept** by requests that neither load nor remove one of its key. -/
theorem find?_run {requests : List Request}
    (h : ∀ step ∈ requests.zip (app.run requests).1, step.1.Spares key step.2) :
    (app.run requests).2.catalog.find? key = app.catalog.find? key := by
  induction requests generalizing app with
  | nil => rfl
  | cons request rest ih =>
    obtain ⟨hfirst, hrest⟩ := List.forall_mem_cons.mp h
    exact (ih hrest).trans (find?_handle hfirst)

end App

/-! ## Loading a template -/

/-- A response says how many entries of a listing were loaded. -/
def Response.Loaded (response : Response) (n : Nat) : Prop :=
  response.status = 200 ∧
    ∃ summary, response.body = .json summary ∧ summary.member? "loaded" = some (.ofNat n)

namespace App

variable {app : App} {request : Request}

/-- The only entry of a listing that is sent is a value. -/
theorem isValue_of_posts {v : Json} (hposts : request.Posts (.obj [("data", .arr [v])])) :
    v.IsValue := by
  have hlisting : (Json.obj [("data", .arr [v])]).IsValue :=
    (Decoder.gives_of_parse hposts.body).isValue
  simpa [Json.IsValue, Json.normalize, Json.normalizeMembers, Json.normalizeItems, Assoc.sort,
    Assoc.put] using hlisting

/-- A listing is loaded, if the headers announce JSON and the body is not too large. -/
theorem answerAt_of_posts {listing : Json} {limit : Nat} (h : request.Posts listing) :
    app.answerAt request limit .templates
      = if request.headers.announceJson then
          if request.body.size ≤ min limit jsonBodyLimit then app.loadTemplates listing
          else (BodyFault.tooLarge.response "", app)
        else (BodyFault.notAnnounced.response "", app) := by
  have hmethod : request.method ≠ "HEAD" := h.method.trans_ne (by decide)
  have hact : app.act? request limit .templates
      = some (app.withContent request limit Decoder.json app.loadTemplates) := by
    simp only [act?, h.method]
  rw [answerAt_eq hmethod, hact, Option.getD_some]
  exact withContent_eq h.body

/-- A listing that is not refused is loaded. -/
theorem load_of_handle {listing : Json} (hposts : request.Posts listing)
    (hstatus : (app.handle request).1.status = 200) :
    ∃ summary catalog, app.catalog.load listing = .ok (summary, catalog) ∧
      (app.handle request).1.body = .json summary.toJson ∧
      (app.handle request).2 = { app with catalog } := by
  have hoptions : request.method ≠ "OPTIONS" := hposts.method.trans_ne (by decide)
  have hhead : request.method ≠ "HEAD" := hposts.method.trans_ne (by decide)
  -- what is stopped at a gate has a status of at least 400
  rcases app.stops_or_letsIn request with ⟨response, hstops⟩ | ⟨limit, route, hlets⟩
  · have hfailed := hstops.le_status hoptions
    rw [hstops.handle_eq, status_sent] at hstatus
    omega
  · obtain rfl : .templates = route := Option.some.inj (hposts.route.symm.trans hlets.route_eq)
    rw [hlets.handle_eq, status_sent, status_withPolicy] at hstatus
    rw [hlets.handle_eq, body_sent hhead, body_withPolicy]
    have hanswer : app.answerAt request limit .templates = app.loadTemplates listing := by
      rw [answerAt_of_posts hposts] at hstatus ⊢
      split at hstatus
      · split at hstatus
        · rw [if_pos ‹_›, if_pos ‹_›]
        · cases hstatus
      · cases hstatus
    rw [hanswer] at hstatus ⊢
    rw [loadTemplates_eq] at hstatus ⊢
    cases hload : app.catalog.load listing with
    | ok result => exact ⟨result.1, result.2, rfl, rfl, rfl⟩
    | error error =>
      have hfailed := le_status_refusal (.ofTemplate error)
      rw [hload] at hstatus
      dsimp only at hstatus
      omega

/-- The only entry of a listing that was loaded is a template, and it is found under its key. -/
theorem find?_of_loaded {v : Json} (hposts : request.Posts (.obj [("data", .arr [v])]))
    (hloaded : (app.handle request).1.Loaded 1) :
    ∃ template, Template.ofJson v = .ok template ∧
      (app.handle request).2.catalog.find? template.key = some template := by
  obtain ⟨hstatus, value, hvalue, hcount⟩ := hloaded
  obtain ⟨summary, catalog, hload, hbody, hnext⟩ := load_of_handle hposts hstatus
  obtain ⟨entries, hentries, hresult⟩ := Catalog.load_eq_ok_iff.mp hload
  obtain rfl : [v] = entries := Except.ok.inj hentries
  -- the count in the answer is that of the summary
  have hone : summary.loaded = 1 := by
    obtain rfl : summary.toJson = value := Body.json.inj (hbody.symm.trans hvalue)
    have hmember : summary.toJson.member? "loaded" = some (.ofNat summary.loaded) :=
      Json.member?_object (by simp) "loaded"
    rw [hmember] at hcount
    have hcast : (summary.loaded : Int) = 1 := by simpa [Json.ofNat] using hcount
    omega
  rw [hnext]
  show ∃ template, _ ∧ catalog.find? template.key = some template
  rw [Catalog.loadEntries_cons] at hresult
  cases hentry : app.catalog.loadEntry v with
  | error error =>
    rw [hentry] at hresult
    cases hresult
    cases hone
  | ok next =>
    rw [hentry] at hresult
    cases hresult
    obtain ⟨template, htemplate, hupsert⟩ := bind_eq_ok_iff.mp hentry
    exact ⟨template, htemplate, (Catalog.find?_of_upsert hupsert _).trans (if_pos rfl)⟩

/-- **A template that was loaded need not be sent again.** If a listing with one entry was loaded,
then the entry is a template, and after any requests that neither load nor remove a template of its
key every query is answered to the reference as to the template itself: the responses are the same,
and so are the states behind them. Only a refusal for the size of one of the two requests, which has
status 413, makes a difference. -/
theorem inline_eq_reference {load : Request} {v : Json}
    (hposts : load.Posts (.obj [("data", .arr [v])])) (hloaded : (app.handle load).1.Loaded 1) :
    ∃ template, Template.ofJson v = .ok template ∧ ∀ later,
      let responses := ((app.handle load).2.run later).1
      let state := ((app.handle load).2.run later).2
      (∀ step ∈ later.zip responses, step.1.Spares template.key step.2) →
      ∀ query inline reference, Request.SameButBody inline reference →
        inline.Asks query (.ofDocument v) → reference.Asks query (.ofKey template.key) →
        (state.handle inline).1.status ≠ 413 → (state.handle reference).1.status ≠ 413 →
        state.handle inline = state.handle reference := by
  obtain ⟨template, htemplate, hfind⟩ := find?_of_loaded hposts hloaded
  refine ⟨template, htemplate, ?_⟩
  intro later responses state hspares query inline reference hsame hinline hreference hsize hsize'
  -- the template is still there, so both sources give the same one
  have hkept : state.catalog.find? template.key = some template := (find?_run hspares).trans hfind
  have hdocument : (TemplateSource.ofDocument v).Proper := by
    intro document hmem
    obtain rfl : v = document := Option.some.inj hmem
    refine ⟨isValue_of_posts hposts, ?_⟩
    rintro rfl
    cases htemplate
  have hkey := TemplateSource.proper_ofKey template.key
  have hresolve : (TemplateSource.ofDocument v).resolve state.catalog
      = (TemplateSource.ofKey template.key).resolve state.catalog := by
    have hget : state.catalog.get template.key = .ok template := by
      rw [Catalog.get, hkept]
    rw [TemplateSource.resolve_ofDocument, TemplateSource.resolve_ofKey, htemplate, hget]
    rfl
  exact handle_eq_of_resolve_eq hsame hinline hreference hdocument hkey hresolve hsize hsize'

/-! ## A greeting, sent and referred to -/

/-- A template that greets somebody. -/
def greeting : Json :=
  .obj [("components", .arr [.obj [("text", .str "Hello \x7b\x7b1\x7d\x7d"),
      ("type", .str "BODY")]]),
    ("language", .str "en"), ("name", .str "note")]

theorem key_greeting :
    (Template.ofJson greeting).toOption.map Template.key = some ⟨"note", "en"⟩ := by
  decide

/-- A request to load the greeting. -/
def greetingLoad : Request where
  method := "POST"
  target := "/api/v1/templates"
  headers := [("content-type", "application/json")]
  body := (Json.obj [("data", .arr [greeting])]).text

/-- The slots of the greeting are asked for with the template. -/
def greetingInline : Request :=
  TemplateQuery.slots.request (.ofDocument greeting)

/-- The slots of the greeting are asked for with a reference. -/
def greetingReference : Request :=
  TemplateQuery.slots.request (.ofKey ⟨"note", "en"⟩)

theorem posts_greetingLoad : greetingLoad.Posts (.obj [("data", .arr [greeting])]) where
  method := rfl
  route := by decide
  body := by
    refine (Json.writtenIn_text (by decide) ?_ (by decide)).parse_json
    simp [greeting, Json.Integral, Json.IntegralItems, Json.IntegralMembers]

theorem asks_greetingInline : greetingInline.Asks .slots (.ofDocument greeting) := by
  have hvalue : TemplateQuery.slots.toJson (.ofDocument greeting)
      = .obj [("template", greeting)] := rfl
  refine TemplateQuery.asks_request (by decide) ?_ (by decide)
  rw [hvalue]
  simp [greeting, Json.Integral, Json.IntegralItems, Json.IntegralMembers]

theorem asks_greetingReference : greetingReference.Asks .slots (.ofKey ⟨"note", "en"⟩) := by
  have hvalue : TemplateQuery.slots.toJson (.ofKey ⟨"note", "en"⟩)
      = .obj [("template_ref", .obj [("language", .str "en"), ("name", .str "note")])] := by
    decide
  refine TemplateQuery.asks_request (by decide) ?_ (by decide)
  rw [hvalue]
  simp [Json.Integral, Json.IntegralMembers]

theorem sameButBody_greeting : greetingInline.SameButBody greetingReference :=
  ⟨rfl, rfl, fun _ _ => rfl⟩

theorem proper_greeting : (TemplateSource.ofDocument greeting).Proper := by
  intro document hmem
  obtain rfl : greeting = document := Option.some.inj hmem
  exact ⟨by decide, by decide⟩

/-- The settings with another limit for bodies. -/
def limitedSettings (bodyLimit : Nat) : Settings :=
  { Settings.default with server := { Settings.defaultServer with bodyLimit } }

/-- The service with another limit for bodies, at its start. -/
def limitedApp (bodyLimit : Nat) : App :=
  ⟨limitedSettings bodyLimit, .any, Catalog.empty Catalog.defaultCapacity, Counters.zero, 0⟩

theorem announceJson_contentType :
    Headers.announceJson [("content-type", "application/json")] := by
  decide

section Limited

variable {bodyLimit : Nat}

/-- Nobody has to show a key, and a request that announces no length is let in. -/
theorem letsIn_of_settings {route : Route} (hsettings : app.settings = limitedSettings bodyLimit)
    (hmethod : request.method = "POST") (hroute : Route.ofRequest request = some route)
    (hheaders : request.headers = [("content-type", "application/json")]) :
    app.LetsIn request bodyLimit route := by
  have hlength : announcedLength? [("content-type", "application/json")] = none := by
    decide
  refine ⟨hmethod.trans_ne (by decide), ?_, hroute, fun _ => ?_⟩
  · rw [hsettings, hheaders, readLimit?, hlength]
    rfl
  · rw [hsettings]
    rfl

/-- The greeting is loaded where its listing, of 94 bytes, is not too large. -/
theorem loaded_greetingLoad (hlimit : 94 ≤ bodyLimit) :
    ((limitedApp bodyLimit).handle greetingLoad).1.Loaded 1 := by
  have hlets : (limitedApp bodyLimit).LetsIn greetingLoad bodyLimit .templates :=
    letsIn_of_settings rfl rfl posts_greetingLoad.route rfl
  have hjson : greetingLoad.headers.announceJson := announceJson_contentType
  have hsize : greetingLoad.body.size = 94 := by decide
  have hfits : greetingLoad.body.size ≤ min bodyLimit jsonBodyLimit := by
    rw [hsize, jsonBodyLimit]
    omega
  -- only the summary is evaluated, the catalog stays unopened
  have hsummary : ((Catalog.empty Catalog.defaultCapacity).load
      (.obj [("data", .arr [greeting])])).toOption.map Prod.fst = some ⟨1, 0⟩ := by
    decide
  obtain ⟨⟨summary, catalog⟩, hload, rfl⟩ := Option.map_eq_some_iff.mp hsummary
  have hcatalog : (limitedApp bodyLimit).catalog.load (.obj [("data", .arr [greeting])])
      = .ok (⟨1, 0⟩, catalog) := toOption_eq_some_iff.mp hload
  have hmember : (LoadSummary.toJson ⟨1, 0⟩).member? "loaded" = some (.ofNat 1) :=
    Json.member?_object (by simp) "loaded"
  rw [hlets.handle_eq, answerAt_of_posts posts_greetingLoad, if_pos hjson, if_pos hfits,
    loadTemplates_eq, hcatalog]
  refine ⟨?_, _, ?_, hmember⟩
  · rw [status_sent]
    rfl
  · rw [body_sent (by decide)]
    rfl

theorem size_greetingInline : greetingInline.body.size = 96 := by
  decide

/-- Asking for the slots with the template is not refused for its size where bodies may have 96
bytes. -/
theorem status_greetingInline_ne (hsettings : app.settings = limitedSettings bodyLimit)
    (hlimit : 96 ≤ bodyLimit) : (app.handle greetingInline).1.status ≠ 413 := by
  have hlets : app.LetsIn greetingInline bodyLimit .slots :=
    letsIn_of_settings hsettings rfl asks_greetingInline.route rfl
  refine asks_greetingInline.status_handle_ne hlets.limit_eq ?_
  rw [size_greetingInline, jsonBodyLimit]
  omega

/-- Where bodies may have less, it is refused. -/
theorem status_greetingInline (hsettings : app.settings = limitedSettings bodyLimit)
    (hlimit : bodyLimit < 96) : (app.handle greetingInline).1.status = 413 := by
  have hlets : app.LetsIn greetingInline bodyLimit TemplateQuery.slots.route :=
    letsIn_of_settings hsettings rfl asks_greetingInline.route rfl
  have hjson : greetingInline.headers.announceJson := announceJson_contentType
  have hlarge : ¬ greetingInline.body.size ≤ min bodyLimit jsonBodyLimit := by
    rw [size_greetingInline]
    omega
  rw [hlets.handle_eq, status_sent, status_withPolicy,
    asks_greetingInline.answerAt_eq proper_greeting, if_pos hjson, if_neg hlarge]
  rfl

/-- Asking for the slots with the reference takes 48 bytes and succeeds where the greeting is in the
catalog. -/
theorem status_greetingReference (hsettings : app.settings = limitedSettings bodyLimit)
    (hlimit : 48 ≤ bodyLimit) {template : Template}
    (hfind : app.catalog.find? ⟨"note", "en"⟩ = some template) :
    (app.handle greetingReference).1.status = 200 := by
  have hlets : app.LetsIn greetingReference bodyLimit TemplateQuery.slots.route :=
    letsIn_of_settings hsettings rfl asks_greetingReference.route rfl
  have hjson : greetingReference.headers.announceJson := announceJson_contentType
  have hsize : greetingReference.body.size = 48 := by decide
  have hfits : greetingReference.body.size ≤ min bodyLimit jsonBodyLimit := by
    rw [hsize, jsonBodyLimit]
    omega
  have hresolve : (TemplateSource.ofKey ⟨"note", "en"⟩).resolve app.catalog = .ok template := by
    rw [TemplateSource.resolve_ofKey, Catalog.get, hfind]
    rfl
  rw [hlets.handle_eq, status_sent, status_withPolicy,
    asks_greetingReference.answerAt_eq (TemplateSource.proper_ofKey _), if_pos hjson, if_pos hfits,
    TemplateQuery.answer, extractSlots, hresolve]
  rfl

/-- The greeting is found after it was loaded. -/
theorem exists_greeting (hlimit : 94 ≤ bodyLimit) :
    ∃ template, Template.ofJson greeting = .ok template ∧ template.key = ⟨"note", "en"⟩ ∧
      ((limitedApp bodyLimit).handle greetingLoad).2.catalog.find? ⟨"note", "en"⟩
        = some template := by
  obtain ⟨template, htemplate, hfind⟩ :=
    find?_of_loaded posts_greetingLoad (loaded_greetingLoad hlimit)
  have hkey : template.key = ⟨"note", "en"⟩ := by
    have hread := key_greeting
    rw [htemplate] at hread
    exact Option.some.inj hread
  exact ⟨template, htemplate, hkey, hkey ▸ hfind⟩

end Limited

/-- A request for the list of templates. -/
def browsing : Request :=
  ⟨"GET", "/api/v1/templates", [], ""⟩

/-- Looking at the list does no harm to a template. -/
theorem spares_browsing (key : TemplateKey) (answer : Response) : browsing.Spares key answer := by
  refine ⟨fun _ hoffers => ?_, fun _ hdeletes => ?_⟩
  · obtain ⟨listing, entries, hposts, -⟩ := hoffers
    exact absurd hposts.method (by decide)
  · exact absurd hdeletes.1 (by decide)

/-- Where bodies may have 96 bytes, the slots of the greeting are the same with the template and with
a reference to it, also after the templates were listed. -/
theorem greeting_inline_eq_reference :
    greetingLoad.Posts (.obj [("data", .arr [greeting])]) ∧
      ((limitedApp 96).handle greetingLoad).1.Loaded 1 ∧
      ((((limitedApp 96).handle greetingLoad).2.run [browsing]).2.handle
        greetingReference).1.status = 200 ∧
      (((limitedApp 96).handle greetingLoad).2.run [browsing]).2.handle greetingInline
        = (((limitedApp 96).handle greetingLoad).2.run [browsing]).2.handle greetingReference := by
  have hloaded : ((limitedApp 96).handle greetingLoad).1.Loaded 1 :=
    loaded_greetingLoad (by omega)
  obtain ⟨template, htemplate, hlater⟩ := inline_eq_reference posts_greetingLoad hloaded
  obtain ⟨greeted, hgreeted, hkey, hfind⟩ := @exists_greeting 96 (by omega)
  obtain rfl : template = greeted := Except.ok.inj (htemplate.symm.trans hgreeted)
  have hspares : ∀ step ∈ [browsing].zip (((limitedApp 96).handle greetingLoad).2.run
      [browsing]).1, step.1.Spares template.key step.2 := by
    intro step hstep
    rw [List.mem_singleton.mp (List.of_mem_zip hstep).1]
    exact spares_browsing ..
  have hsame := hlater [browsing] hspares .slots greetingInline greetingReference
    sameButBody_greeting asks_greetingInline (hkey ▸ asks_greetingReference)
  have hkept := (find?_run hspares).trans (hkey ▸ hfind)
  -- of the state after both requests the settings and one key are all that matters
  generalize hstate : (((limitedApp 96).handle greetingLoad).2.run [browsing]).2 = state
    at hsame hkept ⊢
  have hsettings : state.settings = limitedSettings 96 := by
    rw [← hstate, settings_run, settings_handle]
    rfl
  have hreference : (state.handle greetingReference).1.status = 200 :=
    status_greetingReference hsettings (by omega) (hkey ▸ hkept)
  have hinline : (state.handle greetingInline).1.status ≠ 413 :=
    status_greetingInline_ne hsettings (by omega)
  refine ⟨posts_greetingLoad, hloaded, hreference, hsame hinline ?_⟩
  rw [hreference]
  decide

/-- Without the exception the answers can differ: where bodies may have 94 bytes, the greeting can be
loaded and referred to, but asking for its slots with the template itself takes two bytes more. -/
theorem greetingInline_tooLarge :
    start? (limitedSettings 94) = some (limitedApp 94) ∧
      greetingLoad.Posts (.obj [("data", .arr [greeting])]) ∧
      ((limitedApp 94).handle greetingLoad).1.Loaded 1 ∧
      (Template.ofJson greeting).toOption.map Template.key = some ⟨"note", "en"⟩ ∧
      greetingInline.SameButBody greetingReference ∧
      greetingInline.Asks .slots (.ofDocument greeting) ∧
      greetingReference.Asks .slots (.ofKey ⟨"note", "en"⟩) ∧
      (((limitedApp 94).handle greetingLoad).2.handle greetingReference).1.status = 200 ∧
      (((limitedApp 94).handle greetingLoad).2.handle greetingInline).1.status = 413 := by
  have hsettings : ((limitedApp 94).handle greetingLoad).2.settings = limitedSettings 94 :=
    settings_handle ..
  obtain ⟨template, -, -, hfind⟩ := @exists_greeting 94 (by omega)
  exact ⟨rfl, posts_greetingLoad, loaded_greetingLoad (by omega), key_greeting,
    sameButBody_greeting, asks_greetingInline, asks_greetingReference,
    status_greetingReference hsettings (by omega) hfind,
    status_greetingInline hsettings (by omega)⟩

end App

end Courier.Http
