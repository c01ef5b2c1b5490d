import Courier.Http.App
import Courier.Proofs.Json.Run
import Mathlib.Logic.Basic

/-!
# What an address does

An action gives one of few results (`App.Done`), whatever it was asked: with an error or a note
nothing is done, and every change of the state stands together with the answer that tells of it. An
address runs its action for the method and the content of a request, unless it does not know the
method or does not take the body (`App.Outcome`). What holds of every address follows from these
cases alone, such as when a body is refused for its size, in which no action has a part
(`App.status_answerAt_post`).
-/

namespace Courier

/-- The address where session messages of a kind are made. -/
def SessionKind.route : SessionKind → Http.Route
  | .text => .text
  | .read => .read
  | .typing => .typing

namespace Http

/-! ## Requests for a change -/

/-- A request to load a listing. -/
structure Request.Posts (request : Request) (listing : Json) : Prop where
  method : request.method = "POST"
  route : Route.ofRequest request = some .templates
  body : Decoder.json.parse request.body.text = .ok listing

/-- A request to remove the template with a key, which stands in its path. -/
def Request.Deletes (request : Request) (key : TemplateKey) : Prop :=
  request.method = "DELETE" ∧ ∃ name language,
    Route.ofRequest request = some (.template name language) ∧
      Percent.decode? name = some key.name ∧ Percent.decode? language = some key.language

/-! ## Responses -/

namespace Response

@[simp] theorem status_bare (status : Nat) : (bare status).status = status := rfl

@[simp] theorem status_note (status : Nat) (text : String) :
    (note status text).status = status := rfl

@[simp] theorem status_json (status : Nat) (value : Json) :
    (json status value).status = status := rfl

end Response

namespace App

/-- Every error is answered with the status of a failure. -/
theorem le_status_refusal (error : AppError) : 400 ≤ (refusal error).status := by
  cases error <;> simp [refusal, AppError.status]

/-- No error is answered like a body that is too large. -/
theorem status_refusal_ne (error : AppError) : (refusal error).status ≠ 413 := by
  cases error <;> simp [refusal, AppError.status]

/-- A body that is not taken is answered with the status of a failure. -/
theorem le_status_response (body : String) (fault : BodyFault) :
    400 ≤ (fault.response body).status := by
  cases fault with
  | notAnnounced | tooLarge => simp [BodyFault.response]
  | unreadable fault =>
    rw [BodyFault.response]
    split <;> simp

end App

/-! ## Bodies -/

/-- The content of a request is what its body is read as, if it is announced and small enough. -/
theorem Request.content_eq_ok_iff {α : Type} {request : Request} {limit : Nat} {decoder : Decoder α}
    {content : α} :
    request.content limit decoder = .ok content ↔
      request.headers.announceJson ∧ request.body.size ≤ min limit jsonBodyLimit ∧
        decoder.parse request.body.text = .ok content := by
  rw [Request.content]
  by_cases hjson : request.headers.announceJson
  · by_cases hsize : min limit jsonBodyLimit < request.body.size
    · simp [hjson, hsize, Nat.not_le.mpr hsize]
    · rw [if_neg (not_not.mpr hjson), if_neg hsize, mapError_eq_ok_iff]
      simp [hjson, Nat.not_lt.mp hsize]
  · simp [hjson]

namespace App

variable {app : App} {request : Request} {limit : Nat} {route : Route}

/-- A body that can be read is taken, if the headers announce it and it is not too large. -/
theorem withContent_eq {α : Type} {decoder : Decoder α} {action : α → Response × App} {content : α}
    (hbody : decoder.parse request.body.text = .ok content) :
    app.withContent request limit decoder action
      = if request.headers.announceJson then
          if request.body.size ≤ min limit jsonBodyLimit then action content
          else (BodyFault.tooLarge.response "", app)
        else (BodyFault.notAnnounced.response "", app) := by
  rw [withContent]
  by_cases hjson : request.headers.announceJson
  · rw [if_pos hjson]
    by_cases hsize : request.body.size ≤ min limit jsonBodyLimit
    · have hcontent : request.content limit decoder = .ok content :=
        Request.content_eq_ok_iff.mpr ⟨hjson, hsize, hbody⟩
      rw [hcontent, if_pos hsize]
    · have hcontent : request.content limit decoder = .error .tooLarge := by
        rw [Request.content, if_neg (not_not.mpr hjson), if_pos (Nat.lt_of_not_le hsize)]
      rw [hcontent, if_neg hsize]
      rfl
  · have hcontent : request.content limit decoder = .error .notAnnounced := by
      rw [Request.content, if_pos hjson]
    rw [hcontent, if_neg hjson]
    rfl

/-! ## Actions -/

/-- A request with another method than `HEAD` is answered by the action of its own method. -/
theorem answerAt_eq (h : request.method ≠ "HEAD") :
    app.answerAt request limit route
      = (app.act? request limit route).getD (.bare 405, app) := by
  dsimp only [answerAt]
  rw [if_neg h]

/-- A path has a key exactly if its name and its language stand for texts. -/
theorem pathKey_eq_ok_iff {name language : String} {key : TemplateKey} :
    pathKey name language = .ok key ↔
      Percent.decode? name = some key.name ∧ Percent.decode? language = some key.language := by
  obtain ⟨keyName, keyLanguage⟩ := key
  rw [pathKey]
  cases Percent.decode? name <;> cases Percent.decode? language <;> simp

/-- A listing that is refused leaves the state as it was. -/
theorem loadTemplates_eq (app : App) (listing : Json) :
    app.loadTemplates listing
      = match app.catalog.load listing with
        | .ok (summary, catalog) => (.json 200 summary.toJson, { app with catalog })
        | .error error => (refusal (.ofTemplate error), app) := by
  rw [loadTemplates, Catalog.tryLoad_eq]
  cases app.catalog.load listing <;> rfl

/-- A removal that fails leaves the state as it was. -/
theorem deleteTemplate_eq (app : App) (name language : String) :
    app.deleteTemplate name language
      = match pathKey name language with
        | .error response => (response, app)
        | .ok key =>
          match app.catalog.remove key with
          | .ok catalog => (.bare 204, { app with catalog })
          | .error error => (refusal (.ofTemplate error), app) := by
  rw [deleteTemplate]
  cases pathKey name language with
  | error response => rfl
  | ok key =>
    simp only [Catalog.tryRemove_eq]
    cases app.catalog.remove key <;> rfl

/-- What an action did: its answer, and the state behind it. -/
inductive Done (app : App) (request : Request) : Response × App → Prop
  | refused (error : AppError) : Done app request (refusal error, app)
  /-- A part of the path stands for no text. -/
  | misspelt (text : String) : Done app request (.note 400 text, app)
  | shown (hmethod : request.method = "GET") (value : Json) :
    Done app request (.json 200 value, app)
  | measured (hmethod : request.method = "GET") : Done app request (app.metrics, app)
  /-- The listing in the body was loaded. -/
  | loaded {listing : Json} {summary : LoadSummary} {catalog : Catalog}
    (hposts : request.Posts listing) (hload : app.catalog.load listing = .ok (summary, catalog)) :
    Done app request (.json 200 summary.toJson, { app with catalog })
  /-- The template with the key in the path was removed. -/
  | removed {key : TemplateKey} {catalog : Catalog} (hdeletes : request.Deletes key)
    (hremove : app.catalog.remove key = .ok catalog) :
    Done app request (.bare 204, { app with catalog })
  | extracted (hmethod : request.method = "POST") (hroute : Route.ofRequest request = some .slots)
    (slots : List Slot) : Done app request (app.slotsAnswer slots)
  | compiled (hmethod : request.method = "POST")
    (hroute : Route.ofRequest request = some .compile) (compilation : Compilation) :
    Done app request
      (.json 200 (.object
        [("payload", some compilation.payload.toJson),
         ("fallbacks", some (.arr (compilation.fallbacks.map Fallback.toJson)))]),
       { app with counters := app.counters.recordCompiled compilation.fallbacks })
  /-- A session message was made. -/
  | made (hmethod : request.method = "POST") (kind : SessionKind)
    (hroute : Route.ofRequest request = some kind.route) (message : Json) :
    Done app request
      (.json 200 message, { app with counters := app.counters.recordSession kind })

namespace Done

theorem sourceRefusal (error : SourceError) :
    app.Done request (App.sourceRefusal error, app) := by
  cases error <;> exact .refused _

theorem pathKey {name language : String} {response : Response}
    (h : App.pathKey name language = .error response) : app.Done request (response, app) := by
  rw [App.pathKey] at h
  split at h <;> cases h <;> exact .misspelt _

theorem loadTemplates {listing : Json} (h : request.Posts listing) :
    app.Done request (app.loadTemplates listing) := by
  rw [loadTemplates_eq]
  split
  · exact .loaded h ‹_›
  · exact .refused _

theorem getTemplate (hmethod : request.method = "GET") (name language : String) :
    app.Done request (app.getTemplate name language, app) := by
  rw [App.getTemplate]
  split
  · exact .pathKey ‹_›
  · split
    · exact .shown hmethod _
    · exact .refused _

theorem deleteTemplate {name language : String} (hmethod : request.method = "DELETE")
    (hroute : Route.ofRequest request = some (.template name language)) :
    app.Done request (app.deleteTemplate name language) := by
  rw [deleteTemplate_eq]
  split
  · exact .pathKey ‹_›
  · rename_i key hkey
    split
    · exact .removed ⟨hmethod, name, language, hroute, pathKey_eq_ok_iff.mp hkey⟩ ‹_›
    · exact .refused _

section Post

variable (hmethod : request.method = "POST")
include hmethod

theorem extractSlots (hroute : Route.ofRequest request = some .slots) (source : TemplateSource) :
    app.Done request (app.extractSlots source) := by
  rw [App.extractSlots]
  split
  · exact .extracted hmethod hroute _
  · exact .extracted hmethod hroute []
  · exact .sourceRefusal _

theorem compileMessage (hroute : Route.ofRequest request = some .compile)
    (content : CompileRequest) (source : TemplateSource) :
    app.Done request (app.compileMessage content source) := by
  rw [App.compileMessage]
  split
  · exact .refused _
  · split
    · exact .refused _
    · split
      · exact .sourceRefusal _
      · exact .compiled hmethod hroute _

theorem textMessage (hroute : Route.ofRequest request = some .text) (content : TextRequest) :
    app.Done request (app.textMessage content) := by
  rw [App.textMessage]
  split
  · exact .refused _
  · split
    · exact .refused _
    · split
      · exact .refused _
      · exact .made hmethod .text hroute _

theorem statusMessage (kind : SessionKind) (hroute : Route.ofRequest request = some kind.route)
    (build : StatusTarget → Except MessageError StatusUpdate) (content : StatusRequest) :
    app.Done request (app.statusMessage kind build content) := by
  rw [App.statusMessage]
  split
  · exact .refused _
  · exact .made hmethod kind hroute _

end Post

end Done

/-! ## Addresses -/

/-- What an address did. -/
inductive Outcome (app : App) (request : Request) : Response × App → Prop
  | done {result : Response × App} (h : app.Done request result) : Outcome app request result
  /-- The body was not taken. -/
  | untaken (fault : BodyFault) : Outcome app request (fault.response request.body.text, app)
  /-- The method is not known. -/
  | unknown : Outcome app request (.bare 405, app)

namespace Outcome

theorem withContent {α : Type} {decoder : Decoder α} {action : α → Response × App}
    (h : ∀ content, decoder.parse request.body.text = .ok content → app.Done request (action content)) :
    app.Outcome request (app.withContent request limit decoder action) := by
  rw [App.withContent]
  cases hcontent : request.content limit decoder with
  | ok content => exact .done (h content (Request.content_eq_ok_iff.mp hcontent).2.2)
  | error fault => exact .untaken fault

theorem act? {result : Response × App} (hroute : Route.ofRequest request = some route)
    (h : app.act? request limit route = some result) : app.Outcome request result := by
  unfold App.act? at h
  -- one action for each line of the table, in its order
  split at h <;> rename_i hmethod <;> cases h
  · exact .done (.shown hmethod _)
  · exact .done (.measured hmethod)
  · exact .done (.shown hmethod _)
  · exact withContent fun listing hbody => .loadTemplates ⟨hmethod, hroute, hbody⟩
  · exact .done (.getTemplate hmethod ..)
  · exact .done (.deleteTemplate hmethod hroute)
  · exact withContent fun source _ => .extractSlots hmethod hroute source
  · exact withContent fun content _ => .compileMessage hmethod hroute content.1 content.2
  · exact withContent fun content _ => .textMessage hmethod hroute content
  · exact withContent fun content _ => .statusMessage hmethod .read hroute _ content
  · exact withContent fun content _ => .statusMessage hmethod .typing hroute _ content

/-- **Whatever an address does, it has one of the outcomes**; `HEAD` has those of `GET`. -/
theorem answerAt (hroute : Route.ofRequest request = some route) :
    app.Outcome (if request.method = "HEAD" then { request with method := "GET" } else request)
      (app.answerAt request limit route) := by
  by_cases hhead : request.method = "HEAD"
  · dsimp only [App.answerAt]
    rw [if_pos hhead, if_pos hhead]
    cases hact : app.act? { request with method := "GET" } limit route with
    | none => exact .unknown
    | some result => exact act? hroute hact
  · rw [if_neg hhead, answerAt_eq hhead]
    cases hact : app.act? request limit route with
    | none => exact .unknown
    | some result => exact act? hroute hact

end Outcome

/-! ## Bodies that are too large -/

/-- No action answers that a body was too large. -/
theorem Done.status_ne {result : Response × App} (h : app.Done request result) :
    result.1.status ≠ 413 := by
  cases h with
  | refused error => exact status_refusal_ne error
  | misspelt | shown | measured | loaded | removed | extracted | compiled | made =>
    simp [metrics, slotsAnswer]

/-- Where a body can be sent to, it is read for some action. -/
theorem exists_withContent (hmethod : request.method = "POST")
    (hroute : Route.ofRequest request = some route) (htakes : "POST" ∈ route.methods) :
    ∃ (α : Type) (decoder : Decoder α) (action : α → Response × App),
      (∀ content, decoder.parse request.body.text = .ok content → app.Done request (action content)) ∧
      app.answerAt request limit route = app.withContent request limit decoder action := by
  rw [answerAt_eq (hmethod.trans_ne (by decide))]
  -- each address that a body can be sent to has its own decoder and action
  cases route with
  | health | metrics | template => simp [Route.methods] at htakes
  | templates =>
    refine ⟨_, Decoder.json, app.loadTemplates, fun _ hbody => .loadTemplates ⟨hmethod, hroute, hbody⟩,
      ?_⟩
    simp only [act?, hmethod, Option.getD_some]
  | slots =>
    refine ⟨_, slotsRequest, app.extractSlots, fun _ _ => .extractSlots hmethod hroute _, ?_⟩
    simp only [act?, hmethod, Option.getD_some]
  | compile =>
    refine ⟨_, compileRequest, fun content => app.compileMessage content.1 content.2,
      fun _ _ => .compileMessage hmethod hroute .., ?_⟩
    simp only [act?, hmethod, Option.getD_some]
  | text =>
    refine ⟨_, textRequest, app.textMessage, fun _ _ => .textMessage hmethod hroute _, ?_⟩
    simp only [act?, hmethod, Option.getD_some]
  | read =>
    refine ⟨_, statusRequest, app.statusMessage .read StatusTarget.markAsRead,
      fun _ _ => .statusMessage hmethod .read hroute .., ?_⟩
    simp only [act?, hmethod, Option.getD_some]
  | typing =>
    refine ⟨_, statusRequest, app.statusMessage .typing StatusTarget.showTyping,
      fun _ _ => .statusMessage hmethod .typing hroute .., ?_⟩
    simp only [act?, hmethod, Option.getD_some]

/-- Only a body that is announced as JSON and larger than what may be read is refused for its
size. -/
theorem status_withContent {α : Type} {decoder : Decoder α} {action : α → Response × App}
    (hdone : ∀ content, decoder.parse request.body.text = .ok content →
      app.Done request (action content)) :
    (app.withContent request limit decoder action).1.status = 413 ↔
      request.headers.announceJson ∧ min limit jsonBodyLimit < request.body.size := by
  rw [withContent, Request.content]
  by_cases hjson : request.headers.announceJson
  · rw [if_neg (not_not.mpr hjson)]
    by_cases hsize : min limit jsonBodyLimit < request.body.size
    · rw [if_pos hsize]
      exact iff_of_true rfl ⟨hjson, hsize⟩
    · rw [if_neg hsize]
      refine iff_of_false ?_ fun h => hsize h.2
      cases hparse : decoder.parse request.body.text with
      | ok content => exact (hdone content hparse).status_ne
      | error fault =>
        dsimp only [Except.mapError, BodyFault.response]
        split <;> simp
  · rw [if_pos hjson]
    exact iff_of_false (by simp [BodyFault.response]) fun h => hjson h.1

/-- **A body is refused for its size** at an address that takes bodies exactly if it is larger than
what may be read. -/
theorem status_answerAt_post (hmethod : request.method = "POST")
    (hroute : Route.ofRequest request = some route) (htakes : "POST" ∈ route.methods) :
    (app.answerAt request limit route).1.status = 413 ↔
      request.headers.announceJson ∧ min limit jsonBodyLimit < request.body.size := by
  obtain ⟨α, decoder, action, hdone, hanswer⟩ :=
    @exists_withContent app request limit route hmethod hroute htakes
  rw [hanswer]
  exact status_withContent hdone

end App

end Http

end Courier
