import Courier.Proofs.Catalog.Lookup
import Courier.Proofs.Http.Address
import Courier.Proofs.Http.Outcome

/-!
# What a request does

A request is stopped at one of the gates (`App.Stops`) or let in to an address (`App.LetsIn`). A
request that is stopped does nothing, and its answer takes no more than the settings and the policy.
One that is let in does one of four things (`App.Effect`): nothing, a count, the loading of a listing
or the removal of a template. What holds of every request follows from these cases alone, such as
when the catalog changes (`App.catalog_of_handle`).
-/

namespace Courier.Http.App

variable {app : App} {request : Request} {limit : Nat} {route : Route}

/-! ## Gates -/

/-- A gate stops a request with a response. -/
inductive Stops (app : App) (request : Request) : Response → Prop
  | preflight (hmethod : request.method = "OPTIONS") : Stops app request (app.preflight request)
  | tooLong (hmethod : request.method ≠ "OPTIONS")
    (hlimit : readLimit? app.settings.server.bodyLimit request.headers = none) :
    Stops app request (app.withPolicy request (.note 413 "length limit exceeded"))
  | unknown {limit : Nat} (hmethod : request.method ≠ "OPTIONS")
    (hlimit : readLimit? app.settings.server.bodyLimit request.headers = some limit)
    (hroute : Route.ofRequest request = none) :
    Stops app request (app.withPolicy request (.bare 404))
  | locked {limit : Nat} {route : Route} {error : AppError} (hmethod : request.method ≠ "OPTIONS")
    (hlimit : readLimit? app.settings.server.bodyLimit request.headers = some limit)
    (hroute : Route.ofRequest request = some route) (hguarded : route.isGuarded)
    (hkey : keyFault? app.settings.apiKey request.headers = some error) :
    Stops app request (app.withPolicy request (refusal error))

/-- A request gets past the gates to an address, with a number of bytes that may be read. -/
structure LetsIn (app : App) (request : Request) (limit : Nat) (route : Route) : Prop where
  method_ne : request.method ≠ "OPTIONS"
  limit_eq : readLimit? app.settings.server.bodyLimit request.headers = some limit
  route_eq : Route.ofRequest request = some route
  no_fault : route.isGuarded → keyFault? app.settings.apiKey request.headers = none

/-- Every request is stopped or let in. -/
theorem stops_or_letsIn (app : App) (request : Request) :
    (∃ response, app.Stops request response) ∨ ∃ limit route, app.LetsIn request limit route := by
  -- the gates are tried in the order in which the service has them
  by_cases hmethod : request.method = "OPTIONS"
  · exact .inl ⟨_, .preflight hmethod⟩
  cases hlimit : readLimit? app.settings.server.bodyLimit request.headers with
  | none => exact .inl ⟨_, .tooLong hmethod hlimit⟩
  | some limit =>
    cases hroute : Route.ofRequest request with
    | none => exact .inl ⟨_, .unknown hmethod hlimit hroute⟩
    | some route =>
      by_cases hguarded : route.isGuarded
      · cases hkey : keyFault? app.settings.apiKey request.headers with
        | some error => exact .inl ⟨_, .locked hmethod hlimit hroute hguarded hkey⟩
        | none => exact .inr ⟨limit, route, hmethod, hlimit, hroute, fun _ => hkey⟩
      · exact .inr ⟨limit, route, hmethod, hlimit, hroute, fun h => absurd h hguarded⟩

/-- A request that is stopped leaves the state as it is. -/
theorem Stops.handle_eq {response : Response} (h : app.Stops request response) :
    app.handle request = (sent request response, app) := by
  cases h with
  | preflight hmethod => rw [handle, if_pos hmethod]
  | tooLong hmethod hlimit => rw [handle, if_neg hmethod, answer, hlimit]
  | unknown hmethod hlimit hroute => rw [handle, if_neg hmethod, answer, hlimit, hroute]
  | locked hmethod hlimit hroute hguarded hkey =>
    rw [handle, if_neg hmethod, answer, hlimit, hroute]
    dsimp only
    rw [guarded, if_pos hguarded, hkey]

/-- A request that is let in is answered at its address. -/
theorem LetsIn.handle_eq (h : app.LetsIn request limit route) :
    app.handle request
      = (sent request (app.withPolicy request (app.answerAt request limit route).1),
          (app.answerAt request limit route).2) := by
  have hkey : (if route.isGuarded then keyFault? app.settings.apiKey request.headers else none)
      = none := by
    split
    · exact h.no_fault ‹_›
    · rfl
  rw [handle, if_neg h.method_ne, answer, h.limit_eq, h.route_eq]
  dsimp only
  rw [guarded, hkey]

/-- Whether a gate stops a request, and how, has nothing to do with the state. -/
theorem Stops.of_state {response : Response} (h : app.Stops request response) (catalog : Catalog)
    (counters : Counters) : { app with catalog, counters }.Stops request response := by
  cases h with
  | preflight hmethod => exact .preflight hmethod
  | tooLong hmethod hlimit => exact .tooLong hmethod hlimit
  | unknown hmethod hlimit hroute => exact .unknown hmethod hlimit hroute
  | locked hmethod hlimit hroute hguarded hkey => exact .locked hmethod hlimit hroute hguarded hkey

/-! ## Responses -/

@[simp] theorem status_preflight (app : App) (request : Request) :
    (app.preflight request).status = 200 := rfl

@[simp] theorem status_sent (request : Request) (response : Response) :
    (sent request response).status = response.status := by
  dsimp only [sent]
  split <;> rfl

/-- Only a response to `HEAD` loses its body. -/
theorem body_sent {response : Response} (h : request.method ≠ "HEAD") :
    (sent request response).body = response.body := by
  dsimp only [sent]
  rw [if_neg h]
  rfl

@[simp] theorem status_withPolicy (app : App) (request : Request) (response : Response) :
    (app.withPolicy request response).status = response.status := rfl

@[simp] theorem body_withPolicy (app : App) (request : Request) (response : Response) :
    (app.withPolicy request response).body = response.body := rfl

/-- A gate that stops a request answers with the status of a failure, unless it is the one for
questions about what is allowed. -/
theorem Stops.le_status {app : App} {request : Request} {response : Response}
    (h : app.Stops request response) (hmethod : request.method ≠ "OPTIONS") :
    400 ≤ response.status := by
  cases h with
  | preflight hoptions => exact absurd hoptions hmethod
  | tooLong | unknown => simp
  | locked =>
    rw [status_withPolicy]
    exact le_status_refusal _

/-- A gate that stops a request does not answer that something was removed. -/
theorem Stops.status_ne {app : App} {request : Request} {response : Response}
    (h : app.Stops request response) : response.status ≠ 204 := by
  by_cases hmethod : request.method = "OPTIONS"
  · cases h with
    | preflight => simp
    | tooLong hne | unknown hne | locked hne => exact absurd hmethod hne
  · have hstatus := h.le_status hmethod
    omega

/-! ## Effects -/

/-- A request that is let in is answered by the action of its address and method. -/
theorem LetsIn.handle_of_act? {response : Response} {next : App} (h : app.LetsIn request limit route)
    (hhead : request.method ≠ "HEAD") (hact : app.act? request limit route = some (response, next)) :
    (app.handle request).1.status = response.status ∧
      (app.handle request).1.body = response.body ∧ (app.handle request).2 = next := by
  rw [h.handle_eq, answerAt_eq hhead, hact, status_sent, body_sent hhead]
  exact ⟨rfl, rfl, rfl⟩

/-- What the answer to a request says was done, and the state afterwards. -/
inductive Effect (app : App) (request : Request) : Response × App → Prop
  /-- Nothing was done. -/
  | kept {response : Response} (hstatus : response.status ≠ 204) :
    Effect app request (response, app)
  /-- Something was counted. -/
  | counted {response : Response} (counters : Counters) (hstatus : response.status = 200) :
    Effect app request (response, { app with counters })
  /-- The listing in the body was loaded. -/
  | loaded {listing : Json} {summary : LoadSummary} {catalog : Catalog}
    (hposts : request.Posts listing) (hload : app.catalog.load listing = .ok (summary, catalog)) :
    Effect app request (.json 200 summary.toJson, { app with catalog })
  /-- The template with the key in the path was removed. -/
  | removed {key : TemplateKey} {catalog : Catalog} (hdeletes : request.Deletes key)
    (hremove : app.catalog.remove key = .ok catalog) :
    Effect app request (.bare 204, { app with catalog })

namespace Effect

theorem failed {response : Response} (h : 400 ≤ response.status) :
    app.Effect request (response, app) :=
  .kept (by omega)

theorem of_done {result : Response × App} (h : app.Done request result) :
    app.Effect request result := by
  cases h with
  | refused error => exact failed (le_status_refusal error)
  | misspelt => exact failed (by simp)
  | shown => exact .kept (by simp)
  | measured => exact .kept (by simp [metrics])
  | loaded hposts hload => exact .loaded hposts hload
  | removed hdeletes hremove => exact .removed hdeletes hremove
  | extracted | compiled | made => exact .counted _ rfl

theorem of_outcome {result : Response × App} (h : app.Outcome request result) :
    app.Effect request result := by
  cases h with
  | done h => exact of_done h
  | untaken fault => exact failed (le_status_response _ fault)
  | unknown => exact failed (by simp)

/-- A request that is answered as `GET` has no effect that it would not have itself. -/
theorem of_get {result : Response × App} (h : app.Effect { request with method := "GET" } result) :
    app.Effect request result := by
  cases h with
  | kept hstatus => exact .kept hstatus
  | counted counters hstatus => exact .counted counters hstatus
  | loaded hposts _ => exact absurd hposts.method (by simp)
  | removed hdeletes _ => exact absurd hdeletes.1 (by simp)

theorem answerAt (hroute : Route.ofRequest request = some route) :
    app.Effect request (app.answerAt request limit route) := by
  have houtcome := @Outcome.answerAt app request limit route hroute
  split at houtcome
  · exact of_get (of_outcome houtcome)
  · exact of_outcome houtcome

end Effect

/-- **Every request has one of the effects**, and its response is that of the effect but for headers
and, if the method is `HEAD`, the body. -/
theorem exists_effect (app : App) (request : Request) :
    ∃ response, app.Effect request (response, (app.handle request).2) ∧
      (app.handle request).1.status = response.status ∧
      (request.method ≠ "HEAD" → (app.handle request).1.body = response.body) := by
  rcases app.stops_or_letsIn request with ⟨response, h⟩ | ⟨limit, route, h⟩
  · rw [h.handle_eq]
    exact ⟨response, .kept h.status_ne, status_sent .., body_sent⟩
  · rw [h.handle_eq]
    refine ⟨(app.answerAt request limit route).1, .answerAt h.route_eq, ?_, fun hhead => ?_⟩
    · rw [status_sent, status_withPolicy]
    · rw [body_sent hhead, body_withPolicy]

/-- No request changes the settings. -/
theorem settings_handle (app : App) (request : Request) :
    (app.handle request).2.settings = app.settings := by
  obtain ⟨response, heffect, -⟩ := app.exists_effect request
  generalize (app.handle request).2 = next at heffect
  cases heffect <;> rfl

theorem run_cons (app : App) (request : Request) (rest : List Request) :
    app.run (request :: rest)
      = ((app.handle request).1 :: ((app.handle request).2.run rest).1,
          ((app.handle request).2.run rest).2) := rfl

theorem settings_run (app : App) (requests : List Request) :
    (app.run requests).2.settings = app.settings := by
  induction requests generalizing app with
  | nil => rfl
  | cons request rest ih => rw [run_cons, ih, settings_handle]

/-! ## Changes of the catalog -/

/-- **The catalog changes only where the answer says so.** After a request it is as before, unless a
listing was sent to its address and the answer is the summary of the load, or the answer is 204. The
answer is 204 only to the removal of a key that was there; the key stands in the path, and nothing
else is removed. No answer with the status of a failure changes the catalog. -/
theorem catalog_of_handle (app : App) (request : Request) :
    let answer := (app.handle request).1
    let catalog := (app.handle request).2.catalog
    (catalog = app.catalog ∨
      (answer.status = 200 ∧ request.method = "POST" ∧
        request.path? = some "/api/v1/templates".toList ∧
        ∃ listing summary, Decoder.json.parse request.body.text = .ok listing ∧
          app.catalog.load listing = .ok (summary, catalog) ∧
          answer.body = .json summary.toJson) ∨
      answer.status = 204) ∧
    (answer.status = 204 → request.method = "DELETE" ∧ ∃ name language key,
      request.path? = some ("/api/v1/templates/" ++ name ++ "/" ++ language).toList ∧
      Percent.decode? name = some key.name ∧ Percent.decode? language = some key.language ∧
      app.catalog.contains key ∧
      ∀ other, catalog.find? other = if other = key then none else app.catalog.find? other) ∧
    (400 ≤ answer.status → catalog = app.catalog) := by
  intro answer catalog
  obtain ⟨response, heffect, hstatus, hbody⟩ := app.exists_effect request
  have hanswer : answer.status = response.status := hstatus
  generalize hnext : (app.handle request).2 = next at heffect
  have hcatalog : catalog = next.catalog := congrArg App.catalog hnext
  rw [hanswer, hcatalog]
  cases heffect with
  | kept hne => exact ⟨.inl rfl, fun h => absurd h hne, fun _ => rfl⟩
  | counted counters hok =>
    refine ⟨.inl rfl, fun h => ?_, fun _ => rfl⟩
    rw [hok] at h
    cases h
  | loaded hposts hload =>
    -- the body of the answer is not lost, because the method is not `HEAD`
    have hmethod : request.method ≠ "HEAD" := hposts.method.trans_ne (by decide)
    refine ⟨.inr (.inl ⟨rfl, hposts.method, ?_, _, _, hposts.body, hload, hbody hmethod⟩), ?_, ?_⟩
    · rw [Route.path?_of_ofRequest hposts.route, Route.path_templates]
    · intro h
      cases h
    · intro h
      exact absurd h (by simp)
  | removed hdeletes hremove =>
    -- name and language stand in the path, so the key is known from it
    obtain ⟨hmethod, name, language, hroute, hname, hlanguage⟩ := hdeletes
    refine ⟨.inr (.inr rfl), fun _ => ⟨hmethod, name, language, _, ?_, hname, hlanguage,
      Catalog.find?_of_remove hremove⟩, ?_⟩
    · rw [Route.path?_of_ofRequest hroute, Route.path_template]
    · intro h
      exact absurd h (by simp)

end Courier.Http.App
