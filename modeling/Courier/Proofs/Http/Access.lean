import Courier.Proofs.Http.Handling

/-!
# Requests without the key

Where a key is configured, a request that does not show it is stopped at a gate, unless it asks for
the health of the service or for the metrics (`App.exists_stops_of_shutOut`). A gate looks at the
settings and the policy alone, which no request changes, so such requests neither do nor learn
anything: a run of requests is answered as if they had not been sent (`App.run_filter_shutOut`).
-/

namespace Courier.Http

/-- A header with the name of the API key has the key as its value. -/
def Request.ShowsKey (request : Request) (key : String) : Prop :=
  ∃ header ∈ request.headers, lower header.1 = App.keyHeader ∧ header.2 = key

instance (request : Request) (key : String) : Decidable (request.ShowsKey key) :=
  inferInstanceAs (Decidable (∃ header ∈ request.headers, _ ∧ _))

/-- A request asks for something that is not open to all, and does not show the key. -/
def Request.ShutOut (request : Request) (key : String) : Prop :=
  request.path? ≠ some "/health".toList ∧ request.path? ≠ some "/metrics".toList ∧
    ¬ request.ShowsKey key

instance (request : Request) (key : String) : Decidable (request.ShutOut key) :=
  inferInstanceAs (Decidable (_ ∧ _ ∧ _))

variable {request : Request} {key : String}

/-- A header that is found is one of the headers. -/
theorem Headers.exists_of_text? {headers : Headers} {name value : String}
    (h : headers.text? name = some value) :
    ∃ header ∈ headers, lower header.1 = lower name ∧ header.2 = value := by
  obtain ⟨hget, -⟩ := Option.filter_eq_some_iff.mp h
  obtain ⟨header, hfind, hvalue⟩ := Option.map_eq_some_iff.mp hget
  have hname : lower header.1 = lower name := by simpa using List.find?_some hfind
  exact ⟨header, List.mem_of_find?_eq_some hfind, hname, hvalue⟩

/-- An address that is open to all is that of the health or that of the metrics. -/
theorem Route.isGuarded_of_shutOut {route : Route} (hroute : Route.ofRequest request = some route)
    (h : request.ShutOut key) : route.isGuarded := by
  have hpath : request.path? = some route.path := Route.path?_of_ofRequest hroute
  cases route with
  | health => exact absurd hpath h.1
  | metrics => exact absurd hpath h.2.1
  | _ => rfl

namespace App

variable {app : App}

/-- Headers without the key have a fault, and it is one of authentication. -/
theorem exists_keyFault?_of_not_showsKey (h : ¬ request.ShowsKey key) :
    ∃ error, keyFault? (some key) request.headers = some error ∧ error.status = 401 := by
  cases hshown : request.headers.text? keyHeader with
  | none =>
    refine ⟨.auth "Missing X-API-Key header", ?_, rfl⟩
    rw [keyFault?, hshown]
  | some shown =>
    have hne : shown ≠ key := by
      rintro rfl
      exact h (Headers.exists_of_text? hshown)
    refine ⟨.auth "Invalid API key", ?_, rfl⟩
    rw [keyFault?, hshown]
    exact if_neg hne

/-- A request that is shut out does not get past the gates. -/
theorem exists_stops_of_shutOut (hkey : app.settings.apiKey = some key) (h : request.ShutOut key) :
    ∃ response, app.Stops request response := by
  rcases app.stops_or_letsIn request with hstops | ⟨limit, route, hlets⟩
  · exact hstops
  · -- the request is let in to a guarded address, where its headers would have to show the key
    obtain ⟨error, hfault, -⟩ := exists_keyFault?_of_not_showsKey h.2.2
    have hnone := hlets.no_fault (Route.isGuarded_of_shutOut hlets.route_eq h)
    rw [hkey, hfault] at hnone
    cases hnone

/-- A request that is shut out leaves the state as it is. -/
theorem handle_snd_of_shutOut (hkey : app.settings.apiKey = some key) (h : request.ShutOut key) :
    (app.handle request).2 = app := by
  obtain ⟨response, hstops⟩ := exists_stops_of_shutOut hkey h
  rw [hstops.handle_eq]

/-- The answer to a request that is shut out has nothing to do with the state. -/
theorem handle_fst_of_shutOut (hkey : app.settings.apiKey = some key) (h : request.ShutOut key)
    (catalog : Catalog) (counters : Counters) :
    ({ app with catalog, counters }.handle request).1 = (app.handle request).1 := by
  obtain ⟨response, hstops⟩ := exists_stops_of_shutOut hkey h
  rw [hstops.handle_eq, (hstops.of_state catalog counters).handle_eq]

/-- At an address and with a method that it knows, the answer is that the key is missing or
wrong. -/
theorem status_of_shutOut {route : Route} {limit : Nat} (hkey : app.settings.apiKey = some key)
    (h : request.ShutOut key) (hroute : Route.ofRequest request = some route)
    (hmethod : request.method ∈ route.methods)
    (hlimit : readLimit? app.settings.server.bodyLimit request.headers = some limit) :
    (app.handle request).1.status = 401 := by
  have hne : request.method ≠ "OPTIONS" := by
    intro hoptions
    rw [hoptions] at hmethod
    cases route <;> simp [Route.methods] at hmethod
  obtain ⟨error, hfault, hstatus⟩ := exists_keyFault?_of_not_showsKey h.2.2
  have hstops : app.Stops request (app.withPolicy request (refusal error)) :=
    .locked hne hlimit hroute (Route.isGuarded_of_shutOut hroute h) (by rw [hkey, hfault])
  rw [hstops.handle_eq, status_sent, status_withPolicy]
  exact hstatus

/-- Without the requests that are shut out, a run gives the answers to the others as before, and
ends in the same state. -/
theorem run_filter_shutOut (hkey : app.settings.apiKey = some key) (requests : List Request) :
    app.run (requests.filter fun request => ¬ request.ShutOut key)
      = (((requests.zip (app.run requests).1).filter fun pair => ¬ pair.1.ShutOut key).map Prod.snd,
          (app.run requests).2) := by
  induction requests generalizing app with
  | nil => rfl
  | cons request rest ih =>
    have hnext : (app.handle request).2.settings.apiKey = some key := by
      rw [settings_handle, hkey]
    rw [run_cons, List.zip_cons_cons]
    by_cases h : request.ShutOut key
    · -- the state is the same behind the request, so the rest is run from where it began
      rw [List.filter_cons_of_neg (by simpa using h), List.filter_cons_of_neg (by simpa using h),
        handle_snd_of_shutOut hkey h]
      exact ih hkey
    · rw [List.filter_cons_of_pos (by simpa using h), List.filter_cons_of_pos (by simpa using h),
        run_cons, ih hnext]
      rfl

/-- **The key shuts out.** Where a key is configured, a request that does not show it and asks for
neither health nor metrics changes neither catalog nor counters, and its answer is the same whatever
these are. The answer has status 401 if the request is let through by the limit for bodies to an
address and a method that are known. So of any requests, those that are shut out can be left out:
the answers to all others stay the same, and so does the state after them. -/
theorem shutOut_isolated (hkey : app.settings.apiKey = some key) :
    (∀ request : Request, request.ShutOut key →
      (app.handle request).2 = app ∧
      (∀ catalog counters,
        ({ app with catalog, counters }.handle request).1 = (app.handle request).1) ∧
      ∀ route limit, Route.ofRequest request = some route → request.method ∈ route.methods →
        readLimit? app.settings.server.bodyLimit request.headers = some limit →
        (app.handle request).1.status = 401) ∧
    ∀ requests : List Request,
      app.run (requests.filter fun request => ¬ request.ShutOut key)
        = (((requests.zip (app.run requests).1).filter fun pair => ¬ pair.1.ShutOut key).map
            Prod.snd, (app.run requests).2) := by
  refine ⟨fun request h => ⟨handle_snd_of_shutOut hkey h, handle_fst_of_shutOut hkey h, ?_⟩,
    run_filter_shutOut hkey⟩
  intro route limit hroute hmethod hlimit
  exact status_of_shutOut hkey h hroute hmethod hlimit

/-- A service that asks for a key, with a template. -/
def lockedApp : App where
  settings := { Settings.default with apiKey := some "open sesame" }
  policy := .any
  catalog :=
    ⟨1, 1, [(⟨"note", "en"⟩, { (default : Template) with name := "note", language := "en" })]⟩
  counters := .zero
  uptime := 0

/-- A removal by somebody who does not know the key. -/
def strangeRemoval : Request :=
  ⟨"DELETE", "/api/v1/templates/note/en", [("X-API-Key", "open")], ""⟩

/-- The removal is refused, and the template stays. -/
theorem strangeRemoval_isolated :
    lockedApp.settings.apiKey = some "open sesame" ∧ strangeRemoval.ShutOut "open sesame" ∧
      (lockedApp.handle strangeRemoval).1.status = 401 ∧
      (lockedApp.handle strangeRemoval).2 = lockedApp := by
  have hkey : lockedApp.settings.apiKey = some "open sesame" := rfl
  have hshut : strangeRemoval.ShutOut "open sesame" := by decide
  obtain ⟨hstate, -, hstatus⟩ := (shutOut_isolated hkey).1 strangeRemoval hshut
  exact ⟨hkey, hshut, hstatus (.template "note" "en") _ rfl (by decide) rfl, hstate⟩

end App

end Courier.Http
