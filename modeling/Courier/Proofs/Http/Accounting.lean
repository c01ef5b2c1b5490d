import Courier.Proofs.Decode.Member
import Courier.Proofs.Http.Reachable
import Mathlib.Algebra.GroupWithZero.Nat

/-!
# What the counters count

What a request adds to the counters can be read off the request and the answer to it
(`Counters.Accounts`): a request to one of five addresses that is answered with status 200, and the
slots and fallbacks that the answer tells of. One request keeps this account
(`App.Accounted.handle`), and accounts of consecutive requests add up (`Counters.Accounts.trans`),
so every run keeps it (`App.accounts_run`). The number of templates is not counted, and the metrics,
the health of the service and the list of templates agree on it.
-/

namespace Courier

open Http

/-! ## Answers -/

namespace Http.Response

/-- A member of the value that a response has as its body. -/
def member? (response : Response) (key : String) : Option Json :=
  match response.body with
  | .json value => value.member? key
  | _ => none

theorem member?_json {members : List (String × Option Json)} {status : Nat}
    (hmembers : (members.map Prod.fst).Nodup) (key : String) :
    (json status (.object members)).member? key = (Assoc.find? key members).join :=
  Json.member?_object hmembers key

/-- The total that a response gives; zero if it gives none. -/
def total (response : Response) : Nat :=
  match response.member? "total" with
  | some (.num (.int n)) => n.toNat
  | _ => 0

/-- The fallbacks that a response lists. -/
def fallbacks (response : Response) : List Json :=
  match response.member? "fallbacks" with
  | some (.arr items) => items
  | _ => []

end Http.Response

/-- A request was sent to an address and answered with success. -/
def Http.Served (route : Route) (exchange : Request × Response) : Prop :=
  exchange.1.method = "POST" ∧ Route.ofRequest exchange.1 = some route ∧ exchange.2.status = 200

instance (route : Route) : DecidablePred (Served route) := fun _ =>
  inferInstanceAs (Decidable (_ ∧ _ ∧ _))

/-- A request is sent to one address only. -/
theorem Http.Served.served_iff {route other : Route} {exchange : Request × Response}
    (h : Served route exchange) : Served other exchange ↔ other = route := by
  constructor
  · intro hother
    exact Option.some.inj (hother.2.1.symm.trans h.2.1)
  · rintro rfl
    exact h

namespace SessionKind

variable (kind : SessionKind)

theorem route_ne_templates : kind.route ≠ .templates := by cases kind <;> decide

theorem route_ne_slots : kind.route ≠ .slots := by cases kind <;> decide

theorem route_ne_compile : kind.route ≠ .compile := by cases kind <;> decide

theorem route_inj {kind other : SessionKind} : other.route = kind.route ↔ other = kind := by
  cases kind <;> cases other <;> decide

end SessionKind

/-- An item of a list of fallbacks has a kind. -/
def FallbackKind.Of (kind : FallbackKind) (item : Json) : Prop :=
  item.member? "kind" = some (.str kind.name)

instance (kind : FallbackKind) : DecidablePred kind.Of := fun _ =>
  inferInstanceAs (Decidable (_ = _))

/-- A written fallback has its own kind and no other. -/
theorem FallbackKind.of_toJson {kind : FallbackKind} {fallback : Fallback} :
    kind.Of fallback.toJson ↔ fallback.kind = kind := by
  have hmember : fallback.toJson.member? "kind" = some (.str fallback.kind.name) :=
    Json.member?_object (by simp) "kind"
  have hname : fallback.kind.name = kind.name ↔ fallback.kind = kind := by
    cases fallback.kind <;> cases kind <;> decide
  rw [Of, hmember, Option.some.injEq, Json.str.injEq, hname]

namespace Counters

/-! ## Samples -/

variable {before between after counters : Counters} {exchange : Request × Response}

/-- The value of a sample of the counters. -/
def sample (counters : Counters) (name : String) : Nat :=
  (counters.samples.lookup name).getD 0

theorem sample_extractions :
    counters.sample "waba_template_extractions_total" = counters.extractions := rfl

theorem sample_slotsExtracted :
    counters.sample "waba_template_slots_extracted_total" = counters.slotsExtracted := rfl

theorem sample_compiledComplete :
    counters.sample (labelled "waba_template_payloads_compiled_total" "outcome" "complete")
      = counters.compiledComplete := rfl

theorem sample_compiledWithFallbacks :
    counters.sample (labelled "waba_template_payloads_compiled_total" "outcome" "with_fallbacks")
      = counters.compiledWithFallbacks := rfl

theorem sample_fallbacks (kind : FallbackKind) :
    counters.sample (labelled "waba_template_fallbacks_applied_total" "kind" kind.name)
      = counters.fallbacks kind := by
  cases kind <;> rfl

theorem sample_sessionMessages (kind : SessionKind) :
    counters.sample (labelled "waba_template_session_messages_total" "kind" kind.name)
      = counters.sessionMessages kind := by
  cases kind <;> rfl

/-! ## Accounts -/

/-- A sample has risen by a number. -/
def Rises (before after : Counters) (name : String) (n : Nat) : Prop :=
  after.sample name = before.sample name + n

/-- The samples have risen by what the answers to requests say. -/
structure Accounts (before after : Counters) (exchanges : List (Request × Response)) : Prop where
  /-- Extractions are the answers with slots. -/
  extractions : Rises before after "waba_template_extractions_total"
    (exchanges.countP (Served .slots))
  /-- Their slots are added up. -/
  slotsExtracted : Rises before after "waba_template_slots_extracted_total"
    ((exchanges.filter (Served .slots)).map (·.2.total)).sum
  /-- Complete payloads are the answers with a payload and without fallbacks. -/
  compiledComplete : Rises before after
    (labelled "waba_template_payloads_compiled_total" "outcome" "complete")
    (exchanges.countP fun e => Served .compile e ∧ e.2.fallbacks = [])
  /-- The other payloads are the answers with fallbacks. -/
  compiledWithFallbacks : Rises before after
    (labelled "waba_template_payloads_compiled_total" "outcome" "with_fallbacks")
    (exchanges.countP fun e => Served .compile e ∧ e.2.fallbacks ≠ [])
  /-- The fallbacks of each kind are added up. -/
  fallbacks (kind : FallbackKind) : Rises before after
    (labelled "waba_template_fallbacks_applied_total" "kind" kind.name)
    ((exchanges.filter (Served .compile)).map (·.2.fallbacks.countP kind.Of)).sum
  /-- Session messages of each kind are the answers at its address. -/
  sessionMessages (kind : SessionKind) : Rises before after
    (labelled "waba_template_session_messages_total" "kind" kind.name)
    (exchanges.countP (Served kind.route))

theorem Rises.trans {name : String} {m n : Nat} (h : Rises before between name m)
    (h' : Rises between after name n) : Rises before after name (m + n) := by
  rw [Rises, h', h, Nat.add_assoc]

namespace Accounts

theorem refl (counters : Counters) : counters.Accounts counters [] where
  extractions := rfl
  slotsExtracted := rfl
  compiledComplete := rfl
  compiledWithFallbacks := rfl
  fallbacks _ := rfl
  sessionMessages _ := rfl

/-- Accounts of consecutive requests add up. -/
theorem trans {earlier later : List (Request × Response)} (h : before.Accounts between earlier)
    (h' : between.Accounts after later) : before.Accounts after (earlier ++ later) where
  extractions := by
    rw [List.countP_append]
    exact h.extractions.trans h'.extractions
  slotsExtracted := by
    rw [List.filter_append, List.map_append, List.sum_append]
    exact h.slotsExtracted.trans h'.slotsExtracted
  compiledComplete := by
    rw [List.countP_append]
    exact h.compiledComplete.trans h'.compiledComplete
  compiledWithFallbacks := by
    rw [List.countP_append]
    exact h.compiledWithFallbacks.trans h'.compiledWithFallbacks
  fallbacks kind := by
    rw [List.filter_append, List.map_append, List.sum_append]
    exact (h.fallbacks kind).trans (h'.fallbacks kind)
  sessionMessages kind := by
    rw [List.countP_append]
    exact (h.sessionMessages kind).trans (h'.sessionMessages kind)

/-- Nothing is counted for a request that is not sent to one of the five addresses with success. -/
theorem idle (h : ∀ route, Served route exchange → route = .templates) :
    counters.Accounts counters [exchange] := by
  have hslots : ¬ Served .slots exchange := fun hserved => nomatch h _ hserved
  have hcompile : ¬ Served .compile exchange := fun hserved => nomatch h _ hserved
  have hsession (kind : SessionKind) : ¬ Served kind.route exchange :=
    fun hserved => kind.route_ne_templates (h _ hserved)
  constructor <;> simp [Rises, hslots, hcompile, hsession]

/-- An extraction counts for itself, with the slots that its answer has in total. -/
theorem extraction {slots : List Slot} (h : Served .slots exchange)
    (htotal : exchange.2.total = slots.length) :
    counters.Accounts (counters.recordExtraction slots) [exchange] where
  extractions := by simp [Rises, sample_extractions, recordExtraction, h]
  slotsExtracted := by simp [Rises, sample_slotsExtracted, recordExtraction, h, htotal]
  compiledComplete := by
    simp [Rises, sample_compiledComplete, recordExtraction, h.served_iff]
  compiledWithFallbacks := by
    simp [Rises, sample_compiledWithFallbacks, recordExtraction, h.served_iff]
  fallbacks kind := by simp [Rises, sample_fallbacks, recordExtraction, h.served_iff]
  sessionMessages kind := by
    simp [Rises, sample_sessionMessages, recordExtraction, h.served_iff, kind.route_ne_slots]

/-- A payload counts by whether its answer lists fallbacks, and these count by kind. -/
theorem compilation {fallbacks : List Fallback} (h : Served .compile exchange)
    (hfallbacks : exchange.2.fallbacks = fallbacks.map Fallback.toJson) :
    counters.Accounts (counters.recordCompiled fallbacks) [exchange] where
  extractions := by simp [Rises, sample_extractions, recordCompiled, h.served_iff]
  slotsExtracted := by simp [Rises, sample_slotsExtracted, recordCompiled, h.served_iff]
  compiledComplete := by
    simp [Rises, sample_compiledComplete, recordCompiled, h, hfallbacks]
  compiledWithFallbacks := by
    simp [Rises, sample_compiledWithFallbacks, recordCompiled, h, hfallbacks]
  fallbacks kind := by
    simp [Rises, sample_fallbacks, recordCompiled, h, hfallbacks, List.countP_map,
      Function.comp_def, FallbackKind.of_toJson]
  sessionMessages kind := by
    simp [Rises, sample_sessionMessages, recordCompiled, h.served_iff, kind.route_ne_compile]

/-- A session message counts under its kind. -/
theorem session (kind : SessionKind) (h : Served kind.route exchange) :
    counters.Accounts (counters.recordSession kind) [exchange] := by
  have hslots : ¬ Served .slots exchange := fun hserved =>
    kind.route_ne_slots (h.served_iff.mp hserved).symm
  have hcompile : ¬ Served .compile exchange := fun hserved =>
    kind.route_ne_compile (h.served_iff.mp hserved).symm
  have hsession (other : SessionKind) : Served other.route exchange ↔ other = kind :=
    h.served_iff.trans SessionKind.route_inj
  constructor
  case sessionMessages =>
    intro other
    simp [Rises, sample_sessionMessages, recordSession, hsession, List.countP_singleton]
  case fallbacks =>
    intro other
    simp [Rises, sample_fallbacks, recordSession, hcompile]
  · simp [Rises, sample_extractions, recordSession, hslots]
  · simp [Rises, sample_slotsExtracted, recordSession, hslots]
  · simp [Rises, sample_compiledComplete, recordSession, hcompile]
  · simp [Rises, sample_compiledWithFallbacks, recordSession, hcompile]

/-- An account looks at whether a request was served and, if its method is `POST`, at the body of
the answer. -/
theorem congr {exchange' : Request × Response}
    (hserved : ∀ route, Served route exchange' ↔ Served route exchange)
    (hbody : exchange.1.method = "POST" → exchange'.2.body = exchange.2.body)
    (h : before.Accounts after [exchange]) : before.Accounts after [exchange'] := by
  have htotal (hslots : Served .slots exchange) : exchange'.2.total = exchange.2.total := by
    rw [Response.total, Response.total, Response.member?, Response.member?, hbody hslots.1]
  have hfallbacks (hcompile : Served .compile exchange) :
      exchange'.2.fallbacks = exchange.2.fallbacks := by
    rw [Response.fallbacks, Response.fallbacks, Response.member?, Response.member?,
      hbody hcompile.1]
  constructor
  case extractions => simpa [Rises, List.countP_singleton, hserved] using h.extractions
  case sessionMessages =>
    intro kind
    simpa [Rises, List.countP_singleton, hserved] using h.sessionMessages kind
  case slotsExtracted =>
    by_cases hslots : Served .slots exchange
    · simpa [Rises, hserved, hslots, htotal hslots] using h.slotsExtracted
    · simpa [Rises, hserved, hslots] using h.slotsExtracted
  -- the three others look at the fallbacks of a payload
  all_goals by_cases hcompile : Served .compile exchange
  · simpa [Rises, hserved, hcompile, hfallbacks hcompile, List.countP_singleton]
      using h.compiledComplete
  · simpa [Rises, hserved, hcompile] using h.compiledComplete
  · simpa [Rises, hserved, hcompile, hfallbacks hcompile, List.countP_singleton]
      using h.compiledWithFallbacks
  · simpa [Rises, hserved, hcompile] using h.compiledWithFallbacks
  · intro kind
    simpa [Rises, hserved, hcompile, hfallbacks hcompile] using h.fallbacks kind
  · intro kind
    simpa [Rises, hserved, hcompile] using h.fallbacks kind

end Accounts

end Counters

/-! ## Requests -/

namespace Http.App

variable {app : App} {request : Request} {limit : Nat} {route : Route}

/-- The answer to a request accounts for what was counted. -/
def Accounted (app : App) (request : Request) (result : Response × App) : Prop :=
  app.counters.Accounts result.2.counters [(request, result.1)]

namespace Accounted

theorem failed {response : Response} (h : 400 ≤ response.status) :
    app.Accounted request (response, app) :=
  .idle fun _ hserved => absurd hserved.2.2 (by show response.status ≠ 200; omega)

/-- Only requests with the method `POST` are counted. -/
theorem of_method_ne {response : Response} {next : App} (h : request.method ≠ "POST")
    (hcounters : next.counters = app.counters) : app.Accounted request (response, next) := by
  rw [Accounted, hcounters]
  exact .idle fun _ hserved => absurd hserved.1 h

theorem slotsAnswer (hmethod : request.method = "POST")
    (hroute : Route.ofRequest request = some .slots) (slots : List Slot) :
    app.Accounted request (app.slotsAnswer slots) := by
  have htotal : (app.slotsAnswer slots).1.member? "total" = some (.ofNat slots.length) :=
    Response.member?_json (by simp) "total"
  refine .extraction ⟨hmethod, hroute, rfl⟩ ?_
  rw [Response.total, htotal]
  rfl

theorem of_done {result : Response × App} (h : app.Done request result) :
    app.Accounted request result := by
  cases h with
  | refused error => exact failed (le_status_refusal error)
  | misspelt => exact failed (by simp)
  | shown hmethod => exact of_method_ne (hmethod.trans_ne (by decide)) rfl
  | measured hmethod => exact of_method_ne (hmethod.trans_ne (by decide)) rfl
  | loaded hposts =>
    exact .idle fun route hserved => Option.some.inj (hserved.2.1.symm.trans hposts.route)
  | removed hdeletes => exact of_method_ne (hdeletes.1.trans_ne (by decide)) rfl
  | extracted hmethod hroute slots => exact slotsAnswer hmethod hroute slots
  | compiled hmethod hroute compilation =>
    refine .compilation ⟨hmethod, hroute, rfl⟩ ?_
    rw [Response.fallbacks, Response.member?_json (by simp) "fallbacks"]
    rfl
  | made hmethod kind hroute => exact .session kind ⟨hmethod, hroute, rfl⟩

theorem of_outcome {result : Response × App} (h : app.Outcome request result) :
    app.Accounted request result := by
  cases h with
  | done h => exact of_done h
  | untaken fault => exact failed (le_status_response _ fault)
  | unknown => exact failed (by simp)

theorem answerAt (hroute : Route.ofRequest request = some route) :
    app.Accounted request (app.answerAt request limit route) := by
  have houtcome := @Outcome.answerAt app request limit route hroute
  split at houtcome
  · rename_i hhead
    -- neither `GET` nor `HEAD` is counted
    refine (of_outcome houtcome).congr (fun route => ?_) fun hpost => absurd hpost (by simp)
    simp [Served, hhead]
  · exact of_outcome houtcome

/-- **Every request is accounted for.** -/
theorem handle (app : App) (request : Request) : app.Accounted request (app.handle request) := by
  rcases app.stops_or_letsIn request with ⟨response, h⟩ | ⟨limit, route, h⟩
  · rw [h.handle_eq]
    refine .idle fun route hserved => ?_
    have hfailed := h.le_status (hserved.1.trans_ne (by decide))
    have hok : (sent request response).status = 200 := hserved.2.2
    rw [status_sent] at hok
    omega
  · rw [h.handle_eq]
    have hanswer : app.Accounted request (app.answerAt request limit route) := answerAt h.route_eq
    refine hanswer.congr (fun route => ?_) fun hpost => ?_
    · rw [Served, Served, status_sent, status_withPolicy]
    · exact body_sent (hpost.trans_ne (by decide))

end Accounted

/-- **Every run is accounted for.** -/
theorem accounts_run (app : App) (requests : List Request) :
    app.counters.Accounts (app.run requests).2.counters (requests.zip (app.run requests).1) := by
  induction requests generalizing app with
  | nil => exact .refl _
  | cons request rest ih =>
    rw [run_cons, List.zip_cons_cons]
    exact (Accounted.handle app request).trans (ih _)

/-- A request that is not answered with success is not counted. -/
theorem counters_handle_of_ne (h : (app.handle request).1.status ≠ 200) :
    (app.handle request).2.counters = app.counters := by
  obtain ⟨response, heffect, hstatus, -⟩ := app.exists_effect request
  generalize (app.handle request).2 = next at heffect
  cases heffect with
  | kept | loaded | removed => rfl
  | counted counters hok => exact absurd (hstatus.trans hok) h

/-! ## The number of templates -/

/-- A key with a fault is answered with status 401. -/
theorem status_of_keyFault? {expected : Option String} {headers : Headers} {error : AppError}
    (h : keyFault? expected headers = some error) : error.status = 401 := by
  unfold keyFault? at h
  split at h
  · cases h
  · split at h
    · cases h
      rfl
    · split at h <;> cases h
      rfl

/-- A request to an address is let in, unless its length or its key is refused. -/
theorem exists_letsIn_of_status (hmethod : request.method ≠ "OPTIONS")
    (hroute : Route.ofRequest request = some route) (hlength : (app.handle request).1.status ≠ 413)
    (hkey : (app.handle request).1.status ≠ 401) : ∃ limit, app.LetsIn request limit route := by
  rcases app.stops_or_letsIn request with ⟨response, h⟩ | ⟨limit, other, h⟩
  · rw [h.handle_eq, status_sent] at hlength hkey
    cases h with
    | preflight hoptions => exact absurd hoptions hmethod
    | tooLong => simp at hlength
    | unknown _ _ hnone => simp [hnone] at hroute
    | locked _ _ _ _ hfault => exact absurd (status_of_keyFault? hfault) hkey
  · obtain rfl : other = route := Option.some.inj (h.route_eq.symm.trans hroute)
    exact ⟨limit, h⟩

section Templates

variable (hmethod : request.method = "GET") (hlets : app.LetsIn request limit route)
include hmethod hlets

/-- The metrics show the number of templates and the counters. -/
theorem handle_metrics (hroute : route = .metrics) :
    (app.handle request).1.status = 200 ∧
      (app.handle request).1.body
        = .samples ((Counters.templatesGauge, app.catalog.count) :: app.counters.samples) := by
  subst hroute
  have hact : app.act? request limit .metrics = some (app.metrics, app) := by
    simp only [act?, hmethod]
  obtain ⟨hstatus, hbody, -⟩ := hlets.handle_of_act? (hmethod.trans_ne (by decide)) hact
  exact ⟨hstatus, hbody⟩

/-- The health shows the number of templates. -/
theorem handle_health (hroute : route = .health) :
    (app.handle request).1.status = 200 ∧
      ((app.handle request).1.member? "catalog").bind (·.member? "templates")
        = some (.ofNat app.catalog.count) := by
  subst hroute
  have hact : app.act? request limit .health = some (app.health, app) := by
    simp only [act?, hmethod]
  obtain ⟨hstatus, hbody, -⟩ := hlets.handle_of_act? (hmethod.trans_ne (by decide)) hact
  refine ⟨hstatus, ?_⟩
  have hcatalog : app.health.member? "catalog"
      = some (.object [("templates", some (.ofNat app.catalog.count))]) :=
    Response.member?_json (by simp) "catalog"
  rw [Response.member?, hbody]
  exact (congrArg (Option.bind · _) hcatalog).trans (Json.member?_object (by simp) "templates")

/-- The list of templates shows their number. -/
theorem handle_templates (hroute : route = .templates) :
    (app.handle request).1.status = 200 ∧
      (app.handle request).1.member? "total" = some (.ofNat app.catalog.count) := by
  subst hroute
  have hact : app.act? request limit .templates = some (app.listTemplates, app) := by
    simp only [act?, hmethod]
  obtain ⟨hstatus, hbody, -⟩ := hlets.handle_of_act? (hmethod.trans_ne (by decide)) hact
  refine ⟨hstatus, ?_⟩
  have hlength : app.catalog.options.length = app.catalog.count := by
    rw [Catalog.options, List.length_map, Catalog.list, List.length_map, Catalog.count]
  have htotal : app.listTemplates.member? "total" = some (.ofNat app.catalog.options.length) :=
    Response.member?_json (by simp) "total"
  rw [Response.member?, hbody, ← hlength]
  exact htotal

end Templates

/-- **The metrics account for the answers.** Over any requests, the samples of the counters rise by
what the answers say, and no request with an answer of another status than 200 changes them. The
metrics show these samples and the number of templates, which the health of the service and the list
of templates show as well, wherever neither the length nor the key of the request is refused. -/
theorem metrics_account (app : App) (requests : List Request) :
    let responses := (app.run requests).1
    let last := (app.run requests).2
    app.counters.Accounts last.counters (requests.zip responses) ∧
      (∀ request, (last.handle request).1.status ≠ 200 →
        (last.handle request).2.counters = last.counters) ∧
      ∃ templates, ∀ request route, request.method = "GET" →
        Route.ofRequest request = some route → (last.handle request).1.status ≠ 413 →
        (last.handle request).1.status ≠ 401 →
        (route = .metrics → (last.handle request).1.status = 200 ∧
          (last.handle request).1.body
            = .samples ((Counters.templatesGauge, templates) :: last.counters.samples)) ∧
        (route = .health → (last.handle request).1.status = 200 ∧
          ((last.handle request).1.member? "catalog").bind (·.member? "templates")
            = some (.ofNat templates)) ∧
        (route = .templates → (last.handle request).1.status = 200 ∧
          (last.handle request).1.member? "total" = some (.ofNat templates)) := by
  intro responses last
  refine ⟨app.accounts_run requests, fun _ => counters_handle_of_ne, last.catalog.count, ?_⟩
  intro request route hmethod hroute hlength hkey
  obtain ⟨limit, hlets⟩ :=
    exists_letsIn_of_status (hmethod.trans_ne (by decide)) hroute hlength hkey
  exact ⟨handle_metrics hmethod hlets, handle_health hmethod hlets, handle_templates hmethod hlets⟩

/-- A request with a JSON body. -/
def posting (target body : String) : Request :=
  ⟨"POST", target, [("content-type", "application/json")], body⟩

/-- A reference to a greeting, as a member of a body. -/
def helloReference : String :=
  "\"template_ref\":\x7b\"name\":\"greeting\",\"language\":\"en\"\x7d"

/-- A greeting is loaded, its slots are asked for, and it is compiled without a value. -/
def helloRequests : List Request :=
  [posting "/api/v1/templates" ("\x7b\"data\":[\x7b\"name\":\"greeting\",\"language\":\"en\","
      ++ "\"components\":[\x7b\"type\":\"BODY\",\"text\":\"Hello \x7b\x7b1\x7d\x7d\"\x7d]\x7d]\x7d"),
    posting "/api/v1/templates/slots" ("\x7b" ++ helloReference ++ "\x7d"),
    posting "/api/v1/messages/template"
      ("\x7b\"from\":\"1\",\"to\":\"+15550100\"," ++ helloReference ++ "\x7d")]

/-- A request for what is at a path. -/
def getting (path : String) : Request :=
  ⟨"GET", path, [], ""⟩

/-- The greeting has one slot, which it was compiled without. -/
theorem helloRequests_account :
    let last := (freshApp.run helloRequests).2
    Counters.zero.Rises last.counters "waba_template_extractions_total" 1 ∧
      Counters.zero.Rises last.counters "waba_template_slots_extracted_total" 1 ∧
      Counters.zero.Rises last.counters
        (Counters.labelled "waba_template_payloads_compiled_total" "outcome" "with_fallbacks") 1 ∧
      Counters.zero.Rises last.counters
        (Counters.labelled "waba_template_fallbacks_applied_total" "kind" "raw_token") 1 ∧
      (last.handle (getting "/nowhere")).1.status = 404 ∧
      (last.handle (getting "/nowhere")).2.counters = last.counters ∧
      (last.handle (getting "/health")).1.status = 200 ∧
      (last.handle (getting "/metrics")).1.status = 200 ∧
      (last.handle (getting "/metrics")).1.body
        = .samples ((Counters.templatesGauge, 1) :: last.counters.samples) := by
  obtain ⟨haccounts, hkept, templates, hreports⟩ := metrics_account freshApp helloRequests
  -- one evaluation of the run gives all that is needed of it
  have hrun :
      (helloRequests.zip (freshApp.run helloRequests).1).countP (Served .slots) = 1 ∧
      (((helloRequests.zip (freshApp.run helloRequests).1).filter
        (Served .slots)).map (·.2.total)).sum = 1 ∧
      (helloRequests.zip (freshApp.run helloRequests).1).countP
        (fun e => Served .compile e ∧ e.2.fallbacks ≠ []) = 1 ∧
      (((helloRequests.zip (freshApp.run helloRequests).1).filter
        (Served .compile)).map (·.2.fallbacks.countP FallbackKind.rawToken.Of)).sum = 1 ∧
      ((freshApp.run helloRequests).2.handle (getting "/nowhere")).1.status = 404 ∧
      ((freshApp.run helloRequests).2.handle (getting "/health")).1.status = 200 ∧
      ((freshApp.run helloRequests).2.handle (getting "/metrics")).1.status = 200 ∧
      (((freshApp.run helloRequests).2.handle (getting "/health")).1.member?
        "catalog").bind (·.member? "templates") = some (.ofNat 1) := by
    decide +kernel
  have hzero : freshApp.counters = Counters.zero := rfl
  -- from here on the state is any that is as evaluated
  rw [hzero] at haccounts
  generalize (freshApp.run helloRequests).1 = responses at haccounts hrun
  generalize (freshApp.run helloRequests).2 = last at haccounts hkept hreports hrun ⊢
  obtain ⟨hextractions, hslots, hpayloads, hfallbacks, hnowhere, hhealth, hmetrics, hcount⟩ := hrun
  have hshown := (hreports (getting "/metrics") .metrics rfl (by decide) (by rw [hmetrics]; decide)
    (by rw [hmetrics]; decide)).1 rfl
  have hcounted := (hreports (getting "/health") .health rfl (by decide) (by rw [hhealth]; decide)
    (by rw [hhealth]; decide)).2.1 rfl
  obtain rfl : templates = 1 := by
    have hjson : Json.ofNat templates = Json.ofNat 1 :=
      Option.some.inj (hcounted.2.symm.trans hcount)
    exact Int.ofNat.inj (Number.int.inj (Json.num.inj hjson))
  refine ⟨hextractions ▸ haccounts.extractions, hslots ▸ haccounts.slotsExtracted,
    hpayloads ▸ haccounts.compiledWithFallbacks, hfallbacks ▸ haccounts.fallbacks .rawToken,
    hnowhere, hkept _ ?_, hhealth, hmetrics, hshown.2⟩
  rw [hnowhere]
  decide

end Http.App

end Courier
