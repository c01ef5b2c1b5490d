import Courier.Proofs.Http.Reachable

/-!
# Which origins are allowed

Every response passes the origin policy on its way out. The headers of an address say nothing but the
type of the body (`App.Outcome.typeOnly`), so a response allows exactly the origin that the policy
allows (`App.allows_handle_iff`). The policy of a list of origins is settled by those that can be header
values. With at least one of them the list is enforced, but a list without any is taken for no list
at all, and then every origin is allowed (`App.allows_iff`).
-/

namespace Courier.Http

/-! ## Headers that allow an origin -/

/-- The header that names an allowed origin. -/
def allowOriginHeader : String := "access-control-allow-origin"

/-- Headers allow an origin. -/
def Headers.Allow (headers : Headers) (origin : String) : Prop :=
  ∃ header ∈ headers, lower header.1 = allowOriginHeader ∧ header.2 = origin

/-- A response allows an origin. -/
def Response.Allows (response : Response) (origin : String) : Prop :=
  response.headers.Allow origin

variable {origin value : String}

namespace Headers

theorem allow_append {first second : Headers} :
    (first ++ second).Allow value ↔ first.Allow value ∨ second.Allow value := by
  simp only [Allow, List.mem_append, or_and_right, exists_or]

/-- Headers that all have another name allow nothing. -/
theorem not_allow {headers : Headers} (h : ∀ header ∈ headers, lower header.1 ≠ allowOriginHeader) :
    ¬ headers.Allow value := by
  rintro ⟨header, hmem, hname, -⟩
  exact h header hmem hname

end Headers

/-! ## Headers of addresses -/

/-- A response says with its headers of what type its body is, and nothing else. -/
def Response.TypeOnly (response : Response) : Prop :=
  ∀ header ∈ response.headers, header.1 = "content-type"

theorem Response.TypeOnly.not_allow {response : Response} (h : response.TypeOnly) :
    ¬ response.headers.Allow value := by
  refine Headers.not_allow fun header hmem => ?_
  rw [h header hmem]
  decide

namespace Response

@[simp] theorem typeOnly_bare (status : Nat) : (bare status).TypeOnly := by
  simp [bare, TypeOnly]

@[simp] theorem typeOnly_note (status : Nat) (text : String) : (note status text).TypeOnly := by
  simp [note, TypeOnly]

@[simp] theorem typeOnly_json (status : Nat) (value : Json) : (json status value).TypeOnly := by
  simp [json, TypeOnly]

end Response

theorem BodyFault.typeOnly_response (body : String) (fault : BodyFault) :
    (fault.response body).TypeOnly := by
  cases fault with
  | notAnnounced | tooLarge => simp [BodyFault.response]
  | unreadable fault =>
    rw [BodyFault.response]
    split <;> simp

namespace App

variable {app : App} {request : Request} {result : Response × App}

theorem Done.typeOnly (h : app.Done request result) : result.1.TypeOnly := by
  cases h with
  | measured => simp [metrics, Response.TypeOnly]
  | refused | misspelt | shown | loaded | removed | compiled | made => simp [refusal]
  | extracted => simp [slotsAnswer]

/-- Whatever an address does, the headers of its answer are about the type of the body. -/
theorem Outcome.typeOnly (h : app.Outcome request result) : result.1.TypeOnly := by
  cases h with
  | done h => exact h.typeOnly
  | untaken fault => exact fault.typeOnly_response _
  | unknown => simp

end App

/-! ## Policies -/

namespace OriginPolicy

variable {policy : OriginPolicy}

/-- The headers of a policy allow the origin that the policy allows. -/
theorem allow_headers {asking : Option String} :
    (policy.headers asking).Allow value ↔ policy.allowedOrigin asking = some value := by
  have hvary : lower "vary" ≠ allowOriginHeader := by decide
  have hallow : lower "access-control-allow-origin" = allowOriginHeader := by decide
  rw [headers, Headers.Allow]
  cases policy.allowedOrigin asking with
  | none => simp [hvary]
  | some allowed => simp [hvary, hallow]

/-- The headers of an answer to a question about what is allowed allow no other origin. -/
theorem allow_preflightHeaders {asking : Option String} :
    (policy.preflightHeaders asking).Allow value ↔ policy.allowedOrigin asking = some value := by
  have hmore : ¬ Headers.Allow [("access-control-allow-methods", wildcard),
      ("access-control-allow-headers", wildcard)] value := by
    refine Headers.not_allow fun header hmem => ?_
    rcases List.mem_pair.mp hmem with rfl | rfl <;> decide
  rw [preflightHeaders, Headers.allow_append, allow_headers, or_iff_left hmore]

/-- **The policy of a list.** If some entry of the list can be a header value, then the policy allows
an origin exactly to requests from this origin, and only if the list names it. Without such an entry
it allows every origin. -/
theorem allowedOrigin_iff {origins : List String} {asking : Option String}
    (h : ofOrigins origins = some policy) :
    policy.allowedOrigin asking = some value ↔
      if origins.any isHeaderValue then asking = some value ∧ isHeaderValue value ∧ value ∈ origins
      else value = wildcard := by
  rw [ofOrigins] at h
  split at h
  · -- no entry is left, so the policy is the open one
    rename_i hnone
    cases h
    have hany : ¬ origins.any isHeaderValue := by
      simpa [List.filter_eq_nil_iff] using hnone
    rw [if_neg hany, allowedOrigin, Option.some.injEq, eq_comm]
  · rename_i hvalid
    split at h
    · cases h
    · cases h
      have hany : origins.any isHeaderValue := by
        obtain ⟨entry, hentry⟩ := List.exists_mem_of_ne_nil _ hvalid
        obtain ⟨hmem, hvalue⟩ := List.mem_filter.mp hentry
        exact List.any_eq_true.mpr ⟨entry, hmem, hvalue⟩
      rw [if_pos hany, allowedOrigin, Option.filter_eq_some_iff]
      simp [and_comm]

/-- A list can be used exactly if the wildcard is not one of its entries. -/
theorem isSome_ofOrigins {origins : List String} :
    (ofOrigins origins).isSome ↔ wildcard ∉ origins := by
  have hvalue : isHeaderValue wildcard := by decide
  have hmem : wildcard ∈ origins.filter isHeaderValue ↔ wildcard ∈ origins := by
    simp [hvalue]
  rw [ofOrigins, ← hmem]
  split
  · rename_i hnone
    simp [hnone]
  · simp

end OriginPolicy

namespace App

variable {settings : Settings} {app : App} {request : Request}

/-! ## Responses -/

/-- The headers with the known methods and with the length of the body allow nothing. -/
theorem not_allow_sent (request : Request) (body : Body) :
    ¬ Headers.Allow (allowHeader request ++ lengthHeader request body) value := by
  rw [Headers.allow_append, not_or]
  -- both headers are there at most once, and have other names
  constructor
  · refine Headers.not_allow fun header hmem => ?_
    rw [allowHeader] at hmem
    split at hmem
    · cases hmem
    · split at hmem
      · cases hmem
      · rw [List.mem_singleton.mp hmem]
        show lower "allow" ≠ allowOriginHeader
        decide
  · refine Headers.not_allow fun header hmem => ?_
    rw [lengthHeader] at hmem
    split at hmem
    · cases hmem
    · obtain ⟨size, -, rfl⟩ := Option.map_eq_some_iff.mp (Option.mem_toList.mp hmem)
      show lower "content-length" ≠ allowOriginHeader
      decide

theorem allows_sent {response : Response} :
    (sent request response).Allows value ↔ response.Allows value := by
  have hheaders : (sent request response).headers
      = response.headers ++ (allowHeader request ++ lengthHeader request response.body) := by
    dsimp only [sent]
    split <;> rfl
  rw [Response.Allows, hheaders, Headers.allow_append,
    or_iff_left (not_allow_sent request response.body)]
  rfl

theorem allows_withPolicy {response : Response} (h : response.TypeOnly) :
    (app.withPolicy request response).Allows value ↔
      app.policy.allowedOrigin (request.headers.get? "origin") = some value := by
  rw [← OriginPolicy.allow_headers]
  show (response.headers ++ app.policy.headers _).Allow value ↔ _
  rw [Headers.allow_append, or_iff_right h.not_allow]

/-- **A response allows what the policy allows**, and nothing else. -/
theorem allows_handle_iff :
    (app.handle request).1.Allows value ↔
      app.policy.allowedOrigin (request.headers.get? "origin") = some value := by
  rcases app.stops_or_letsIn request with ⟨response, hstops⟩ | ⟨limit, route, hlets⟩
  · rw [hstops.handle_eq, allows_sent]
    cases hstops with
    | preflight => exact OriginPolicy.allow_preflightHeaders
    | tooLong => exact allows_withPolicy (by simp)
    | unknown => exact allows_withPolicy (by simp)
    | locked => exact allows_withPolicy (by simp [refusal])
  · rw [hlets.handle_eq, allows_sent]
    exact allows_withPolicy (Outcome.answerAt hlets.route_eq).typeOnly

/-- The service can be started exactly if the wildcard is not one of the configured origins. -/
theorem isSome_start? :
    (start? settings).isSome ↔ OriginPolicy.wildcard ∉ settings.server.corsOrigins := by
  rw [start?, Option.isSome_map, OriginPolicy.isSome_ofOrigins]

/-- **What becomes of the configured origins.** The service can be started unless the wildcard is one
of them. If some of them can be header values, then every response allows at most the origin of its
request, and allows it exactly if it is one of the configured ones. If there is none of that kind,
then every response allows every origin. -/
theorem allows_iff (settings : Settings) :
    let origins := settings.server.corsOrigins
    ((start? settings).isSome ↔ OriginPolicy.wildcard ∉ origins) ∧
    ∀ app, Reachable settings app → ∀ (request : Request) (value : String),
      (app.handle request).1.Allows value ↔
        if origins.any isHeaderValue then
          request.headers.get? "origin" = some value ∧ isHeaderValue value ∧ value ∈ origins
        else value = OriginPolicy.wildcard := by
  intro origins
  refine ⟨isSome_start?, fun app hreachable request value => ?_⟩
  rw [allows_handle_iff, OriginPolicy.allowedOrigin_iff hreachable.policy_eq]

/-! ## A desk and a stranger -/

/-- The settings with a list of origins. -/
def originSettings (corsOrigins : List String) : Settings :=
  { Settings.default with server := { Settings.defaultServer with corsOrigins } }

/-- The service with a policy for origins, at its start. -/
def originApp (corsOrigins : List String) (policy : OriginPolicy) : App :=
  ⟨originSettings corsOrigins, policy, Catalog.empty Catalog.defaultCapacity, Counters.zero, 0⟩

/-- A question for the health of the service, from a page of an origin. -/
def healthFrom (origin : String) : Request :=
  ⟨"GET", "/health", [("Origin", origin)], ""⟩

/-- Of a desk and an entry that is no header value the desk is left. It is allowed to ask, and a
stranger is not. -/
theorem desk_allowed :
    let app := originApp ["https://desk.example", "a\nb"] (.listed ["https://desk.example"])
    Reachable (originSettings ["https://desk.example", "a\nb"]) app ∧
      (app.handle (healthFrom "https://desk.example")).1.Allows "https://desk.example" ∧
      ∀ value, ¬ (app.handle (healthFrom "https://other.example")).1.Allows value := by
  intro app
  have hreachable : Reachable (originSettings ["https://desk.example", "a\nb"]) app :=
    .started rfl
  have hallows := (allows_iff (originSettings ["https://desk.example", "a\nb"])).2 app hreachable
  have hany : (originSettings ["https://desk.example", "a\nb"]).server.corsOrigins.any
      isHeaderValue := by
    decide
  refine ⟨hreachable, ?_, fun value => ?_⟩
  · rw [hallows, if_pos hany]
    decide
  · rw [hallows, if_pos hany]
    rintro ⟨hasked, -, hlisted⟩
    obtain rfl : "https://other.example" = value := Option.some.inj hasked
    revert hlisted
    decide

/-- A list of origins is not always enforced: with an entry alone that is no header value the service
starts and allows every origin, also to a stranger; and with the wildcard it does not start. -/
theorem stranger_allowed :
    start? (originSettings ["https://desk.example\n"])
        = some (originApp ["https://desk.example\n"] .any) ∧
      ((originApp ["https://desk.example\n"] .any).handle
        (healthFrom "https://other.example")).1.Allows "*" ∧
      "https://other.example" ∉ ["https://desk.example\n"] ∧
      start? (originSettings ["*"]) = none := by
  refine ⟨rfl, ?_, by decide, rfl⟩
  rw [allows_handle_iff]
  rfl

end App

end Courier.Http
