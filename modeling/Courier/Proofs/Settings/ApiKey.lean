import Courier.Proofs.Http.Accounting
import Courier.Proofs.Http.Reachable
import Courier.Proofs.Settings.Spelling
import Courier.Settings.Load

/-!
# The key of the service

The key that callers must show can be set by a variable of the environment alone. Its value goes
through the types of settings, so the key of the service is not always the text of the variable but
what the value of that text is written as (`Environment.written`), and this is the one key that the
service takes (`Settings.apiKey_exact`).
-/

namespace Courier

open Http Http.App

namespace Settings

/-- The settings when nothing but a key is set. -/
def withKey (key : String) : Settings :=
  { default with apiKey := some key }

/-- The tree of the defaults. -/
def defaultTree : ConfigValue :=
  .table [("catalog", .table [("max_templates", .int Catalog.defaultCapacity)]),
    ("server", .table [("body_limit", .int defaultBodyLimit), ("host", .text defaultHost),
      ("port", .int defaultPort)])]

theorem layLayer_defaultLayer : ConfigValue.layLayer (.table []) defaultLayer = defaultTree := by
  have hhost : SettingPath.ofText "server.host" = [.name "server", .name "host"] := by decide
  have hport : SettingPath.ofText "server.port" = [.name "server", .name "port"] := by decide
  have hlimit : SettingPath.ofText "server.body_limit" = [.name "server", .name "body_limit"] := by
    decide
  have hcapacity : SettingPath.ofText "catalog.max_templates"
      = [.name "catalog", .name "max_templates"] := by decide
  simp only [ConfigValue.layLayer, defaultLayer, List.foldl_cons, List.foldl_nil, hhost, hport,
    hlimit, hcapacity]
  rfl

/-- With one variable for the key and nothing else, the layers are the defaults and the key. -/
theorem layers?_apiKey (formats : List DocumentFormat) (text : String) :
    layers? formats (fullEnvironment [("API_KEY", text)] []) []
      = some [defaultLayer, [], [], [("api.key", Environment.value text)], []] := by
  have hcommon : fileLayer? formats [] "config/default" = some [] := rfl
  have hmode : fileLayer? formats [] ("config/" ++ defaultRunMode) = some [] := rfl
  show (do
    let common ← fileLayer? formats [] "config/default"
    let ofMode ← fileLayer? formats [] ("config/" ++ defaultRunMode)
    some [defaultLayer, common, ofMode, Environment.layer [("API_KEY", text)],
      overrideLayer [("API_KEY", text)]]) = _
  rw [hcommon, hmode]
  rfl

/-- A value of the key that can be written as a text is the key of the settings. -/
theorem ofTree?_apiKey {value : ConfigValue} {key : String} (h : value.asText? = some key) :
    ofTree? (mergeLayers [defaultLayer, [], [], [("api.key", value)], []])
      = some (withKey key) := by
  have hpath : SettingPath.ofText "api.key" = [.name "api", .name "key"] := by decide
  have htree : mergeLayers [defaultLayer, [], [], [("api.key", value)], []]
      = defaultTree.layAt value [.name "api", .name "key"] := by
    rw [mergeLayers, List.foldl_cons, layLayer_defaultLayer]
    simp only [ConfigValue.layLayer, List.foldl_cons, List.foldl_nil, hpath]
  rw [htree]
  cases value with
  | bool | int | float | text =>
    cases h
    rfl
  | nothing | list | table => cases h

/-- With one variable for the key and nothing else, the settings can be loaded, and the key is what
the value of the variable is written as. -/
theorem loadFrom?_apiKey (formats : List DocumentFormat) (text : String) :
    loadFrom? formats [("API_KEY", text)] [] = some (withKey (Environment.written text)) := by
  rw [loadFrom?]
  show (layers? formats (fullEnvironment [("API_KEY", text)] []) [] >>= fun layers =>
    ofTree? (mergeLayers layers)) = _
  rw [layers?_apiKey]
  exact ofTree?_apiKey (Environment.asText?_value text)

end Settings

namespace Http

/-- The first header for the key has a key that can be read as a text. -/
def Request.Shows (request : Request) (key : String) : Prop :=
  request.headers.get? keyHeader = some key ∧ isReadable key = true

variable {request : Request} {key : String}

theorem Request.shows_iff : request.Shows key ↔ request.headers.text? keyHeader = some key :=
  Option.filter_eq_some_iff.symm

namespace App

/-- There is nothing wrong with headers that show the key, and something with all others. -/
theorem keyFault?_eq_none_iff :
    keyFault? (some key) request.headers = none ↔ request.Shows key := by
  rw [Request.shows_iff, keyFault?]
  split
  · rename_i hnone
    simp [hnone]
  · rename_i shown hshown
    rw [hshown, Option.some_inj]
    by_cases h : shown = key <;> simp [h]

variable {app : App} {route : Route} {limit : Nat}

/-- **A key lets in those who show it and nobody else**, at the guarded addresses. -/
theorem letsIn_iff_shows (hkey : app.settings.apiKey = some key)
    (hmethod : request.method ≠ "OPTIONS")
    (hlimit : readLimit? app.settings.server.bodyLimit request.headers = some limit)
    (hroute : Route.ofRequest request = some route) (hguarded : route.isGuarded) :
    (request.Shows key → app.LetsIn request limit route) ∧
      (¬request.Shows key → (app.handle request).1.status = 401) := by
  constructor
  · intro hshows
    exact ⟨hmethod, hlimit, hroute, fun _ => by rw [hkey, keyFault?_eq_none_iff.mpr hshows]⟩
  · intro hshows
    cases hfault : keyFault? (some key) request.headers with
    | none => exact absurd (keyFault?_eq_none_iff.mp hfault) hshows
    | some error =>
      have hstops : app.Stops request (app.withPolicy request (refusal error)) :=
        .locked hmethod hlimit hroute hguarded (by rw [hkey, hfault])
      rw [hstops.handle_eq, status_sent, status_withPolicy]
      exact status_of_keyFault? hfault

end App

end Http

namespace Settings

/-- **The key of the service is what the value of its variable is written as.** With a variable for
the key and nothing else the settings can be loaded, whatever the text of the variable is and
whatever formats files could be in. The key is the text itself exactly if the text is the one that
its value is written as; and in every state that the service gets into with these settings, a
request to a guarded address is let in if its header shows the written key, and answered with status
401 if it does not. -/
theorem apiKey_exact (text : String) :
    (∀ formats : List DocumentFormat,
      loadFrom? formats [("API_KEY", text)] [] = some (withKey (Environment.written text))) ∧
    (Environment.written text = text ↔ Environment.Verbatim text) ∧
    ∀ (app : App) (request : Request) (route : Route) (limit : Nat),
      Reachable (withKey (Environment.written text)) app → request.method ≠ "OPTIONS" →
      readLimit? app.settings.server.bodyLimit request.headers = some limit →
      Route.ofRequest request = some route → route.isGuarded →
        (request.Shows (Environment.written text) → app.LetsIn request limit route) ∧
        (¬request.Shows (Environment.written text) → (app.handle request).1.status = 401) := by
  refine ⟨fun formats => loadFrom?_apiKey formats text, Environment.written_eq_self_iff, ?_⟩
  intro app request route limit hreachable hmethod hlimit hroute hguarded
  have hkey : app.settings.apiKey = some (Environment.written text) := by
    rw [hreachable.settings_eq]
    rfl
  exact letsIn_iff_shows hkey hmethod hlimit hroute hguarded

/-- Asking for the list of the templates with a key. -/
def listing (key : String) : Request :=
  ⟨"GET", "/api/v1/templates", [("X-API-Key", key)], ""⟩

/-- The service at its start, with a key. -/
def lockedAt (key : String) : App :=
  ⟨withKey key, .any, Catalog.empty (withKey key).maxTemplates, .zero, 0⟩

theorem reachable_lockedAt (key : String) : Reachable (withKey key) (lockedAt key) :=
  .started rfl

/-- A key with letters is taken as it is. -/
theorem apiKey_tulip :
    load? [("API_KEY", "tulip-7")] [] = some (withKey "tulip-7") ∧
    (lockedAt "tulip-7").LetsIn (listing "tulip-7") defaultBodyLimit .templates ∧
    ((lockedAt "tulip-7").handle (listing "7")).1.status = 401 := by
  have hwritten : Environment.written "tulip-7" = "tulip-7" := by decide +kernel
  obtain ⟨hload, -, hrequests⟩ := apiKey_exact "tulip-7"
  rw [hwritten] at hload hrequests
  -- the gates in front of the key are passed by either key
  have hgates : ∀ key ∈ ["tulip-7", "7"], (listing key).method ≠ "OPTIONS" ∧
      readLimit? (lockedAt "tulip-7").settings.server.bodyLimit (listing key).headers
        = some defaultBodyLimit ∧ Route.ofRequest (listing key) = some .templates := by
    decide +kernel
  obtain ⟨hmethod, hlimit, hroute⟩ := hgates "tulip-7" (by simp)
  have hshows := (hrequests _ _ _ _ (reachable_lockedAt _) hmethod hlimit hroute rfl).1
  obtain ⟨hmethod, hlimit, hroute⟩ := hgates "7" (by simp)
  have hlocked := (hrequests _ _ _ _ (reachable_lockedAt _) hmethod hlimit hroute rfl).2
  refine ⟨hload [.json], hshows ⟨rfl, by decide⟩, hlocked fun hshown => ?_⟩
  exact absurd hshown.1 (by decide)

/-- A key of digits loses the zeros in front: the service refuses it, and takes another one. -/
theorem apiKey_zeros :
    load? [("API_KEY", "007")] [] = some (withKey "7") ∧
    ((lockedAt "7").handle (listing "007")).1.status = 401 ∧
    ((lockedAt "7").handle (listing "7")).1.status = 200 := by
  have hwritten : Environment.written "007" = "7" := by decide +kernel
  refine ⟨hwritten ▸ loadFrom?_apiKey [.json] "007", ?_, ?_⟩
  · decide +kernel
  · decide +kernel

end Settings

end Courier
