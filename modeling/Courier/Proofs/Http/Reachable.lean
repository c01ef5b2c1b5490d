import Courier.Proofs.Catalog.Refinement
import Courier.Proofs.Http.Handling

/-!
# States of the service

A service starts with an empty catalog, may load a listing from a file, and then takes requests, one
after the other (`App.Reachable`). No state that it gets into this way has other settings or another
origin policy than it started with, and its catalog is always that of a shelf, so that its list holds
the templates that are found under their keys.
-/

namespace Courier.Http.App

variable {settings : Settings} {app : App} {request : Request}

/-- A state that the service with some settings can get into. -/
inductive Reachable (settings : Settings) : App → Prop
  | started {app : App} (h : start? settings = some app) : Reachable settings app
  /-- A listing was loaded from a file. -/
  | preloaded {app : App} {listing : Json} {summary : LoadSummary} {catalog : Catalog}
    (h : Reachable settings app) (hload : app.catalog.load listing = .ok (summary, catalog)) :
    Reachable settings { app with catalog }
  /-- A request was handled. -/
  | handled {app : App} (h : Reachable settings app) (request : Request) :
    Reachable settings (app.handle request).2
  /-- Time went by. -/
  | aged {app : App} (h : Reachable settings app) (uptime : Nat) :
    Reachable settings { app with uptime }

/-- No request changes the origin policy. -/
theorem policy_handle (app : App) (request : Request) :
    (app.handle request).2.policy = app.policy := by
  obtain ⟨response, heffect, -⟩ := app.exists_effect request
  generalize (app.handle request).2 = next at heffect
  cases heffect <;> rfl

/-- A request leaves the catalog showing what is on some shelf. -/
theorem exists_refines_handle (h : ∃ shelf, app.catalog.Refines shelf) :
    ∃ shelf, (app.handle request).2.catalog.Refines shelf := by
  obtain ⟨shelf, hrefines⟩ := h
  obtain ⟨response, heffect, -⟩ := app.exists_effect request
  generalize (app.handle request).2 = next at heffect
  cases heffect with
  | kept | counted => exact ⟨shelf, hrefines⟩
  | @loaded listing summary catalog hposts hload =>
    have hcall := (hrefines.call (.load listing)).2.2
    rw [Catalog.call_load, hload] at hcall
    exact ⟨_, hcall⟩
  | @removed key catalog hdeletes hremove =>
    have hcall := (hrefines.call (.remove key)).2.2
    rw [Catalog.call_remove, hremove] at hcall
    exact ⟨_, hcall⟩

namespace Reachable

theorem settings_eq (h : Reachable settings app) : app.settings = settings := by
  induction h with
  | started h =>
    obtain ⟨policy, -, rfl⟩ := Option.map_eq_some_iff.mp h
    rfl
  | preloaded _ _ ih => exact ih
  | handled _ request ih => rw [settings_handle, ih]
  | aged _ _ ih => exact ih

theorem policy_eq (h : Reachable settings app) :
    OriginPolicy.ofOrigins settings.server.corsOrigins = some app.policy := by
  induction h with
  | started h =>
    obtain ⟨policy, hpolicy, rfl⟩ := Option.map_eq_some_iff.mp h
    exact hpolicy
  | preloaded _ _ ih => exact ih
  | handled _ request ih => rw [policy_handle, ih]
  | aged _ _ ih => exact ih

theorem exists_refines (h : Reachable settings app) : ∃ shelf, app.catalog.Refines shelf := by
  induction h with
  | started h =>
    obtain ⟨policy, -, rfl⟩ := Option.map_eq_some_iff.mp h
    exact ⟨∅, .empty _⟩
  | @preloaded app listing summary catalog _ hload ih =>
    obtain ⟨shelf, hrefines⟩ := ih
    have hcall := (hrefines.call (.load listing)).2.2
    rw [Catalog.call_load, hload] at hcall
    exact ⟨_, hcall⟩
  | handled _ request ih => exact exists_refines_handle ih
  | aged _ _ ih => exact ih

end Reachable

/-- The service at its start, when no settings are given. -/
def freshApp : App :=
  ⟨Settings.default, .any, Catalog.empty Settings.default.maxTemplates, Counters.zero, 0⟩

theorem reachable_freshApp : Reachable Settings.default freshApp :=
  .started rfl

end Courier.Http.App
