import Courier.Http.Route
import Mathlib.Data.List.Basic

/-!
# The paths of the addresses

Every address has one path, the segments of the address each behind a slash (`Route.path`), and the
service knows no other path (`Route.ofPath_eq_some_iff`). So what a request was answered at an address
can be said of the path that it was sent to.
-/

namespace Courier

namespace Text

variable {mark : Char}

/-- Cutting at a mark is the library's splitting at an item. -/
theorem split_eq_splitOn (cs : List Char) : split mark cs = cs.splitOn mark := by
  induction cs with
  | nil => rfl
  | cons c rest ih =>
    rw [split, ih, List.splitOn_cons_eq_if_modifyHead]
    by_cases h : c = mark
    · simp [h]
    · rw [if_neg h, if_neg (by simpa using h)]
      cases hpieces : rest.splitOn mark with
      | nil => exact (List.splitOn_ne_nil _ _ hpieces).elim
      | cons piece pieces => rfl

/-- No piece has the mark in it. -/
theorem notMem_of_mem_split {cs piece : List Char} (h : piece ∈ split mark cs) : mark ∉ piece := by
  induction cs generalizing piece with
  | nil =>
    obtain rfl := List.mem_singleton.mp h
    exact List.not_mem_nil
  | cons c rest ih =>
    rw [split] at h
    split at h
    · rcases List.mem_cons.mp h with rfl | h
      · exact List.not_mem_nil
      · exact ih h
    · rename_i hc
      split at h
      · obtain rfl := List.mem_singleton.mp h
        simpa using Ne.symm hc
      · -- the character goes to the first piece of the rest
        rename_i first pieces hpieces
        rcases List.mem_cons.mp h with rfl | h
        · have hfirst : mark ∉ first := ih (hpieces ▸ List.mem_cons_self)
          simpa [hfirst] using Ne.symm hc
        · exact ih (hpieces ▸ List.mem_cons_of_mem _ h)

end Text

namespace Http

/-! ## Segments -/

/-- Pieces that each stand behind a mark are pieces with the mark in front and between them. -/
theorem flatMap_cons_eq_intercalate {mark : Char} {pieces : List (List Char)} (h : pieces ≠ []) :
    pieces.flatMap (mark :: ·) = mark :: [mark].intercalate pieces := by
  induction pieces with
  | nil => exact absurd rfl h
  | cons piece rest ih =>
    cases rest with
    | nil => simp
    | cons next rest =>
      rw [List.flatMap_cons, ih nofun, List.intercalate_cons_cons]
      simp

/-- A path has segments exactly if they stand in it, each behind a slash, with no slash inside. -/
theorem segments_eq_iff {path : List Char} {steps : List String} (hsteps : steps ≠ []) :
    segments path = steps ↔
      path = steps.flatMap (fun step => '/' :: step.toList) ∧ ∀ step ∈ steps, '/' ∉ step.toList := by
  have hpieces : steps.map String.toList ≠ [] := by simpa using hsteps
  have hpath : steps.flatMap (fun step => '/' :: step.toList)
      = '/' :: ['/'].intercalate (steps.map String.toList) := by
    rw [← flatMap_cons_eq_intercalate hpieces, List.flatMap_map]
  rw [hpath]
  constructor
  · intro h
    unfold segments at h
    split at h
    · rename_i rest
      have htexts : steps.map String.toList = Text.split '/' rest := by
        simp [← h]
      refine ⟨?_, fun step hstep => ?_⟩
      · rw [htexts, Text.split_eq_splitOn, List.intercalate_splitOn]
      · exact Text.notMem_of_mem_split (htexts ▸ List.mem_map_of_mem hstep)
    · exact absurd h.symm hsteps
  · rintro ⟨rfl, hplain⟩
    have hplain' : ∀ piece ∈ steps.map String.toList, '/' ∉ piece := by simpa using hplain
    rw [segments, Text.split_eq_splitOn, List.splitOn_intercalate _ hplain' hpieces]
    simp

namespace Route

/-! ## Paths -/

/-- The segments of an address. -/
def steps : Route → List String
  | .health => ["health"]
  | .metrics => ["metrics"]
  | .templates => ["api", "v1", "templates"]
  | .slots => ["api", "v1", "templates", "slots"]
  | .template name language => ["api", "v1", "templates", name, language]
  | .compile => ["api", "v1", "messages", "template"]
  | .text => ["api", "v1", "messages", "text"]
  | .read => ["api", "v1", "messages", "read"]
  | .typing => ["api", "v1", "messages", "typing"]

/-- The path of an address. -/
def path (route : Route) : List Char :=
  route.steps.flatMap fun step => '/' :: step.toList

/-- The language that an address may have is not empty. -/
def HasLanguage : Route → Prop
  | .template _ language => language ≠ ""
  | _ => True

/-- An address is known by its segments. -/
theorem ofSegments_eq_some_iff {segments : List String} {route : Route} :
    ofSegments segments = some route ↔ segments = route.steps ∧ route.HasLanguage := by
  constructor
  · intro h
    unfold ofSegments at h
    split at h
    -- only the address of a template has a condition besides its segments
    case h_5 name language =>
      split at h
      · cases h
      · rename_i hlanguage
        cases h
        exact ⟨rfl, hlanguage⟩
    case h_10 => cases h
    all_goals
      cases h
      exact ⟨rfl, trivial⟩
  · rintro ⟨rfl, hlanguage⟩
    cases route with
    | template name language =>
      have hnonempty : language ≠ "" := hlanguage
      simp [ofSegments, steps, hnonempty]
    | _ => rfl

/-- **An address is known by its path, and by no other.** -/
theorem ofPath_eq_some_iff {path : List Char} {route : Route} :
    ofPath path = some route ↔
      path = route.path ∧ (∀ step ∈ route.steps, '/' ∉ step.toList) ∧ route.HasLanguage := by
  have hsteps : route.steps ≠ [] := by cases route <;> nofun
  rw [ofPath, ofSegments_eq_some_iff, segments_eq_iff hsteps, and_assoc]
  rfl

/-- A request asks for an address by its path. -/
theorem path?_of_ofRequest {request : Request} {route : Route}
    (h : ofRequest request = some route) : request.path? = some route.path := by
  obtain ⟨path, hpath, hroute⟩ := Option.bind_eq_some_iff.mp h
  rw [hpath, (ofPath_eq_some_iff.mp hroute).1]

theorem path_templates : Route.templates.path = "/api/v1/templates".toList := rfl

theorem path_template (name language : String) :
    (Route.template name language).path
      = ("/api/v1/templates/" ++ name ++ "/" ++ language).toList := by
  simp [path, steps]

end Route

end Http

end Courier
