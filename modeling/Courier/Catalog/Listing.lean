import Courier.Catalog.Basic

/-!
# Loading a listing

A listing is an object with the templates as an array under `data`, or under `data` inside an object
under `data`. Loading goes through the array in order. What is no template, and a new template when
the catalog is full, is skipped; everything else is put into the catalog.
-/

namespace Courier

/-- Why a value is no listing. -/
inductive ListingFault where
  | missingData
  | innerDataNotArray
  | dataOfOtherKind
  deriving DecidableEq, Repr, Inhabited

/-- The wording of a fault. -/
def ListingFault.message : ListingFault → String
  | .missingData => "missing `data` field"
  | .innerDataNotArray => "`data.data` must be an array"
  | .dataOfOtherKind => "`data` must be an array or an object"

/-- The entries of a listing. -/
def listingEntries (listing : Json) : Except ListingFault (List Json) :=
  match listing.member? "data" with
  | none => .error .missingData
  | some (.arr entries) => .ok entries
  | some (.obj members) =>
    match (Json.obj members).member? "data" with
    | some (.arr entries) => .ok entries
    | _ => .error .innerDataNotArray
  | some _ => .error .dataOfOtherKind

/-- How many entries of a listing were put into the catalog, and how many were not. -/
structure LoadSummary where
  loaded : Nat
  skipped : Nat
  deriving DecidableEq, Repr, Inhabited

namespace LoadSummary

/-- The decoder of summaries. -/
def decoder : Decoder LoadSummary :=
  (Fields.make LoadSummary.mk
    |>.required "loaded" Decoder.count
    |>.required "skipped" Decoder.count).decoder "struct LoadSummary"

/-- A summary as a value. -/
def toJson (summary : LoadSummary) : Json :=
  .object [("loaded", some (.ofNat summary.loaded)), ("skipped", some (.ofNat summary.skipped))]

end LoadSummary

namespace Catalog

/-- Puts the template of an entry into the catalog. -/
def tryLoadEntry (catalog : Catalog) (entry : Json) : Except TemplateError Unit × Catalog :=
  match Template.ofJson entry with
  | .ok template => catalog.tryUpsert template
  | .error error => (.error error, catalog)

/-- Loads entries one after the other, with the summary so far. -/
def loadEntries (catalog : Catalog) (summary : LoadSummary) : List Json → LoadSummary × Catalog
  | [] => (summary, catalog)
  | entry :: rest =>
    match catalog.tryLoadEntry entry with
    | (.ok (), next) => next.loadEntries { summary with loaded := summary.loaded + 1 } rest
    | (.error _, next) => next.loadEntries { summary with skipped := summary.skipped + 1 } rest

/-- Loads a listing. -/
def tryLoad (catalog : Catalog) (listing : Json) : Except TemplateError LoadSummary × Catalog :=
  match listingEntries listing with
  | .ok entries =>
    let (summary, next) := catalog.loadEntries ⟨0, 0⟩ entries
    (.ok summary, next)
  | .error fault => (.error (.invalidListing fault.message), catalog)

/-- The catalog with a listing loaded, and the summary of the load. -/
def load (catalog : Catalog) (listing : Json) : Except TemplateError (LoadSummary × Catalog) :=
  let (answer, next) := catalog.tryLoad listing
  answer.map fun summary => (summary, next)

/-! ### Changes and failures -/

section Changes

variable (catalog : Catalog)

/-- The catalog with the template of an entry in it. -/
def loadEntry (entry : Json) : Except TemplateError Catalog := do
  let template ← Template.ofJson entry
  catalog.upsert template

/-- An entry that is skipped leaves the catalog as it was. -/
theorem tryLoadEntry_eq (entry : Json) :
    catalog.tryLoadEntry entry
      = match catalog.loadEntry entry with
        | .ok next => (.ok (), next)
        | .error error => (.error error, catalog) := by
  rw [tryLoadEntry, loadEntry]
  cases Template.ofJson entry with
  | ok template => exact tryUpsert_eq ..
  | error error => rfl

theorem loadEntries_cons (summary : LoadSummary) (entry : Json) (rest : List Json) :
    catalog.loadEntries summary (entry :: rest)
      = match catalog.loadEntry entry with
        | .ok next => next.loadEntries { summary with loaded := summary.loaded + 1 } rest
        | .error _ => catalog.loadEntries { summary with skipped := summary.skipped + 1 } rest := by
  rw [loadEntries, tryLoadEntry_eq]
  cases catalog.loadEntry entry <;> rfl

theorem load_eq_match (listing : Json) :
    catalog.load listing
      = match listingEntries listing with
        | .ok entries => .ok (catalog.loadEntries ⟨0, 0⟩ entries)
        | .error fault => .error (.invalidListing fault.message) := by
  rw [load, tryLoad]
  cases listingEntries listing <;> rfl

/-- A value that is no listing leaves the catalog as it was. -/
theorem tryLoad_eq (listing : Json) :
    catalog.tryLoad listing
      = match catalog.load listing with
        | .ok (summary, next) => (.ok summary, next)
        | .error error => (.error error, catalog) := by
  rw [load, tryLoad]
  cases listingEntries listing <;> rfl

end Changes

end Catalog

end Courier
