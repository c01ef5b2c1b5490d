import Courier.Proofs.Assoc
import Courier.Proofs.Catalog.Shelf

/-!
# A catalog is a shelf with a counter

A catalog keeps its templates in a list and beside it the number of places that are taken. The list
shows what is on a shelf (`Catalog.Refines`): keys ascend, each template is under its own key, the
counter is the number of keys, and that is at most the capacity. Every operation preserves this
(`Refines.call`), whether it succeeds or not, so calls to a catalog are answered as by a shelf
(`Catalog.run_refines`).
-/

namespace Courier

namespace Catalog

/-! ## Calls -/

/-- The answer of a catalog to a call, and the catalog after it. -/
def call (catalog : Catalog) : Call → Answer × Catalog
  | .upsert template =>
    match catalog.tryUpsert template with
    | (.ok (), next) => (.template template, next)
    | (.error error, next) => (.failed error, next)
  | .load listing =>
    match catalog.tryLoad listing with
    | (.ok summary, next) => (.summary summary, next)
    | (.error error, next) => (.failed error, next)
  | .get key =>
    match catalog.get key with
    | .ok template => (.template template, catalog)
    | .error error => (.failed error, catalog)
  | .remove key =>
    match catalog.tryRemove key with
    | (.ok (), next) => (.done, next)
    | (.error error, next) => (.failed error, next)
  | .contains key => (.truth (catalog.contains key), catalog)
  | .list => (.templates catalog.list, catalog)
  | .count => (.number catalog.count, catalog)

/-- The answers to calls, one after the other, and the catalog after them. -/
def run (catalog : Catalog) : List Call → List Answer × Catalog
  | [] => ([], catalog)
  | call :: rest =>
    let (answer, next) := catalog.call call
    let (answers, last) := next.run rest
    (answer :: answers, last)

theorem call_upsert (catalog : Catalog) (template : Template) :
    catalog.call (.upsert template)
      = match catalog.upsert template with
        | .ok next => (.template template, next)
        | .error error => (.failed error, catalog) := by
  rw [call, tryUpsert_eq]
  cases catalog.upsert template <;> rfl

theorem call_load (catalog : Catalog) (listing : Json) :
    catalog.call (.load listing)
      = match catalog.load listing with
        | .ok (summary, next) => (.summary summary, next)
        | .error error => (.failed error, catalog) := by
  rw [call, tryLoad_eq]
  cases catalog.load listing <;> rfl

theorem call_remove (catalog : Catalog) (key : TemplateKey) :
    catalog.call (.remove key)
      = match catalog.remove key with
        | .ok next => (.done, next)
        | .error error => (.failed error, catalog) := by
  rw [call, tryRemove_eq]
  cases catalog.remove key <;> rfl

/-- A call that fails changes nothing. -/
theorem call_snd_of_failed (catalog : Catalog) {call : Call} {error : TemplateError}
    (h : (catalog.call call).1 = .failed error) : (catalog.call call).2 = catalog := by
  -- a call fails only where the change beneath it does, and then it hands the catalog back
  cases call with
  | upsert template =>
    rw [call_upsert] at h ⊢
    cases hupsert : catalog.upsert template with
    | ok next =>
      rw [hupsert] at h
      cases h
    | error error => rfl
  | load listing =>
    rw [call_load] at h ⊢
    cases hload : catalog.load listing with
    | ok result =>
      rw [hload] at h
      cases h
    | error error => rfl
  | remove key =>
    rw [call_remove] at h ⊢
    cases hremove : catalog.remove key with
    | ok next =>
      rw [hremove] at h
      cases h
    | error error => rfl
  | get =>
    rw [Catalog.call]
    split <;> rfl
  | contains | list | count => rfl

/-- The keys of the entries. -/
def keys (catalog : Catalog) : Finset TemplateKey :=
  (catalog.entries.map Prod.fst).toFinset

/-! ## The invariant -/

/-- A catalog shows what is on a shelf. -/
structure Refines (catalog : Catalog) (shelf : Shelf) : Prop where
  find?_eq : ∀ key, catalog.find? key = shelf.lookup key
  ascending : Assoc.Ascending catalog.entries
  own_key : ∀ entry ∈ catalog.entries, entry.2.key = entry.1
  size_eq : catalog.size = shelf.keys.card
  size_le : catalog.size ≤ catalog.capacity

namespace Refines

variable {catalog : Catalog} {shelf : Shelf}

theorem empty (capacity : Nat) : (Catalog.empty capacity).Refines ∅ where
  find?_eq key := by simp [Catalog.empty, find?, Assoc.find?]
  ascending := List.Pairwise.nil
  own_key entry hentry := by cases hentry
  size_eq := by simp [Catalog.empty]
  size_le := Nat.zero_le capacity

variable (h : catalog.Refines shelf)
include h

/-- The keys of the entries are those on the shelf. -/
theorem keys_eq : catalog.keys = shelf.keys := by
  ext key
  rw [keys, List.mem_toFinset, ← Assoc.isSome_find?_iff, Finmap.mem_keys, ← Finmap.lookup_isSome,
    ← h.find?_eq]
  rfl

theorem contains_iff {key : TemplateKey} : catalog.contains key ↔ key ∈ shelf.keys := by
  rw [contains, h.find?_eq, Finmap.lookup_isSome, Finmap.mem_keys]

/-- The entries are counted by the keys on the shelf. -/
theorem count_eq : catalog.count = shelf.keys.card := by
  rw [← h.keys_eq, keys, List.toFinset_card_of_nodup h.ascending.nodup, List.length_map, count]

/-- The templates are listed in the order of their keys. -/
theorem list_eq : catalog.list = shelf.templates := by
  have hkeys : shelf.keys.sort = catalog.entries.map Prod.fst := by
    rw [← h.keys_eq]
    refine (List.toFinset_sort _ h.ascending.nodup).mpr ?_
    rw [List.pairwise_map]
    exact h.ascending.imp fun hlt => le_of_lt hlt
  have hlookup : ∀ entry ∈ catalog.entries, shelf.lookup entry.1 = some entry.2 := by
    intro entry hentry
    rw [← h.find?_eq]
    exact h.ascending.find?_of_mem hentry
  calc
    catalog.list = catalog.entries.filterMap fun entry => some entry.2 :=
      (congrFun List.filterMap_eq_map' catalog.entries).symm
    _ = catalog.entries.filterMap fun entry => shelf.lookup entry.1 :=
      List.filterMap_congr fun entry hentry => (hlookup entry hentry).symm
    _ = shelf.templates := by
      rw [Shelf.templates, hkeys, List.filterMap_map]
      rfl

/-- Reading a catalog gives what is on the shelf. -/
theorem get_eq (key : TemplateKey) :
    catalog.get key
      = match shelf.lookup key with
        | some template => .ok template
        | none => .error (.notFound key.text) := by
  have hfind := h.find?_eq key
  cases hlookup : shelf.lookup key <;> simp [get, hfind, hlookup]

/-! ## Writing -/

/-- Putting a template, with the right number of places taken, stores it. -/
theorem put {template : Template} {size : Nat}
    (hsize : size = (insert template.key shelf.keys).card) (hle : size ≤ catalog.capacity) :
    ({ catalog with size }.put template).Refines (shelf.apply (.stored template)) where
  find?_eq key := by
    rw [Shelf.lookup_apply, ← h.find?_eq]
    exact Assoc.find?_put
  ascending := h.ascending.put
  own_key entry hentry := by
    rcases Assoc.mem_of_mem_put hentry with rfl | hold
    · rfl
    · exact h.own_key entry hold
  size_eq := by
    rw [Shelf.keys_apply_stored]
    exact hsize
  size_le := hle

/-- A template for which there is room is stored. -/
theorem exists_upsert {template : Template} (hroom : shelf.HasRoom catalog.capacity template.key) :
    ∃ next, catalog.upsert template = .ok next ∧ next.capacity = catalog.capacity ∧
      next.Refines (shelf.apply (.stored template)) := by
  -- only a new key takes a place, and the counter moves with the number of keys
  by_cases hmem : template.key ∈ shelf.keys
  · refine ⟨catalog.put template, ?_, rfl, ?_⟩
    · rw [upsert_eq, if_pos (h.contains_iff.mpr hmem)]
    refine h.put ?_ h.size_le
    rw [Finset.insert_eq_of_mem hmem]
    exact h.size_eq
  · have hlt : catalog.size < catalog.capacity := h.size_eq ▸ hroom.resolve_left hmem
    refine ⟨{ catalog with size := catalog.size + 1 }.put template, ?_, rfl, ?_⟩
    · rw [upsert_eq, if_neg (mt h.contains_iff.mp hmem), if_pos hlt]
    · refine h.put ?_ hlt
      rw [Finset.card_insert_of_notMem hmem, h.size_eq]

/-- A template for which there is no room is refused. -/
theorem upsert_eq_error {template : Template}
    (hroom : ¬ shelf.HasRoom catalog.capacity template.key) :
    catalog.upsert template = .error (.catalogFull catalog.capacity) := by
  obtain ⟨hmem, hfull⟩ := not_or.mp hroom
  rw [← h.size_eq] at hfull
  rw [upsert_eq, if_neg (mt h.contains_iff.mp hmem), if_neg hfull]

/-- A key on the shelf is removed. -/
theorem exists_remove {key : TemplateKey} (hmem : key ∈ shelf.keys) :
    ∃ next, catalog.remove key = .ok next ∧ next.capacity = catalog.capacity ∧
      next.Refines (shelf.apply (.removed key)) := by
  refine ⟨_, (remove_eq ..).trans (if_pos (h.contains_iff.mpr hmem)), rfl, ?_, h.ascending.erase,
    ?_, ?_, ?_⟩
  · intro other
    rw [Shelf.lookup_apply, ← h.find?_eq]
    exact Assoc.find?_erase
  · intro entry hentry
    exact h.own_key entry (List.mem_of_mem_filter hentry)
  · show catalog.size - 1 = (shelf.erase key).keys.card
    rw [Finmap.keys_erase, Finset.card_erase_of_mem hmem, h.size_eq]
  · exact Nat.le_trans (Nat.sub_le _ _) h.size_le

/-- A key that is not on the shelf is not found. -/
theorem remove_eq_error {key : TemplateKey} (hmem : key ∉ shelf.keys) :
    catalog.remove key = .error (.notFound key.text) :=
  (remove_eq ..).trans (if_neg (mt h.contains_iff.mp hmem))

/-! ## Loading -/

/-- An entry of a listing is stored, if it is a template for which there is room, or skipped. -/
theorem loadEntry_cases (entry : Json) :
    (∃ template next, catalog.loadEntry entry = .ok next ∧ next.capacity = catalog.capacity ∧
      next.Refines (shelf.apply (.stored template)) ∧
      ∀ rest, shelf.admitted catalog.capacity (listedTemplates (entry :: rest))
        = template ::
          (shelf.apply (.stored template)).admitted catalog.capacity (listedTemplates rest)) ∨
    ∃ error, catalog.loadEntry entry = .error error ∧
      ∀ rest, shelf.admitted catalog.capacity (listedTemplates (entry :: rest))
        = shelf.admitted catalog.capacity (listedTemplates rest) := by
  cases hentry : Template.ofJson entry with
  | error error =>
    refine .inr ⟨error, ?_, fun rest => ?_⟩
    · rw [loadEntry, hentry]
      rfl
    · rw [listedTemplates_cons_of_error rest hentry]
  | ok template =>
    have hload : catalog.loadEntry entry = catalog.upsert template := by
      rw [loadEntry, hentry]
      rfl
    rw [hload]
    by_cases hroom : shelf.HasRoom catalog.capacity template.key
    · obtain ⟨next, hnext, hcapacity, hrefines⟩ := h.exists_upsert hroom
      refine .inl ⟨template, next, hnext, hcapacity, hrefines, fun rest => ?_⟩
      rw [listedTemplates_cons_of_ok rest hentry, Shelf.admitted, if_pos hroom]
    · refine .inr ⟨_, h.upsert_eq_error hroom, fun rest => ?_⟩
      rw [listedTemplates_cons_of_ok rest hentry, Shelf.admitted, if_neg hroom]

omit h in
/-- Loading entries stores the templates among them for which there is room when it is their turn.
Every other entry is skipped. -/
theorem loadEntries (h : catalog.Refines shelf) (summary : LoadSummary) (entries : List Json) :
    let admitted := shelf.admitted catalog.capacity (listedTemplates entries)
    let result := catalog.loadEntries summary entries
    result.1.loaded = summary.loaded + admitted.length ∧
    result.1.loaded + result.1.skipped = summary.loaded + summary.skipped + entries.length ∧
    result.2.capacity = catalog.capacity ∧
    result.2.Refines (shelf.after (admitted.map .stored)) := by
  induction entries generalizing catalog shelf summary with
  | nil => exact ⟨rfl, rfl, rfl, h⟩
  | cons entry rest ih =>
    rcases h.loadEntry_cases entry with
      ⟨template, next, hload, hcapacity, hnext, hadmitted⟩ | ⟨error, hload, hadmitted⟩
    · obtain ⟨hloaded, htotal, hlast, hrefines⟩ :=
        ih hnext { summary with loaded := summary.loaded + 1 }
      rw [hcapacity] at hloaded hlast hrefines
      rw [hadmitted, Catalog.loadEntries_cons, hload]
      simp only [List.length_cons] at hloaded htotal ⊢
      exact ⟨by omega, by omega, hlast, hrefines⟩
    · obtain ⟨hloaded, htotal, hlast, hrefines⟩ :=
        ih h { summary with skipped := summary.skipped + 1 }
      rw [hadmitted, Catalog.loadEntries_cons, hload]
      simp only [List.length_cons] at htotal ⊢
      exact ⟨hloaded, by omega, hlast, hrefines⟩

/-- Loading a listing answers as the shelf does. -/
theorem load (listing : Json) :
    (catalog.call (.load listing)).1 = (shelf.respond catalog.capacity (.load listing)).1 ∧
    (catalog.call (.load listing)).2.capacity = catalog.capacity ∧
    (catalog.call (.load listing)).2.Refines
      (shelf.after (shelf.respond catalog.capacity (.load listing)).2) := by
  rw [call_load, load_eq_match, Shelf.respond]
  cases listingEntries listing with
  | error fault => exact ⟨rfl, rfl, h⟩
  | ok entries =>
    obtain ⟨hloaded, htotal, hcapacity, hrefines⟩ := h.loadEntries ⟨0, 0⟩ entries
    refine ⟨congrArg Answer.summary ?_, hcapacity, hrefines⟩
    generalize (catalog.loadEntries ⟨0, 0⟩ entries).1 = total at hloaded htotal ⊢
    obtain ⟨loaded, skipped⟩ := total
    simp only [LoadSummary.mk.injEq] at hloaded htotal ⊢
    omega

/-! ## Calls -/

/-- A call to a catalog is answered as by the shelf that it shows, and the catalog shows the shelf
after the events of the call. -/
theorem call (call : Call) :
    (catalog.call call).1 = (shelf.respond catalog.capacity call).1 ∧
    (catalog.call call).2.capacity = catalog.capacity ∧
    (catalog.call call).2.Refines (shelf.after (shelf.respond catalog.capacity call).2) := by
  -- the calls that can be refused are split by what the shelf says
  cases call with
  | upsert template =>
    rw [Shelf.respond, call_upsert]
    by_cases hroom : shelf.HasRoom catalog.capacity template.key
    · obtain ⟨next, hnext, hcapacity, hrefines⟩ := h.exists_upsert hroom
      rw [if_pos hroom, hnext]
      exact ⟨rfl, hcapacity, hrefines⟩
    · rw [if_neg hroom, h.upsert_eq_error hroom]
      exact ⟨rfl, rfl, h⟩
  | load listing => exact h.load listing
  | get key =>
    rw [Shelf.respond, Catalog.call, h.get_eq]
    cases shelf.lookup key <;> exact ⟨rfl, rfl, h⟩
  | remove key =>
    rw [Shelf.respond, call_remove]
    by_cases hmem : key ∈ shelf.keys
    · obtain ⟨next, hnext, hcapacity, hrefines⟩ := h.exists_remove hmem
      rw [if_pos hmem, hnext]
      exact ⟨rfl, hcapacity, hrefines⟩
    · rw [if_neg hmem, h.remove_eq_error hmem]
      exact ⟨rfl, rfl, h⟩
  | contains key =>
    refine ⟨congrArg Answer.truth ?_, rfl, h⟩
    rw [Bool.eq_iff_iff, h.contains_iff, decide_eq_true_iff]
  | list => exact ⟨congrArg Answer.templates h.list_eq, rfl, h⟩
  | count => exact ⟨congrArg Answer.number h.count_eq, rfl, h⟩

omit h in
/-- Calls to a catalog, one after the other, are answered as by the shelf that it shows. -/
theorem run (h : catalog.Refines shelf) (calls : List Call) :
    (catalog.run calls).1 = (shelf.run catalog.capacity calls).1 ∧
    (catalog.run calls).2.capacity = catalog.capacity ∧
    (catalog.run calls).2.Refines (shelf.after (shelf.run catalog.capacity calls).2) := by
  -- the shelf of the induction is the one after the events of the calls so far
  induction calls generalizing catalog shelf with
  | nil => exact ⟨rfl, rfl, h⟩
  | cons call rest ih =>
    obtain ⟨hanswer, hcapacity, hnext⟩ := h.call call
    obtain ⟨hanswers, hcapacity', hlast⟩ := ih hnext
    rw [hcapacity] at hanswers hcapacity' hlast
    refine ⟨?_, hcapacity', ?_⟩
    · exact congrArg₂ List.cons hanswer hanswers
    · rw [Shelf.run, Shelf.after_append]
      exact hlast

end Refines

/-! ## Runs from the start -/

/-- **A catalog is a finite map with a bound.** The calls to an empty catalog are answered as by an
empty shelf with the same capacity, and a call that fails changes nothing. After the calls the
catalog shows what their events have left on the shelf: under each key the template that was stored
last, unless the key was removed since. The counter is the number of keys and at most the capacity,
there is one entry for a key, and its template has that key. -/
theorem run_refines (capacity : Nat) (calls : List Call) :
    let (answers, catalog) := (empty capacity).run calls
    let (expected, events) := Shelf.run ∅ capacity calls
    answers = expected ∧
    (∀ key, catalog.find? key = (Shelf.after ∅ events).lookup key) ∧
    (∀ key, catalog.find? key = (events.reverse.find? (·.key = key)).bind Event.template?) ∧
    (∀ call error, (catalog.call call).1 = .failed error → (catalog.call call).2 = catalog) ∧
    catalog.size = catalog.keys.card ∧ catalog.size ≤ capacity ∧
    (catalog.entries.map Prod.fst).Nodup ∧ ∀ entry ∈ catalog.entries, entry.2.key = entry.1 := by
  obtain ⟨hanswers, hcapacity, h⟩ := (Refines.empty capacity).run calls
  have hlast (key : TemplateKey) := (h.find?_eq key).trans (Shelf.lookup_after_empty _ key)
  have hsize : _ = Finset.card _ := h.keys_eq ▸ h.size_eq
  exact ⟨hanswers, h.find?_eq, hlast, fun _ _ => call_snd_of_failed _, hsize,
    h.size_le.trans_eq hcapacity, h.ascending.nodup, h.own_key⟩

end Catalog

end Courier
