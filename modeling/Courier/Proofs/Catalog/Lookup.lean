import Courier.Catalog.Listing
import Courier.Proofs.Assoc
import Courier.Proofs.Catalog.Shelf
import Courier.Proofs.Json.Run

/-!
# What a catalog finds after a change

A change decides what is found under the keys that it is about and leaves every other key alone. That
holds of any catalog, however its entries and its counter came about.
-/

namespace Courier.Catalog

variable {catalog next : Catalog} {template : Template} {key : TemplateKey}

/-- A template that is taken in stands under its key, and the other entries are as before. -/
theorem entries_of_upsert (h : catalog.upsert template = .ok next) :
    next.entries = Assoc.put template.key template catalog.entries := by
  rw [upsert_eq] at h
  split at h
  · cases h
    rfl
  · split at h
    · cases h
      rfl
    · cases h

theorem find?_of_upsert (h : catalog.upsert template = .ok next) (key : TemplateKey) :
    next.find? key = if key = template.key then some template else catalog.find? key := by
  rw [find?, entries_of_upsert h]
  exact Assoc.find?_put

/-- A removal takes away a key that was there, and no other. -/
theorem find?_of_remove (h : catalog.remove key = .ok next) :
    catalog.contains key ∧
      ∀ other, next.find? other = if other = key then none else catalog.find? other := by
  rw [remove_eq] at h
  split at h
  · cases h
    exact ⟨‹_›, fun other => Assoc.find?_erase⟩
  · cases h

/-- A listing that is loaded has entries, and they are loaded one after the other. -/
theorem load_eq_ok_iff {listing : Json} {result : LoadSummary × Catalog} :
    catalog.load listing = .ok result ↔
      ∃ entries, listingEntries listing = .ok entries ∧
        catalog.loadEntries ⟨0, 0⟩ entries = result := by
  rw [load_eq_match]
  cases listingEntries listing <;> simp

/-- Entries without a template of a key leave the key alone. -/
theorem find?_loadEntries {entries : List Json} (summary : LoadSummary)
    (h : ∀ template ∈ listedTemplates entries, template.key ≠ key) :
    (catalog.loadEntries summary entries).2.find? key = catalog.find? key := by
  induction entries generalizing catalog summary with
  | nil => rfl
  | cons entry rest ih =>
    have hrest : ∀ template ∈ listedTemplates rest, template.key ≠ key := by
      intro template hmem
      refine h template ?_
      cases hentry : Template.ofJson entry with
      | ok first =>
        rw [listedTemplates_cons_of_ok rest hentry]
        exact List.mem_cons_of_mem _ hmem
      | error error => rwa [listedTemplates_cons_of_error rest hentry]
    rw [loadEntries_cons]
    split
    · -- the entry is taken in, but its template has another key
      rename_i next hnext
      obtain ⟨first, hentry, hupsert⟩ := bind_eq_ok_iff.mp hnext
      have hne : first.key ≠ key := by
        refine h first ?_
        rw [listedTemplates_cons_of_ok rest hentry]
        exact List.mem_cons_self
      rw [ih _ hrest, find?_of_upsert hupsert, if_neg hne.symm]
    · exact ih _ hrest

/-! ## Entries under their own keys -/

/-- The keys of the entries ascend, and each template stands under its own key. -/
structure Keyed (catalog : Catalog) : Prop where
  ascending : Assoc.Ascending catalog.entries
  own_key : ∀ entry ∈ catalog.entries, entry.2.key = entry.1

namespace Keyed

theorem put (h : catalog.Keyed) (template : Template) : (catalog.put template).Keyed where
  ascending := h.ascending.put
  own_key entry hentry := by
    rcases Assoc.mem_of_mem_put hentry with rfl | hold
    · rfl
    · exact h.own_key entry hold

/-- The list holds a template exactly if it is found under its key. -/
theorem mem_list_iff (h : catalog.Keyed) :
    template ∈ catalog.list ↔ catalog.find? template.key = some template := by
  constructor
  · intro hmem
    obtain ⟨entry, hentry, rfl⟩ := List.mem_map.mp hmem
    rw [h.own_key entry hentry]
    exact h.ascending.find?_of_mem hentry
  · intro hfind
    exact List.mem_map.mpr ⟨_, Assoc.mem_of_find? hfind, rfl⟩

end Keyed

end Courier.Catalog
