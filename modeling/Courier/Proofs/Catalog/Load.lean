import Courier.Distinct
import Courier.Proofs.Catalog.Refinement

/-!
# What loading a listing does

Loading goes through the entries one after the other, and an entry can find the catalog full that an
earlier one did not. The outcome can be said without going through them (`Catalog.load_eq`). Of the
keys in the listing that are new, as many as there are places left are taken in, in the order in
which they first appear. A template is stored if its key was there or is taken in, and the last
template of a key is the one that stays.
-/

namespace Courier

/-! ## Keys that are taken in -/

/-- Of the keys of templates those that are not held, each once, in the order in which they first
appear, and no more than there is room for. -/
def newKeys (held : Finset TemplateKey) (room : Nat) (templates : List Template) :
    List TemplateKey :=
  ((distinctBy id (templates.map Template.key)).filter (· ∉ held)).take room

/-- The keys that are held, and those of templates that are taken in besides. -/
def keysAfter (held : Finset TemplateKey) (capacity : Nat) (templates : List Template) :
    Finset TemplateKey :=
  held ∪ (newKeys held (capacity - held.card) templates).toFinset

section Keys

variable {held : Finset TemplateKey} {capacity room : Nat} {template : Template}
  {rest : List Template}

/-- A template whose key is held takes no room. -/
theorem newKeys_cons_of_mem (h : template.key ∈ held) :
    newKeys held room (template :: rest) = newKeys held room rest := by
  rw [newKeys, newKeys, List.map_cons, distinctBy, List.filter_cons_of_neg (by simpa using h),
    List.filter_filter]
  congr 1
  refine List.filter_congr fun key _ => ?_
  by_cases hkey : key = template.key
  · simp [hkey, h]
  · simp [hkey]

/-- A template whose key is not held takes a place, and its key is held from then on. -/
theorem newKeys_cons_of_notMem (h : template.key ∉ held) :
    newKeys held (room + 1) (template :: rest)
      = template.key :: newKeys (insert template.key held) room rest := by
  rw [newKeys, newKeys, List.map_cons, distinctBy, List.filter_cons_of_pos (by simpa using h),
    List.take_succ_cons, List.filter_filter]
  congr 2
  refine List.filter_congr fun key _ => ?_
  simp [and_comm]

/-- Without room no key is taken in. -/
theorem keysAfter_of_full (templates : List Template) (h : capacity ≤ held.card) :
    keysAfter held capacity templates = held := by
  rw [keysAfter, Nat.sub_eq_zero_of_le h, newKeys, List.take_zero, List.toFinset_nil,
    Finset.union_empty]

/-- With room the first template is stored before the others. -/
theorem keysAfter_cons_of_room (h : template.key ∈ held ∨ held.card < capacity) :
    keysAfter held capacity (template :: rest)
      = keysAfter (insert template.key held) capacity rest := by
  -- a key that is held changes neither the keys nor the room, another one is the first taken in
  by_cases hmem : template.key ∈ held
  · rw [keysAfter, newKeys_cons_of_mem hmem, Finset.insert_eq_of_mem hmem]
    rfl
  · have hroom : capacity - held.card = capacity - (held.card + 1) + 1 := by
      have hlt := h.resolve_left hmem
      omega
    rw [keysAfter, keysAfter, Finset.card_insert_of_notMem hmem, hroom,
      newKeys_cons_of_notMem hmem, List.toFinset_cons, Finset.union_insert, Finset.insert_union]

/-- Every key that is taken in is the key of a template. -/
theorem mem_map_key_of_mem_newKeys {templates : List Template} {key : TemplateKey}
    (h : key ∈ newKeys held room templates) : key ∈ templates.map Template.key := by
  have hdistinct := List.mem_of_mem_filter (List.mem_of_mem_take h)
  obtain ⟨other, hother, rfl⟩ := exists_mem_distinctBy.mp ⟨key, hdistinct, rfl⟩
  exact hother

/-- The keys that are held afterwards are those from before and those of the templates among
them. -/
theorem keysAfter_eq_union (held : Finset TemplateKey) (capacity : Nat)
    (templates : List Template) :
    keysAfter held capacity templates = held ∪
      ((templates.filter (·.key ∈ keysAfter held capacity templates)).map Template.key).toFinset := by
  ext key
  rw [Finset.mem_union, List.mem_toFinset, List.mem_map]
  constructor
  · intro hkey
    rcases Finset.mem_union.mp hkey with hheld | hnew
    · exact .inl hheld
    · obtain ⟨template, hmem, rfl⟩ :=
        List.mem_map.mp (mem_map_key_of_mem_newKeys (List.mem_toFinset.mp hnew))
      exact .inr ⟨template, List.mem_filter.mpr ⟨hmem, by simpa using hkey⟩, rfl⟩
  · rintro (hheld | ⟨template, hmem, rfl⟩)
    · exact Finset.mem_union_left _ hheld
    · simpa using (List.mem_filter.mp hmem).2

/-- The last template with a key, among those with one of several keys. -/
theorem find?_reverse_filter_key (keys : Finset TemplateKey) (templates : List Template)
    (key : TemplateKey) :
    (templates.filter (·.key ∈ keys)).reverse.find? (·.key = key)
      = if key ∈ keys then templates.reverse.find? (·.key = key) else none := by
  rw [← List.filter_reverse, List.find?_filter]
  split
  · rename_i hkey
    congr 1
    funext template
    by_cases h : template.key = key <;> simp [h, hkey]
  · rename_i hkey
    rw [List.find?_eq_none]
    intro template _
    by_cases h : template.key = key <;> simp [h, hkey]

end Keys

/-! ## Admission -/

namespace Shelf

/-- The templates for which there is room when it is their turn are those whose keys are held
afterwards. -/
theorem admitted_eq_filter (shelf : Shelf) (capacity : Nat) (templates : List Template) :
    shelf.admitted capacity templates
      = templates.filter (·.key ∈ keysAfter shelf.keys capacity templates) := by
  induction templates generalizing shelf with
  | nil => rfl
  | cons template rest ih =>
    rw [admitted]
    by_cases hroom : shelf.HasRoom capacity template.key
    · have hmem : template.key ∈ keysAfter (insert template.key shelf.keys) capacity rest :=
        Finset.mem_union_left _ (Finset.mem_insert_self _ _)
      rw [if_pos hroom, ih, keys_apply_stored, keysAfter_cons_of_room hroom,
        List.filter_cons_of_pos (by simpa using hmem)]
    · -- without room nothing changes any more: only templates of keys that are held go on
      obtain ⟨hmem, hfull⟩ := not_or.mp hroom
      rw [if_neg hroom, ih, keysAfter_of_full _ (Nat.le_of_not_lt hfull),
        keysAfter_of_full _ (Nat.le_of_not_lt hfull), List.filter_cons_of_neg (by simpa using hmem)]

/-- After storing templates a key has the last of them with that key, or what it had before. -/
theorem lookup_after_stored (shelf : Shelf) (templates : List Template) (key : TemplateKey) :
    (shelf.after (templates.map .stored)).lookup key
      = (templates.reverse.find? (·.key = key)).or (shelf.lookup key) := by
  rw [lookup_after, ← List.map_reverse, List.find?_map]
  have hkey : (fun event : Event => decide (event.key = key)) ∘ Event.stored
      = fun template => decide (template.key = key) := rfl
  rw [hkey]
  cases templates.reverse.find? (·.key = key) <;> rfl

/-- After storing templates a key is on the shelf if it was before or is the key of one of them. -/
theorem keys_after_stored (shelf : Shelf) (templates : List Template) :
    (shelf.after (templates.map .stored)).keys
      = shelf.keys ∪ (templates.map Template.key).toFinset := by
  induction templates generalizing shelf with
  | nil => simp
  | cons template rest ih =>
    rw [List.map_cons, after_cons, ih, keys_apply_stored, List.map_cons, List.toFinset_cons,
      Finset.union_insert, Finset.insert_union]

end Shelf

/-! ## Listings -/

/-- Whether a value is a listing with these entries: they are an array under `data`, or under `data`
inside an object under `data`. -/
def Json.Lists (listing : Json) (entries : List Json) : Prop :=
  listing.member? "data" = some (.arr entries) ∨
    ∃ members, listing.member? "data" = some (.obj members) ∧
      (Json.obj members).member? "data" = some (.arr entries)

/-- The entries of a listing are found. -/
theorem listingEntries_eq_ok_iff {listing : Json} {entries : List Json} :
    listingEntries listing = .ok entries ↔ listing.Lists entries := by
  rw [listingEntries, Json.Lists]
  cases hdata : listing.member? "data" with
  | none => simp
  | some data =>
    cases data with
    | arr items => simp
    | obj members =>
      simp only [Option.some.injEq, reduceCtorEq, false_or, Json.obj.injEq, exists_eq_left']
      split <;> simp_all
    | null | bool | num | str => simp

namespace Catalog

/-- A value without entries is refused. -/
theorem call_load_of_not_lists (catalog : Catalog) {listing : Json}
    (h : ¬ ∃ entries, listing.Lists entries) :
    ∃ reason, catalog.call (.load listing) = (.failed (.invalidListing reason), catalog) := by
  cases hentries : listingEntries listing with
  | ok entries => exact absurd ⟨entries, listingEntries_eq_ok_iff.mp hentries⟩ h
  | error fault => exact ⟨fault.message, by rw [call_load, load_eq_match, hentries]⟩

/-- The entries of a listing are loaded one after the other. -/
theorem call_load_of_lists (catalog : Catalog) {listing : Json} {entries : List Json}
    (h : listing.Lists entries) :
    catalog.call (.load listing)
      = (.summary (catalog.loadEntries ⟨0, 0⟩ entries).1,
          (catalog.loadEntries ⟨0, 0⟩ entries).2) := by
  rw [call_load, load_eq_match, listingEntries_eq_ok_iff.mpr h]

/-- What loading entries does to a catalog that shows a shelf. -/
theorem Refines.loadEntries_eq {catalog : Catalog} {shelf : Shelf} (h : catalog.Refines shelf)
    (entries : List Json) :
    let templates := listedTemplates entries
    let keys := keysAfter catalog.keys catalog.capacity templates
    let result := catalog.loadEntries ⟨0, 0⟩ entries
    result.2.keys = keys ∧
    (∀ key ∈ keys, key ∈ templates.map Template.key →
      result.2.find? key = templates.reverse.find? (·.key = key)) ∧
    (∀ key, key ∉ keys ∨ key ∉ templates.map Template.key →
      result.2.find? key = catalog.find? key) ∧
    result.1.loaded = templates.countP (·.key ∈ keys) ∧
    result.1.loaded + result.1.skipped = entries.length := by
  intro templates keys result
  obtain ⟨hloaded, htotal, -, hlast⟩ := h.loadEntries ⟨0, 0⟩ entries
  -- the templates that are let in are those whose keys are there in the end
  have hadmitted : shelf.admitted catalog.capacity templates
      = templates.filter (·.key ∈ keys) := by
    rw [Shelf.admitted_eq_filter, ← h.keys_eq]
  rw [hadmitted] at hloaded hlast
  have hfind (key : TemplateKey) : result.2.find? key
      = (if key ∈ keys then templates.reverse.find? (·.key = key) else none).or
          (catalog.find? key) := by
    rw [hlast.find?_eq, Shelf.lookup_after_stored, find?_reverse_filter_key, h.find?_eq]
  refine ⟨?_, ?_, ?_, ?_, ?_⟩
  · -- the keys in the end
    rw [hlast.keys_eq, Shelf.keys_after_stored, ← h.keys_eq]
    exact (keysAfter_eq_union ..).symm
  · -- a key that the listing has a template for has the last of them
    intro key hkey hmem
    obtain ⟨template, htemplate, rfl⟩ := List.mem_map.mp hmem
    have hsome : (templates.reverse.find? (·.key = template.key)).isSome :=
      List.find?_isSome.mpr ⟨template, List.mem_reverse.mpr htemplate, decide_eq_true rfl⟩
    rw [hfind, if_pos hkey, Option.or_of_isSome hsome]
  · -- any other key has what it had before
    intro key hkey
    rw [hfind]
    split
    · rename_i hin
      have hnone : templates.reverse.find? (·.key = key) = none := by
        rw [List.find?_eq_none]
        intro template htemplate heq
        refine hkey.elim (fun h => h hin) fun h => h (List.mem_map.mpr ⟨template, ?_, ?_⟩)
        · exact List.mem_reverse.mp htemplate
        · exact of_decide_eq_true heq
      rw [hnone, Option.none_or]
    · rw [Option.none_or]
  · -- a template counts as loaded exactly if its key is there in the end
    rw [hloaded, List.countP_eq_length_filter, Nat.zero_add]
  · exact htotal.trans (Nat.zero_add _)

/-- **What loading a listing does** to a catalog after any calls. A value that is no listing is
refused and changes nothing. With `C` the keys that are held and `A` the keys of the templates
among the entries that are taken in, afterwards the keys are those of `C` and `A`. Each of them that
occurs among the templates has the last template with it, and any other key has what it had before.
As loaded count the templates with a key of `C` or `A`, as skipped the other entries. -/
theorem load_eq (capacity : Nat) (calls : List Call) (listing : Json) :
    let catalog := ((empty capacity).run calls).2
    let result := catalog.call (.load listing)
    ((¬ ∃ entries, listing.Lists entries) →
      ∃ reason, result = (.failed (.invalidListing reason), catalog)) ∧
    ∀ entries, listing.Lists entries →
      let templates := listedTemplates entries
      let keys := catalog.keys ∪ (newKeys catalog.keys (capacity - catalog.count) templates).toFinset
      result.2.keys = keys ∧
      (∀ key ∈ keys, key ∈ templates.map Template.key →
        result.2.find? key = templates.reverse.find? (·.key = key)) ∧
      (∀ key, key ∉ keys ∨ key ∉ templates.map Template.key →
        result.2.find? key = catalog.find? key) ∧
      ∃ summary, result.1 = .summary summary ∧
        summary.loaded = templates.countP (·.key ∈ keys) ∧
        summary.loaded + summary.skipped = entries.length := by
  intro catalog result
  obtain ⟨-, hcapacity, h⟩ := (Refines.empty capacity).run calls
  constructor
  · exact catalog.call_load_of_not_lists
  · intro entries hlists templates keys
    have hresult : result = _ := catalog.call_load_of_lists hlists
    have hkeys : keys = keysAfter catalog.keys catalog.capacity templates := by
      have hcount : catalog.count = catalog.keys.card := by
        rw [h.count_eq, h.keys_eq]
      have hsame : catalog.capacity = capacity := hcapacity
      rw [keysAfter, hsame, ← hcount]
    obtain ⟨hheld, hlast, hother, hloaded, htotal⟩ := h.loadEntries_eq entries
    rw [hresult, hkeys]
    exact ⟨hheld, hlast, hother, _, rfl, hloaded, htotal⟩

-- two places: the third key is skipped as is what is no template, the first key is replaced
example :
    let entry (name : String) : Json := .obj [("language", .str "en"), ("name", .str name)]
    let listing : Json := .obj [("data", .arr [entry "a", entry "b", entry "c", .null, entry "a"])]
    ((empty 2).load listing).toOption.map Prod.fst = some ⟨3, 2⟩ := by decide

end Catalog

end Courier
