import Courier.Proofs.Catalog.Load
import Courier.Proofs.Catalog.Lookup
import Courier.Proofs.Template.Document

/-!
# Taking a catalog over

The templates of a catalog are written out as one listing (`Catalog.exported`), and an empty catalog
that has the room takes all of them over from it (`Catalog.load_exported`). Three facts meet there. A
template that came out of a document comes out of its own document again, and only such templates get
into a catalog as long as nothing else is put there. The templates of a listing are all admitted where
there is room for as many. And what is stored under the keys of a catalog is what its list holds.
-/

namespace Courier

/-! ## Parsed templates -/

/-- A template that came out of a document, a value or a text. -/
def Template.Parsed (template : Template) : Prop :=
  (∃ value, Template.ofJson value = .ok template) ∨ ∃ text, Template.ofText text = .ok template

/-- A parsed template is parsed again from its own document. -/
theorem Template.Parsed.ofJson_toJson {template : Template} (h : template.Parsed) :
    Template.ofJson template.toJson = .ok template := by
  have hgives : Template.decoder.Gives template := by
    rcases h with ⟨value, h⟩ | ⟨text, h⟩
    · exact Decoder.gives_of_run (mapError_eq_ok_iff.mp h)
    · exact Decoder.gives_of_parse (mapError_eq_ok_iff.mp h)
  obtain ⟨hfits, hnull⟩ := Template.sound_of_gives hgives
  have hrun : Template.decoder.run template.toJson = .ok template :=
    template.restores hfits hnull .plain
  rw [Template.ofJson, hrun]
  rfl

/-- The templates of a listing that was written out are those that were written. -/
theorem listedTemplates_map_toJson {templates : List Template} (h : ∀ t ∈ templates, t.Parsed) :
    listedTemplates (templates.map Template.toJson) = templates := by
  induction templates with
  | nil => rfl
  | cons template rest ih =>
    obtain ⟨hfirst, hrest⟩ := List.forall_mem_cons.mp h
    rw [List.map_cons, listedTemplates_cons_of_ok _ hfirst.ofJson_toJson, ih hrest]

namespace Catalog

/-- Every template of a catalog came out of a document. -/
def AllParsed (catalog : Catalog) : Prop :=
  ∀ entry ∈ catalog.entries, entry.2.Parsed

namespace AllParsed

variable {catalog next : Catalog}

theorem upsert {template : Template} (h : catalog.AllParsed) (htemplate : template.Parsed)
    (hnext : catalog.upsert template = .ok next) : next.AllParsed := by
  intro entry hentry
  rw [entries_of_upsert hnext] at hentry
  rcases Assoc.mem_of_mem_put hentry with rfl | hold
  · exact htemplate
  · exact h entry hold

theorem remove {key : TemplateKey} (h : catalog.AllParsed)
    (hnext : catalog.remove key = .ok next) : next.AllParsed := by
  rw [remove_eq] at hnext
  split at hnext
  · cases hnext
    exact fun entry hentry => h entry (List.mem_of_mem_filter hentry)
  · cases hnext

/-- Loading puts only templates into a catalog that came out of the entries. -/
theorem loadEntries (h : catalog.AllParsed) (summary : LoadSummary) (entries : List Json) :
    (catalog.loadEntries summary entries).2.AllParsed := by
  induction entries generalizing catalog summary with
  | nil => exact h
  | cons entry rest ih =>
    rw [loadEntries_cons]
    split
    · rename_i next hnext
      obtain ⟨template, hparsed, hupsert⟩ := bind_eq_ok_iff.mp hnext
      exact ih (h.upsert (.inl ⟨entry, hparsed⟩) hupsert) _
    · exact ih h _

/-- A call leaves only parsed templates in a catalog, if it is not about to put another one there. -/
theorem call {call : Call} (h : catalog.AllParsed)
    (hupsert : ∀ template, call = .upsert template → template.Parsed) :
    (catalog.call call).2.AllParsed := by
  cases call with
  | upsert template =>
    rw [call_upsert]
    split
    · exact h.upsert (hupsert template rfl) ‹_›
    · exact h
  | load listing =>
    rw [call_load, load_eq_match]
    cases listingEntries listing with
    | error fault => exact h
    | ok entries => exact h.loadEntries ⟨0, 0⟩ entries
  | get key =>
    rw [Catalog.call]
    split <;> exact h
  | remove key =>
    rw [call_remove]
    split
    · exact h.remove ‹_›
    · exact h
  | contains | list | count => exact h

theorem run {calls : List Call} (h : catalog.AllParsed)
    (hupsert : ∀ template, Call.upsert template ∈ calls → template.Parsed) :
    (catalog.run calls).2.AllParsed := by
  induction calls generalizing catalog with
  | nil => exact h
  | cons call rest ih =>
    refine ih (h.call fun template heq => hupsert template ?_) fun template hmem =>
      hupsert template (List.mem_cons_of_mem _ hmem)
    exact heq ▸ List.mem_cons_self

end AllParsed

end Catalog

/-! ## Room for all -/

/-- Where there are places for all of them, templates are admitted without exception. -/
theorem Shelf.admitted_eq_self {shelf : Shelf} {capacity : Nat} {templates : List Template}
    (h : shelf.keys.card + templates.length ≤ capacity) :
    shelf.admitted capacity templates = templates := by
  induction templates generalizing shelf with
  | nil => rfl
  | cons template rest ih =>
    rw [List.length_cons] at h
    have hroom : shelf.HasRoom capacity template.key := .inr (by omega)
    -- a template takes one place at most, and is one template less to come
    have hcard : (shelf.apply (.stored template)).keys.card ≤ shelf.keys.card + 1 := by
      rw [keys_apply_stored]
      exact Finset.card_insert_le ..
    rw [admitted, if_pos hroom, ih (by omega)]

namespace Catalog

theorem Refines.keyed {catalog : Catalog} {shelf : Shelf} (h : catalog.Refines shelf) :
    catalog.Keyed :=
  ⟨h.ascending, h.own_key⟩

/-- A search by key in the list of a catalog, from the back as well, finds what the catalog finds. -/
theorem Refines.find?_reverse_list {catalog : Catalog} {shelf : Shelf} (h : catalog.Refines shelf)
    (key : TemplateKey) : catalog.list.reverse.find? (·.key = key) = catalog.find? key := by
  cases hfound : catalog.list.reverse.find? (·.key = key) with
  | some template =>
    have hmem : template ∈ catalog.list := List.mem_reverse.mp (List.mem_of_find?_eq_some hfound)
    have hkey : template.key = key := by simpa using List.find?_some hfound
    rw [← hkey, h.keyed.mem_list_iff.mp hmem]
  | none =>
    cases hheld : catalog.find? key with
    | none => rfl
    | some template =>
      have hentry : (key, template) ∈ catalog.entries := Assoc.mem_of_find? hheld
      have hmem : template ∈ catalog.list.reverse :=
        List.mem_reverse.mpr (List.mem_map_of_mem hentry)
      have hne := List.find?_eq_none.mp hfound template hmem
      exact absurd (decide_eq_true (h.own_key _ hentry)) hne

/-- All templates of a catalog, written out as one listing. -/
def exported (catalog : Catalog) : Json :=
  .obj [("data", .arr (catalog.list.map Template.toJson))]

/-- **A catalog is taken over from the listing of its templates.** Let a catalog have come about by
any calls that put parsed templates there. Loading its listing into an empty catalog with a place for
each template loads all of them and skips none. The new catalog lists the same templates, with the
same short descriptions, and has the same answer for every key. -/
theorem load_exported {capacity room : Nat} {calls : List Call}
    (hparsed : ∀ template, Call.upsert template ∈ calls → template.Parsed)
    (hroom : ((empty capacity).run calls).2.count ≤ room) :
    let catalog := ((empty capacity).run calls).2
    let result := (empty room).call (.load catalog.exported)
    result.1 = .summary ⟨catalog.count, 0⟩ ∧
    result.2.list = catalog.list ∧
    result.2.options = catalog.options ∧
    ∀ key, result.2.get key = catalog.get key := by
  intro catalog result
  obtain ⟨-, -, h⟩ := (Refines.empty capacity).run calls
  have hall : catalog.AllParsed := AllParsed.run (fun _ hentry => by cases hentry) hparsed
  have hlisted : listedTemplates (catalog.list.map Template.toJson) = catalog.list := by
    refine listedTemplates_map_toJson fun template hmem => ?_
    obtain ⟨entry, hentry, rfl⟩ := List.mem_map.mp hmem
    exact hall entry hentry
  have hlength : catalog.list.length = catalog.count := List.length_map ..
  -- an empty catalog with a place for each template turns none away
  have hadmitted : Shelf.admitted ∅ (empty room).capacity catalog.list = catalog.list := by
    refine Shelf.admitted_eq_self ?_
    rw [hlength, Finmap.keys_empty, Finset.card_empty, Nat.zero_add]
    exact hroom
  obtain ⟨hloaded, htotal, -, hlast⟩ :=
    (Refines.empty room).loadEntries ⟨0, 0⟩ (catalog.list.map Template.toJson)
  rw [hlisted, hadmitted] at hloaded hlast
  rw [List.length_map] at htotal
  have hresult : result = (.summary _, _) :=
    @call_load_of_lists (empty room) catalog.exported _ (.inl rfl)
  have hfind (key : TemplateKey) : result.2.find? key = catalog.find? key := by
    rw [hresult, hlast.find?_eq, Shelf.lookup_after_stored, h.find?_reverse_list]
    exact Option.or_none
  -- entries are kept in one order, so the same answers make them the same
  have hentries : result.2.entries = catalog.entries := by
    refine Assoc.Ascending.ext ?_ h.ascending hfind
    rw [hresult]
    exact hlast.ascending
  have hlist : result.2.list = catalog.list := congrArg (List.map Prod.snd) hentries
  refine ⟨?_, hlist, congrArg (List.map Template.option) hlist, fun key => ?_⟩
  · rw [hresult]
    refine congrArg Answer.summary ?_
    generalize (loadEntries (empty room) ⟨0, 0⟩ _).1 = summary at hloaded htotal ⊢
    obtain ⟨loaded, skipped⟩ := summary
    simp only [LoadSummary.mk.injEq] at hloaded htotal ⊢
    omega
  · rw [get, get, hfind]

/-- Calls that put the notice with a coupon into a catalog, and one more template of a listing with
an entry that is none; a third template comes and goes. -/
def couponCalls : List Call :=
  [.upsert Template.couponNotice,
    .load (.obj [("data", .arr [.obj [("language", .str "en"), ("name", .str "a")], .null,
      .obj [("language", .str "es"), ("name", .str "a")]])]),
    .remove ⟨"a", "en"⟩]

theorem couponCalls_exported :
    let catalog := ((empty 9).run couponCalls).2
    let result := (empty 2).call (.load catalog.exported)
    catalog.count = 2 ∧ result.1 = .summary ⟨catalog.count, 0⟩ ∧ result.2.list = catalog.list ∧
      result.2.options = catalog.options ∧ ∀ key, result.2.get key = catalog.get key := by
  have hcount : ((empty 9).run couponCalls).2.count = 2 := by decide
  refine ⟨hcount, load_exported (fun template hmem => ?_) hcount.le⟩
  have hcoupon : template = Template.couponNotice := by
    simpa [couponCalls] using hmem
  exact .inl ⟨Template.couponDocument, hcoupon ▸ rfl⟩

end Catalog

end Courier
