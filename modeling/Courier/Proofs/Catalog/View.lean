import Courier.Proofs.Catalog.Export
import Courier.Proofs.Catalog.Interleaving
import Courier.Proofs.Text.Bytes

/-!
# The list as a view of the catalog

The list of a catalog is determined by what the catalog finds under its keys
(`Catalog.list_canonical`). It ascends strictly in the order of the bytes of name and language, so it
is what comes out when the entries are sorted, in whatever order they are enumerated, and it does not
show in which order they came into the catalog. All of that rests on one invariant, which every change
of the entries preserves: the keys ascend, and each template stands under its own key
(`Catalog.Keyed`).
-/

namespace Courier

/-! ## The order of the bytes -/

namespace TemplateKey

/-- Keys in the order of their bytes, first those of the name, then those of the language. -/
def BytesBefore (a b : TemplateKey) : Prop :=
  Text.bytes a.name < Text.bytes b.name ∨
    a.name = b.name ∧ Text.bytes a.language < Text.bytes b.language

instance (a b : TemplateKey) : Decidable (a.BytesBefore b) :=
  inferInstanceAs (Decidable (_ ∨ _))

theorem bytesBefore_iff {a b : TemplateKey} : a.BytesBefore b ↔ a < b := by
  rw [BytesBefore, Text.bytes_lt_bytes_iff, Text.bytes_lt_bytes_iff]
  rfl

end TemplateKey

/-- The templates of entries in some order, sorted by the bytes of their keys. -/
def sortedTemplates (entries : List (TemplateKey × Template)) : List Template :=
  (entries.mergeSort fun a b => ¬ b.1.BytesBefore a.1).map Prod.snd

namespace Catalog

variable {catalog other : Catalog} {templates : List Template} {template : Template}
  {key : TemplateKey}

/-! ## Catalogs that can come about -/

/-- A catalog that comes about from an empty one, by calls one after the other or by the steps of
several clients, whose changes may be half done. -/
inductive Reachable : Catalog → Prop where
  | run (capacity : Nat) (calls : List Call) : Reachable ((empty capacity).run calls).2
  | shared {Lock : Type} [DecidableEq Lock] (lock : TemplateKey → Lock) (capacity : Nat)
      (scripts : List (List Change)) (schedule : List Nat) :
      Reachable ((SharedCatalog.start capacity scripts).run lock schedule).catalog

namespace Keyed

theorem upsert (h : catalog.Keyed) (hupsert : catalog.upsert template = .ok other) :
    other.Keyed := by
  have hentries := entries_of_upsert hupsert
  exact ⟨hentries ▸ (h.put template).ascending, hentries ▸ (h.put template).own_key⟩

theorem delete (h : catalog.Keyed) (key : TemplateKey) : (catalog.delete key).Keyed where
  ascending := h.ascending.erase
  own_key entry hentry := h.own_key entry (List.mem_of_mem_filter hentry)

/-- A move of a client keeps the templates under their own keys. -/
theorem move (h : catalog.Keyed) {isLocked : TemplateKey → Bool} {client next : Client}
    (hmove : client.Moves isLocked catalog next other) : other.Keyed := by
  cases hmove with
  | insert | replace => exact h.put _
  | delete => exact h.delete _
  | release | reserve | refuse | miss => exact ⟨h.ascending, h.own_key⟩

/-- A schedule keeps the templates under their own keys. -/
theorem runShared {Lock : Type} [DecidableEq Lock] (lock : TemplateKey → Lock)
    {shared : SharedCatalog} (h : shared.catalog.Keyed) (schedule : List Nat) :
    (shared.run lock schedule).catalog.Keyed := by
  induction schedule generalizing shared with
  | nil => exact h
  | cons i rest ih =>
    refine ih ?_
    rcases shared.step_cases lock i with hsame | ⟨client, next, after, -, hmove, hstep⟩
    · rw [hsame]
      exact h
    · rw [hstep]
      exact h.move hmove

end Keyed

theorem Reachable.keyed (h : catalog.Reachable) : catalog.Keyed := by
  cases h with
  | run capacity calls => exact ((Refines.empty capacity).run calls).2.2.keyed
  | shared lock capacity scripts schedule =>
    have hstart : (SharedCatalog.start capacity scripts).catalog.Keyed :=
      (Refines.empty capacity).keyed
    exact hstart.runShared lock schedule

/-! ## What the list depends on -/

theorem get_eq_ok_iff : catalog.get key = .ok template ↔ catalog.find? key = some template := by
  rw [get]
  cases catalog.find? key <;> simp

/-- Catalogs that answer alike for every key find alike. -/
theorem find?_eq_of_get_eq (h : ∀ key, other.get key = catalog.get key) (key : TemplateKey) :
    other.find? key = catalog.find? key := by
  refine Option.ext fun template => ?_
  rw [← get_eq_ok_iff, ← get_eq_ok_iff, h]

theorem Keyed.list_pairwise (h : catalog.Keyed) :
    catalog.list.Pairwise fun s t => s.key.BytesBefore t.key := by
  refine List.pairwise_map.mpr (h.ascending.imp_of_mem fun {a b} ha hb hlt => ?_)
  rw [TemplateKey.bytesBefore_iff, h.own_key a ha, h.own_key b hb]
  exact hlt

/-- Sorting the entries, in whatever order they are, gives the list. -/
theorem Keyed.sortedTemplates_eq (h : catalog.Keyed) {entries : List (TemplateKey × Template)}
    (hperm : entries.Perm catalog.entries) : sortedTemplates entries = catalog.list := by
  let le (a b : TemplateKey × Template) : Bool := ¬ b.1.BytesBefore a.1
  have hle (a b : TemplateKey × Template) : le a b ↔ a.1 ≤ b.1 := by
    simp [le, TemplateKey.bytesBefore_iff]
  have hsorted : (entries.mergeSort le).Pairwise fun a b => a.1 ≤ b.1 := by
    refine (List.pairwise_mergeSort (fun a b c hab hbc => ?_) (fun a b => ?_) entries).imp ?_
    · exact (hle a c).mpr (((hle a b).mp hab).trans ((hle b c).mp hbc))
    · rw [Bool.or_eq_true, hle, hle]
      exact le_total a.1 b.1
    · exact fun {a b} => (hle a b).mp
  have hentries : (entries.mergeSort le).Perm catalog.entries :=
    (List.mergeSort_perm entries le).trans hperm
  -- entries with the same key are one entry, so there is only one way to sort them
  refine congrArg (List.map Prod.snd) (hentries.eq_of_pairwise (fun a b ha hb hab hba => ?_) hsorted
    (h.ascending.imp le_of_lt))
  have ha' := h.ascending.find?_of_mem (hentries.mem_iff.mp ha)
  have hb' := h.ascending.find?_of_mem hb
  have hkey : a.1 = b.1 := le_antisymm hab hba
  rw [hkey, hb'] at ha'
  exact Prod.ext hkey (Option.some.inj ha').symm

/-! ## The order of upserts -/

/-- Templates as entries under their own keys. -/
def entriesOf (templates : List Template) : List (TemplateKey × Template) :=
  templates.map fun template => (template.key, template)

theorem nodup_entriesOf (hdistinct : (templates.map Template.key).Nodup) :
    ((entriesOf templates).map Prod.fst).Nodup := by
  rw [entriesOf, List.map_map]
  exact hdistinct

/-- Among templates with distinct keys a search finds the one with the key. -/
theorem find?_entriesOf_iff (hdistinct : (templates.map Template.key).Nodup) :
    Assoc.find? key (entriesOf templates) = some template ↔
      key = template.key ∧ template ∈ templates := by
  constructor
  · intro hfind
    obtain ⟨t, ht, heq⟩ := List.mem_map.mp (Assoc.mem_of_find? hfind)
    obtain ⟨rfl, rfl⟩ := Prod.mk.inj heq
    exact ⟨rfl, ht⟩
  · rintro ⟨rfl, hmem⟩
    exact Assoc.find?_of_mem_of_nodup (nodup_entriesOf hdistinct) (List.mem_map_of_mem hmem)

theorem find?_entriesOf_eq_none_iff :
    Assoc.find? key (entriesOf templates) = none ↔ key ∉ templates.map Template.key := by
  rw [← Option.not_isSome_iff_eq_none, Assoc.isSome_find?_iff, entriesOf, List.map_map]
  rfl

/-- The number of templates whose keys are not in a catalog yet. -/
def newCount (catalog : Catalog) (templates : List Template) : Nat :=
  templates.countP fun template => ¬ catalog.contains template.key

theorem Keyed.runUpserts (h : catalog.Keyed) (templates : List Template) :
    (catalog.run (templates.map .upsert)).2.Keyed := by
  induction templates generalizing catalog with
  | nil => exact h
  | cons first rest ih =>
    have hnext : (catalog.call (.upsert first)).2.Keyed := by
      rw [call_upsert]
      split
      · exact h.upsert ‹_›
      · exact h
    exact ih hnext

/-- A template takes a place exactly if its key is new. -/
theorem exists_upsert_of_places
    (hroom : catalog.size + catalog.newCount [template] ≤ catalog.capacity) :
    ∃ next, catalog.upsert template = .ok next ∧ next.capacity = catalog.capacity ∧
      next.size = catalog.size + catalog.newCount [template] := by
  by_cases hheld : catalog.contains template.key
  · have hnone : catalog.newCount [template] = 0 := by simp [newCount, hheld]
    refine ⟨catalog.put template, ?_, rfl, by rw [hnone]; rfl⟩
    rw [upsert_eq, if_pos hheld]
  · have hone : catalog.newCount [template] = 1 := by simp [newCount, hheld]
    have hlt : catalog.size < catalog.capacity := by omega
    refine ⟨{ catalog with size := catalog.size + 1 }.put template, ?_, rfl, by rw [hone]; rfl⟩
    rw [upsert_eq, if_neg hheld, if_pos hlt]

/-- Templates with other keys are as new after an upsert as before. -/
theorem newCount_of_upsert {next : Catalog} (hupsert : catalog.upsert template = .ok next)
    (hother : template.key ∉ templates.map Template.key) :
    next.newCount templates = catalog.newCount templates := by
  refine List.countP_congr fun t ht => ?_
  have hne : t.key ≠ template.key := fun heq => hother (List.mem_map.mpr ⟨t, ht, heq⟩)
  rw [contains, contains, find?_of_upsert hupsert, if_neg hne]

/-- Templates with distinct keys are all taken in, if there are places for the new ones. -/
theorem run_upserts (hdistinct : (templates.map Template.key).Nodup)
    (hroom : catalog.size + catalog.newCount templates ≤ catalog.capacity) :
    (catalog.run (templates.map .upsert)).1 = templates.map .template ∧
    (catalog.run (templates.map .upsert)).2.entries
      = (entriesOf templates).foldl (fun entries entry => Assoc.put entry.1 entry.2 entries)
          catalog.entries := by
  induction templates generalizing catalog with
  | nil => exact ⟨rfl, rfl⟩
  | cons first rest ih =>
    obtain ⟨hfirst, hrest⟩ := List.nodup_cons.mp hdistinct
    have hplaces : catalog.newCount (first :: rest)
        = catalog.newCount [first] + catalog.newCount rest := by
      rw [newCount, ← List.singleton_append, List.countP_append]
      rfl
    have hfits : catalog.size + catalog.newCount [first] ≤ catalog.capacity := by omega
    obtain ⟨next, hnext, hcapacity, hsize⟩ := exists_upsert_of_places hfits
    have hleft : next.size + next.newCount rest ≤ next.capacity := by
      rw [newCount_of_upsert hnext hfirst]
      omega
    obtain ⟨hanswers, hentries⟩ := ih hrest hleft
    rw [entries_of_upsert hnext] at hentries
    rw [List.map_cons, run, call_upsert, hnext]
    exact ⟨congrArg _ hanswers, hentries⟩

/-- After the upserts of templates with distinct keys a search finds the one with the key, or what it
found before. -/
theorem find?_run_upserts (hdistinct : (templates.map Template.key).Nodup)
    (hroom : catalog.size + catalog.newCount templates ≤ catalog.capacity) (key : TemplateKey) :
    (catalog.run (templates.map .upsert)).2.find? key
      = (Assoc.find? key (entriesOf templates)).or (catalog.find? key) := by
  rw [find?, (run_upserts hdistinct hroom).2, Assoc.find?_foldl_put,
    Assoc.find?_reverse (nodup_entriesOf hdistinct)]
  rfl

/-- What is found after the upserts of templates with distinct keys does not depend on their order. -/
theorem find?_run_upserts_perm {reordered : List Template} (hperm : reordered.Perm templates)
    (hdistinct : (templates.map Template.key).Nodup)
    (hroom : catalog.size + catalog.newCount templates ≤ catalog.capacity) (key : TemplateKey) :
    (catalog.run (reordered.map .upsert)).2.find? key
      = (catalog.run (templates.map .upsert)).2.find? key := by
  have hdistinct' : (reordered.map Template.key).Nodup :=
    (hperm.map Template.key).nodup_iff.mpr hdistinct
  have hnew : catalog.newCount reordered = catalog.newCount templates := hperm.countP_eq _
  have hsame : Assoc.find? key (entriesOf reordered) = Assoc.find? key (entriesOf templates) := by
    refine Option.ext fun template => ?_
    rw [find?_entriesOf_iff hdistinct', find?_entriesOf_iff hdistinct, hperm.mem_iff]
  rw [find?_run_upserts hdistinct' (by omega), find?_run_upserts hdistinct hroom, hsame]

/-! ## The list -/

theorem Keyed.list_eq (h : catalog.Keyed) (hother : other.Keyed)
    (hfind : ∀ key, other.find? key = catalog.find? key) : other.list = catalog.list :=
  congrArg (List.map Prod.snd) (hother.ascending.ext h.ascending hfind)

/-- **The list is a view of the catalog.** In a catalog that can come about the list ascends strictly
in the order of the bytes of name and language, it holds a template exactly if the catalog answers
with it for its key, and it is as long as the count says. It is what sorting the entries gives,
whatever order they are enumerated in. It depends on the answers for the keys only, and so do the
short descriptions. So the order in which templates with distinct keys are put into a catalog that has
the places for them makes no difference: all of them are taken in, they replace what was there under
their keys, and list and short descriptions are the same. -/
theorem list_canonical (h : catalog.Reachable) :
    catalog.list.Pairwise (fun s t => s.key.BytesBefore t.key) ∧
    (∀ template, template ∈ catalog.list ↔ catalog.get template.key = .ok template) ∧
    catalog.list.length = catalog.count ∧
    (∀ entries, entries.Perm catalog.entries → sortedTemplates entries = catalog.list) ∧
    (∀ other : Catalog, other.Reachable → (∀ key, other.get key = catalog.get key) →
      other.list = catalog.list ∧ other.options = catalog.options) ∧
    ∀ templates : List Template, (templates.map Template.key).Nodup →
      catalog.size + catalog.newCount templates ≤ catalog.capacity →
      let filled := (catalog.run (templates.map .upsert)).2
      (∀ template, template ∈ filled.list ↔ template ∈ templates ∨
        template ∈ catalog.list ∧ template.key ∉ templates.map Template.key) ∧
      ∀ reordered : List Template, reordered.Perm templates →
        (catalog.run (reordered.map .upsert)).1 = reordered.map .template ∧
        (catalog.run (reordered.map .upsert)).2.list = filled.list ∧
        (catalog.run (reordered.map .upsert)).2.options = filled.options := by
  have hkeyed := h.keyed
  refine ⟨hkeyed.list_pairwise, fun template => ?_, List.length_map .., ?_, ?_, ?_⟩
  · rw [hkeyed.mem_list_iff, get_eq_ok_iff]
  · exact fun entries hperm => hkeyed.sortedTemplates_eq hperm
  · -- equal answers for all keys leave no choice for the entries, since both lists are in order
    intro other hother hget
    have hlist := hkeyed.list_eq hother.keyed (find?_eq_of_get_eq hget)
    exact ⟨hlist, congrArg (List.map Template.option) hlist⟩
  · intro templates hdistinct hroom filled
    have hfilled : filled.Keyed := hkeyed.runUpserts templates
    -- the new templates hide what was there under their keys, and nothing else
    refine ⟨fun template => ?_, fun reordered hperm => ?_⟩
    · rw [hfilled.mem_list_iff, hkeyed.mem_list_iff, find?_run_upserts hdistinct hroom,
        Option.or_eq_some_iff, find?_entriesOf_iff hdistinct, find?_entriesOf_eq_none_iff]
      constructor
      · rintro (⟨-, hmem⟩ | ⟨hnone, hold⟩)
        · exact .inl hmem
        · exact .inr ⟨hold, hnone⟩
      · rintro (hmem | ⟨hold, hnone⟩)
        · exact .inl ⟨rfl, hmem⟩
        · exact .inr ⟨hnone, hold⟩
    · have hlist : (catalog.run (reordered.map .upsert)).2.list = filled.list :=
        hfilled.list_eq (hkeyed.runUpserts reordered)
          (find?_run_upserts_perm hperm hdistinct hroom)
      have hnew : catalog.newCount reordered = catalog.newCount templates := hperm.countP_eq _
      refine ⟨(run_upserts ?_ (by omega)).1, hlist, congrArg (List.map Template.option) hlist⟩
      exact (hperm.map Template.key).nodup_iff.mpr hdistinct

/-- A template without components. -/
def titled (name language : String) : Template :=
  { (default : Template) with name, language }

/-- A name comes before a longer one that begins with it, and the language decides between templates
of one name, whichever is put into the catalog first. -/
theorem list_canonical_titled :
    let catalog := ((empty 3).run [.upsert (titled "ab" "es")]).2
    let templates := [titled "ab" "en", titled "a" "fr"]
    catalog.Reachable ∧ (templates.map Template.key).Nodup ∧
      catalog.size + catalog.newCount templates ≤ catalog.capacity ∧
      ∀ reordered : List Template, reordered.Perm templates →
        (catalog.run (reordered.map .upsert)).2.list
          = [titled "a" "fr", titled "ab" "en", titled "ab" "es"] := by
  intro catalog templates
  have hreachable : catalog.Reachable := .run 3 _
  have hdistinct : (templates.map Template.key).Nodup := by decide
  have hroom : catalog.size + catalog.newCount templates ≤ catalog.capacity := by decide
  obtain ⟨-, -, -, -, -, horders⟩ := list_canonical hreachable
  refine ⟨hreachable, hdistinct, hroom, fun reordered hperm => ?_⟩
  obtain ⟨-, hlist, -⟩ := (horders templates hdistinct hroom).2 reordered hperm
  rw [hlist]
  rfl

end Catalog

end Courier
