import Courier.Assoc
import Mathlib.Data.List.Nodup
import Mathlib.Order.RelClasses

/-!
# Laws of association lists

A search for a key sees what was put last under that key and did not disappear again, and nothing of
the other keys. That holds for any list. In a list with ascending keys each entry is what a search
for its key finds, and `put` and `erase` keep the keys ascending.
-/

namespace Courier.Assoc

variable {κ α : Type} [DecidableEq κ] {key other : κ} {value : α} {entries : List (κ × α)}

/-! ## Searching -/

theorem find?_cons (k : κ) (v : α) (rest : List (κ × α)) :
    find? key ((k, v) :: rest) = if key = k then some v else find? key rest := by
  by_cases h : key = k
  · simp [find?, h]
  · simp [find?, List.lookup_cons, beq_false_of_ne h, h]

/-- A search finds something exactly if there is an entry with the key. -/
theorem isSome_find?_iff : (find? key entries).isSome ↔ key ∈ entries.map Prod.fst := by
  induction entries with
  | nil => simp [find?]
  | cons entry rest ih =>
    obtain ⟨k, v⟩ := entry
    rw [find?_cons, List.map_cons, List.mem_cons, ← ih]
    by_cases h : key = k <;> simp [h]

/-- A search for a key that is not there finds nothing. -/
theorem find?_eq_none (h : key ∉ entries.map Prod.fst) : find? key entries = none := by
  rw [← Option.not_isSome_iff_eq_none, isSome_find?_iff]
  exact h

/-- What a search finds is an entry. -/
theorem mem_of_find? (h : find? key entries = some value) : (key, value) ∈ entries := by
  obtain ⟨before, after, rfl, -⟩ := List.lookup_eq_some_iff.mp h
  exact List.mem_append_right _ List.mem_cons_self

/-- Under distinct keys an entry is what a search for its key finds. -/
theorem find?_of_mem_of_nodup (h : (entries.map Prod.fst).Nodup) {entry : κ × α}
    (hmem : entry ∈ entries) : find? entry.1 entries = some entry.2 := by
  induction entries with
  | nil => cases hmem
  | cons head rest ih =>
    obtain ⟨hhead, hrest⟩ := List.nodup_cons.mp h
    obtain ⟨k, v⟩ := head
    rw [find?_cons]
    rcases List.mem_cons.mp hmem with rfl | hmem
    · rw [if_pos rfl]
    · have hne : entry.1 ≠ k := fun hkey => hhead (List.mem_map.mpr ⟨entry, hmem, hkey⟩)
      rw [if_neg hne, ih hrest hmem]

theorem find?_append (first second : List (κ × α)) :
    find? key (first ++ second) = (find? key first).or (find? key second) :=
  List.lookup_append

/-- Changing the values changes what a search finds in the same way. -/
theorem find?_map {β : Type} (f : α → β) :
    find? key (entries.map fun entry => (entry.1, f entry.2)) = (find? key entries).map f := by
  induction entries with
  | nil => rfl
  | cons entry rest ih =>
    obtain ⟨k, v⟩ := entry
    rw [List.map_cons, find?_cons, find?_cons, ih]
    by_cases h : key = k <;> simp [h]

/-- A search does not miss entries that are filtered out by other keys. -/
theorem find?_filter (keep : κ → Bool) (h : keep key) :
    find? key (entries.filter fun entry => keep entry.1) = find? key entries := by
  induction entries with
  | nil => rfl
  | cons entry rest ih =>
    obtain ⟨k, v⟩ := entry
    by_cases hk : keep k
    · rw [List.filter_cons_of_pos (by exact hk), find?_cons, find?_cons, ih]
    · have hne : key ≠ k := by
        rintro rfl
        exact hk h
      rw [List.filter_cons_of_neg (by exact hk), find?_cons, if_neg hne, ih]

/-- After removing a key a search for it finds nothing, any other what it found before. -/
theorem find?_erase :
    find? other (erase key entries) = if other = key then none else find? other entries := by
  induction entries with
  | nil => simp [find?, erase]
  | cons entry rest ih =>
    obtain ⟨k, v⟩ := entry
    rw [erase] at ih ⊢
    by_cases hk : k = key
    · rw [List.filter_cons_of_neg (by simp [hk]), ih, find?_cons, hk]
      by_cases h : other = key <;> simp [h]
    · rw [List.filter_cons_of_pos (by simp [hk]), find?_cons, find?_cons, ih]
      by_cases h : other = k
      · rw [if_pos h, if_pos h, if_neg (h ▸ hk)]
      · rw [if_neg h, if_neg h]

/-- Removing a key and changing the values do not get in each other's way. -/
theorem erase_map {β : Type} (f : α → β) :
    erase key (entries.map fun entry => (entry.1, f entry.2))
      = (erase key entries).map fun entry => (entry.1, f entry.2) :=
  List.filter_map ..

/-- Removing a key that was there once leaves the entries behind it. -/
theorem erase_cons_self (h : key ∉ entries.map Prod.fst) :
    erase key ((key, value) :: entries) = entries := by
  rw [erase, List.filter_cons_of_neg (by simp), List.filter_eq_self]
  intro entry hentry
  simp only [decide_eq_true_eq]
  rintro rfl
  exact h (List.mem_map_of_mem hentry)

/-- Removing a key leaves distinct keys distinct. -/
theorem nodup_erase (h : (entries.map Prod.fst).Nodup) :
    ((erase key entries).map Prod.fst).Nodup :=
  (List.filter_sublist.map _).nodup h

section Put

variable [LT κ] [DecidableLT κ]

/-- After putting an entry a search for its key finds its value, any other what it found before. -/
theorem find?_put :
    find? other (put key value entries)
      = if other = key then some value else find? other entries := by
  induction entries with
  | nil => rw [put, find?_cons]
  | cons entry rest ih =>
    obtain ⟨k, v⟩ := entry
    rw [put]
    split
    · rw [find?_cons]
    · split
      · rename_i hkey
        rw [find?_cons, find?_cons, hkey]
        by_cases h : other = k <;> simp [h]
      · rename_i hkey
        rw [find?_cons, find?_cons, ih]
        by_cases h : other = k
        · rw [if_pos h, if_pos h, if_neg (h ▸ Ne.symm hkey)]
        · rw [if_neg h, if_neg h]

/-- An entry of the list after putting one is that one or was there before. -/
theorem mem_of_mem_put {entry : κ × α} (h : entry ∈ put key value entries) :
    entry = (key, value) ∨ entry ∈ entries := by
  induction entries with
  | nil => exact .inl (List.mem_singleton.mp h)
  | cons head rest ih =>
    obtain ⟨k, v⟩ := head
    rw [put] at h
    split at h
    · exact List.mem_cons.mp h
    · split at h
      · rcases List.mem_cons.mp h with rfl | hrest
        · exact .inl rfl
        · exact .inr (List.mem_cons_of_mem _ hrest)
      · rcases List.mem_cons.mp h with rfl | hrest
        · exact .inr List.mem_cons_self
        · exact (ih hrest).imp_right (List.mem_cons_of_mem _)

end Put

/-! ## All values of a key -/

/-- The values of all entries with a key, in their order. -/
def valuesOf (key : κ) (entries : List (κ × α)) : List α :=
  (entries.filter (·.1 = key)).map Prod.snd

theorem valuesOf_cons (k : κ) (v : α) (rest : List (κ × α)) :
    valuesOf key ((k, v) :: rest)
      = if k = key then v :: valuesOf key rest else valuesOf key rest := by
  by_cases h : k = key <;> simp [valuesOf, h]

theorem valuesOf_append (before after : List (κ × α)) :
    valuesOf key (before ++ after) = valuesOf key before ++ valuesOf key after := by
  rw [valuesOf, List.filter_append, List.map_append]
  rfl

/-- A key that is not there has no values. -/
theorem valuesOf_eq_nil (h : key ∉ entries.map Prod.fst) : valuesOf key entries = [] := by
  rw [valuesOf, List.map_eq_nil_iff, List.filter_eq_nil_iff]
  intro entry hentry heq
  exact h (List.mem_map.mpr ⟨entry, hentry, of_decide_eq_true heq⟩)

/-- Under distinct keys a key has no other value than the one that a search finds. -/
theorem valuesOf_of_nodup (h : (entries.map Prod.fst).Nodup) :
    valuesOf key entries = (find? key entries).toList := by
  induction entries with
  | nil => rfl
  | cons entry rest ih =>
    obtain ⟨k, v⟩ := entry
    obtain ⟨hhead, hrest⟩ := List.nodup_cons.mp h
    rw [valuesOf_cons, find?_cons]
    by_cases hkey : k = key
    · rw [if_pos hkey, if_pos hkey.symm, valuesOf_eq_nil (hkey ▸ hhead)]
      rfl
    · rw [if_neg hkey, if_neg (Ne.symm hkey), ih hrest]

/-- Entries that are filtered out by other keys are no values of a key. -/
theorem valuesOf_filter (keep : κ → Bool) (h : keep key) :
    valuesOf key (entries.filter fun entry => keep entry.1) = valuesOf key entries := by
  rw [valuesOf, valuesOf, List.filter_filter]
  refine congrArg (List.map Prod.snd) (List.filter_congr fun entry _ => ?_)
  by_cases hkey : entry.1 = key
  · simp [hkey, h]
  · simp [hkey]

/-! ## Ascending keys -/

section Ascending

variable [LT κ]

/-- Keys ascend, so there is one entry for a key. -/
def Ascending (entries : List (κ × α)) : Prop :=
  entries.Pairwise fun a b => a.1 < b.1

theorem Ascending.erase (h : Ascending entries) : Ascending (erase key entries) :=
  h.sublist List.filter_sublist

variable [IsStrictTotalOrder κ (· < ·)]

theorem Ascending.put [DecidableLT κ] (h : Ascending entries) :
    Ascending (put key value entries) := by
  induction entries with
  | nil => exact List.pairwise_singleton _ _
  | cons head rest ih =>
    obtain ⟨k, v⟩ := head
    obtain ⟨hhead, hrest⟩ := List.pairwise_cons.mp h
    rw [Assoc.put]
    split
    · rename_i hlt
      refine List.pairwise_cons.mpr ⟨fun entry hentry => ?_, h⟩
      rcases List.mem_cons.mp hentry with rfl | hentry
      · exact hlt
      · exact IsTrans.trans _ _ _ hlt (hhead entry hentry)
    · rename_i hnlt
      split
      · rename_i heq
        exact List.pairwise_cons.mpr ⟨fun entry hentry => heq ▸ hhead entry hentry, hrest⟩
      · rename_i hne
        -- of two different keys one is before the other
        have hlt : k < key := (trichotomous_of (· < ·) k key).resolve_right fun h =>
          h.elim (fun h => hne h.symm) hnlt
        refine List.pairwise_cons.mpr ⟨fun entry hentry => ?_, ih hrest⟩
        rcases mem_of_mem_put hentry with rfl | hentry
        · exact hlt
        · exact hhead entry hentry

/-- Of two values that are put under a key the second one counts. -/
theorem put_put [DecidableLT κ] {value' : α} :
    Assoc.put key value' (Assoc.put key value entries) = Assoc.put key value' entries := by
  have hself : ¬key < key := irrefl key
  induction entries with
  | nil => simp only [Assoc.put, if_neg hself, if_pos]
  | cons entry rest ih =>
    obtain ⟨k, v⟩ := entry
    rw [Assoc.put, Assoc.put]
    split
    · rw [Assoc.put, if_neg hself, if_pos rfl]
    · split
      · rename_i heq
        rw [Assoc.put, if_neg hself, if_pos rfl]
      · rename_i hlt hne
        rw [Assoc.put, if_neg hlt, if_neg hne, ih]

omit [DecidableEq κ] in
/-- Ascending keys are distinct. -/
theorem Ascending.nodup (h : Ascending entries) : (entries.map Prod.fst).Nodup := by
  rw [List.Nodup, List.pairwise_map]
  exact h.imp fun {a b} hlt => (ne_of_irrefl hlt : a.1 ≠ b.1)

/-- An entry is what a search for its key finds. -/
theorem Ascending.find?_of_mem (h : Ascending entries) {entry : κ × α} (hmem : entry ∈ entries) :
    find? entry.1 entries = some entry.2 :=
  find?_of_mem_of_nodup h.nodup hmem

/-- Two lists with ascending keys are equal if searches find the same in both. -/
theorem Ascending.ext {entries' : List (κ × α)} (h : Ascending entries) (h' : Ascending entries')
    (hfind : ∀ key, find? key entries = find? key entries') : entries = entries' := by
  have hmem {a b : List (κ × α)} (ha : Ascending a) (hb : ∀ key, find? key a = find? key b)
      {entry : κ × α} (hentry : entry ∈ a) : entry ∈ b := by
    have hfound := (hb entry.1).symm.trans (ha.find?_of_mem hentry)
    exact mem_of_find? hfound
  have hperm : entries.Perm entries' := by
    rw [List.perm_ext_iff_of_nodup (List.Nodup.of_map _ h.nodup) (List.Nodup.of_map _ h'.nodup)]
    exact fun entry => ⟨hmem h hfind, hmem h' fun key => (hfind key).symm⟩
  exact hperm.eq_of_pairwise (fun a b _ _ hab hba => absurd hab (asymm hba)) h h'

/-- Putting an entry and removing another key do not get in each other's way. -/
theorem Ascending.erase_put [DecidableLT κ] (h : Ascending entries) (hne : other ≠ key) :
    Assoc.erase other (Assoc.put key value entries)
      = Assoc.put key value (Assoc.erase other entries) := by
  refine h.put.erase.ext h.erase.put fun k => ?_
  rw [find?_erase, find?_put, find?_put, find?_erase]
  by_cases hk : k = other
  · rw [if_pos hk, if_neg (hk ▸ hne), if_pos hk]
  · rw [if_neg hk, if_neg hk]

end Ascending

/-! ## Sorting -/

section Sorting

/-- In a list with distinct keys a search from the back finds the same as one from the front. -/
theorem find?_reverse (h : (entries.map Prod.fst).Nodup) :
    find? key entries.reverse = find? key entries := by
  induction entries with
  | nil => rfl
  | cons entry rest ih =>
    obtain ⟨k, v⟩ := entry
    obtain ⟨hhead, hrest⟩ := List.nodup_cons.mp h
    rw [List.reverse_cons, find?_append, ih hrest, find?_cons, find?_cons]
    by_cases hkey : key = k
    · rw [find?_eq_none (hkey ▸ hhead), if_pos hkey, if_pos hkey, Option.none_or]
    · rw [if_neg hkey, if_neg hkey]
      exact Option.or_none

variable [LT κ] [DecidableLT κ]

/-- After putting several entries a search finds the last one of its key. -/
theorem find?_foldl_put (sorted : List (κ × α)) :
    find? key (entries.foldl (fun sorted entry => put entry.1 entry.2 sorted) sorted)
      = (find? key entries.reverse).or (find? key sorted) := by
  induction entries generalizing sorted with
  | nil => rfl
  | cons entry rest ih =>
    obtain ⟨k, v⟩ := entry
    rw [List.foldl_cons, ih, find?_put, List.reverse_cons, find?_append, find?_cons,
      Option.or_assoc]
    by_cases h : key = k <;> simp [h, find?]

/-- In sorted entries a search finds the last entry of its key. -/
theorem find?_sort : find? key (sort entries) = find? key entries.reverse := by
  rw [sort, find?_foldl_put]
  exact Option.or_none

/-- In sorted entries with distinct keys a search finds what it found before. -/
theorem find?_sort_of_nodup (h : (entries.map Prod.fst).Nodup) :
    find? key (sort entries) = find? key entries := by
  rw [find?_sort, find?_reverse h]

variable [IsStrictTotalOrder κ (· < ·)]

theorem ascending_sort : Ascending (sort entries) := by
  have hfold (sorted : List (κ × α)) (h : Ascending sorted) :
      Ascending (entries.foldl (fun sorted entry => Assoc.put entry.1 entry.2 sorted) sorted) := by
    induction entries generalizing sorted with
    | nil => exact h
    | cons entry rest ih => exact ih _ h.put
  exact hfold [] List.Pairwise.nil

/-- Every entry of a sorted list was there before. -/
theorem mem_of_mem_sort {entry : κ × α} (h : entry ∈ sort entries) : entry ∈ entries := by
  have hsorted : Ascending (sort entries) := ascending_sort
  have hfound := hsorted.find?_of_mem h
  rw [find?_sort] at hfound
  exact List.mem_reverse.mp (mem_of_find? hfound)

/-- Sorting entries with distinct keys only changes their order. -/
theorem sort_perm (h : (entries.map Prod.fst).Nodup) : (sort entries).Perm entries := by
  rw [List.perm_ext_iff_of_nodup (List.Nodup.of_map _ ascending_sort.nodup) (List.Nodup.of_map _ h)]
  refine fun entry => ⟨mem_of_mem_sort, fun hentry => mem_of_find? ?_⟩
  rw [find?_sort_of_nodup h, find?_of_mem_of_nodup h hentry]

/-- Sorting leaves a list with ascending keys as it is. -/
theorem Ascending.sort_eq (h : Ascending entries) : sort entries = entries :=
  ascending_sort.ext h fun _ => find?_sort_of_nodup h.nodup

/-- Removing a key before or after sorting is the same. -/
theorem erase_sort : erase key (sort entries) = sort (erase key entries) := by
  refine ascending_sort.erase.ext ascending_sort fun other => ?_
  rw [find?_erase, find?_sort, find?_sort, erase, ← List.filter_reverse]
  exact find?_erase.symm

end Sorting

end Courier.Assoc
