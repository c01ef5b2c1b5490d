import Courier.Distinct
import Mathlib.Data.List.Induction
import Mathlib.Data.List.Nodup

/-!
# First occurrences by place

`FirstOccurrences` says of two lists that one holds the first occurrences of the other, without
regard to how they were found: every kept item is the first one with its key, the kept items are in
the order of their places, and every key is kept. The conditions leave no choice, and leaving out
repeated items meets them (`firstOccurrences_iff`).

An item may be compared with all the items in front of it instead of those that were kept
(`withoutRepeats_eq_distinctBy`), and repeated items can be left out of the parts of a list before
they are left out of the whole (`distinctBy_flatMap`).
-/

namespace Courier

variable {α β γ : Type} [DecidableEq β] {key : α → β} {items kept : List α}

/-- Whether a list holds the first occurrences of another, in the order of their places. -/
structure FirstOccurrences (key : α → β) (items kept : List α) : Prop where
  /-- What is kept is the first item with its key. -/
  first : ∀ a ∈ kept, items.find? (key · = key a) = some a
  ordered : kept.Pairwise fun a b =>
    items.findIdx (key · = key a) < items.findIdx (key · = key b)
  /-- Every key is kept. -/
  complete : ∀ a ∈ items, ∃ b ∈ kept, key b = key a

namespace FirstOccurrences

/-- The kept items are those that are the first with their key. -/
theorem mem_iff (h : FirstOccurrences key items kept) {a : α} :
    a ∈ kept ↔ items.find? (key · = key a) = some a := by
  refine ⟨h.first a, fun ha => ?_⟩
  obtain ⟨b, hb, hkey⟩ := h.complete a (List.mem_of_find?_eq_some ha)
  have hfirst := h.first b hb
  rw [hkey, ha] at hfirst
  rwa [Option.some.inj hfirst]

/-- The keys of first occurrences are distinct. -/
theorem nodup (h : FirstOccurrences key items kept) : (kept.map key).Nodup := by
  rw [List.Nodup, List.pairwise_map]
  refine h.ordered.imp fun {a b} hlt hkey => ?_
  rw [hkey] at hlt
  exact Nat.lt_irrefl _ hlt

/-- There is one list of first occurrences. -/
theorem eq {other : List α} (h : FirstOccurrences key items kept)
    (h' : FirstOccurrences key items other) : kept = other := by
  have hperm : kept.Perm other :=
    (List.perm_ext_iff_of_nodup h.nodup.of_map h'.nodup.of_map).mpr fun a => by
      rw [h.mem_iff, h'.mem_iff]
  refine hperm.eq_of_pairwise (fun a b _ _ hab hba => ?_) h.ordered h'.ordered
  exact absurd hab (Nat.lt_asymm hba)

end FirstOccurrences

/-- What is kept is in the order of the places where its keys are found first. -/
theorem pairwise_findIdx_distinctBy : (distinctBy key items).Pairwise fun a b =>
    items.findIdx (key · = key a) < items.findIdx (key · = key b) := by
  induction items with
  | nil => exact .nil
  | cons a rest ih =>
    rw [distinctBy, List.pairwise_cons]
    constructor
    · intro b hb
      have hne : key b ≠ key a := of_decide_eq_true (List.mem_filter.mp hb).2
      simp [List.findIdx_cons, hne.symm]
    · -- an item with another key than the head is found one place later than in the rest
      rw [List.pairwise_filter]
      refine ih.imp fun {b c} hlt hb hc => ?_
      have hneb : key b ≠ key a := of_decide_eq_true hb
      have hnec : key c ≠ key a := of_decide_eq_true hc
      simpa [List.findIdx_cons, hneb.symm, hnec.symm] using hlt

/-- Leaving out repeated items keeps the first occurrences. -/
theorem firstOccurrences_distinctBy (key : α → β) (items : List α) :
    FirstOccurrences key items (distinctBy key items) where
  first _ ha := mem_distinctBy.mp ha
  ordered := pairwise_findIdx_distinctBy
  complete a ha := exists_mem_distinctBy.mpr ⟨a, ha, rfl⟩

/-- The first occurrences are what is left without the repeated items, and nothing else. -/
theorem firstOccurrences_iff :
    FirstOccurrences key items kept ↔ kept = distinctBy key items := by
  constructor
  · intro h
    exact h.eq (firstOccurrences_distinctBy key items)
  · rintro rfl
    exact firstOccurrences_distinctBy key items

/-! ## Leaving out what occurred before -/

/-- The items of a list whose keys are not those of any item in front of them. -/
def withoutRepeats (key : α → β) (items : List α) : List α :=
  (items.zipIdx.filter fun (a, i) => key a ∉ (items.take i).map key).map Prod.fst

/-- One more item is compared with all the items in front of it. -/
theorem withoutRepeats_concat (items : List α) (a : α) :
    withoutRepeats key (items ++ [a])
      = withoutRepeats key items ++ [a].filter (key · ∉ items.map key) := by
  -- what is in front of an item is not changed by an item behind it
  have hfront : ∀ x ∈ items.zipIdx, (items ++ [a]).take x.2 = items.take x.2 := by
    rintro ⟨b, i⟩ hb
    exact List.take_append_of_le_length (Nat.le_of_lt (List.snd_lt_of_mem_zipIdx hb))
  rw [withoutRepeats, List.zipIdx_append, List.filter_append, List.map_append]
  congr 1
  · rw [withoutRepeats]
    congr 1
    refine List.filter_congr fun ⟨b, i⟩ hb => ?_
    simp only [hfront (b, i) hb]
  · by_cases h : key a ∈ items.map key <;> simp [-List.mem_map, h]

/-- It makes no difference whether an item is compared with all the items in front of it or with
those that are kept. -/
theorem withoutRepeats_eq_distinctBy (items : List α) :
    withoutRepeats key items = distinctBy key items := by
  induction items using List.reverseRecOn with
  | nil => rfl
  | append_singleton items a ih =>
    have hkept (b : β) : b ∈ (distinctBy key items).map key ↔ b ∈ items.map key := by
      rw [List.mem_map, List.mem_map, exists_mem_distinctBy]
    have hsingle : distinctBy key [a] = [a] := rfl
    rw [withoutRepeats_concat, ih, distinctBy_append, hsingle]
    simp only [hkept]

/-- What is kept is in the order of the list. -/
theorem distinctBy_sublist : (distinctBy key items).Sublist items := by
  induction items with
  | nil => exact .slnil
  | cons a rest ih => exact (List.filter_sublist.trans ih).cons_cons a

/-! ## Leaving out repeated items in parts -/

/-- Nothing is left out of a list whose keys are distinct. -/
theorem distinctBy_eq_self (h : (items.map key).Nodup) : distinctBy key items = items := by
  induction items with
  | nil => rfl
  | cons a rest ih =>
    obtain ⟨ha, hrest⟩ := List.nodup_cons.mp h
    rw [distinctBy, ih hrest, List.filter_eq_self.mpr]
    intro b hb
    exact decide_eq_true fun hkey => ha (hkey ▸ List.mem_map_of_mem hb)

/-- Repeated items of the parts of a list can be left out first. -/
theorem distinctBy_flatMap (parts : List γ) (f : γ → List α) :
    distinctBy key (parts.flatMap fun part => distinctBy key (f part))
      = distinctBy key (parts.flatMap f) := by
  induction parts with
  | nil => rfl
  | cons part rest ih =>
    rw [List.flatMap_cons, List.flatMap_cons, distinctBy_append, distinctBy_append (f part), ih,
      distinctBy_eq_self nodup_map_distinctBy]

/-- Items can be renamed before or after the repeated ones are left out. -/
theorem distinctBy_map (f : γ → α) (parts : List γ) :
    distinctBy key (parts.map f) = (distinctBy (fun c => key (f c)) parts).map f := by
  induction parts with
  | nil => rfl
  | cons c rest ih =>
    rw [List.map_cons, distinctBy, distinctBy, ih, List.map_cons, List.filter_map]
    rfl

/-- Keys that tell the same items apart leave out the same ones. -/
theorem distinctBy_congr {δ : Type} [DecidableEq δ] {other : α → δ}
    (h : ∀ a b, key a = key b ↔ other a = other b) (items : List α) :
    distinctBy key items = distinctBy other items := by
  induction items with
  | nil => rfl
  | cons a rest ih =>
    rw [distinctBy, distinctBy, ih]
    congr 1
    exact List.filter_congr fun b _ => by simp only [ne_eq, h]

end Courier
