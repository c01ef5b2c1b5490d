/-!
# First occurrences

Of the items of a list that share a key, the first one. An item is kept exactly if it is what a
search for its key finds.
-/

namespace Courier

variable {α β : Type} [DecidableEq β]

/-- A list without the items whose key occurred before. -/
def distinctBy (key : α → β) : List α → List α
  | [] => []
  | a :: rest => a :: (distinctBy key rest).filter (key · ≠ key a)

variable {key : α → β} {a : α} {items : List α}

/-- Leaving out repeated items does not change the first one. -/
@[simp] theorem head?_distinctBy : (distinctBy key items).head? = items.head? := by
  cases items <;> rfl

theorem find?_filter_ne {b : β} (h : b ≠ key a) :
    (items.filter (key · ≠ key a)).find? (key · = b) = items.find? (key · = b) := by
  rw [List.find?_filter]
  congr 1
  funext c
  by_cases hc : key c = b <;> simp [hc, h]

/-- A search by key finds the same item with and without the repeated ones. -/
theorem find?_distinctBy (b : β) :
    (distinctBy key items).find? (key · = b) = items.find? (key · = b) := by
  induction items with
  | nil => rfl
  | cons a rest ih =>
    by_cases h : key a = b
    · simp [distinctBy, h]
    · rw [distinctBy, List.find?_cons_of_neg (by simpa using h),
        List.find?_cons_of_neg (by simpa using h), find?_filter_ne (Ne.symm h), ih]

/-- Every key that occurs is the key of an item that is kept. -/
theorem exists_mem_distinctBy {b : β} :
    (∃ a ∈ distinctBy key items, key a = b) ↔ ∃ a ∈ items, key a = b := by
  have hfind (list : List α) : (list.find? (key · = b)).isSome ↔ ∃ a ∈ list, key a = b := by
    simp only [List.find?_isSome, decide_eq_true_eq]
  rw [← hfind, find?_distinctBy, hfind]

/-- The keys of what is kept are distinct. -/
theorem nodup_map_distinctBy : ((distinctBy key items).map key).Nodup := by
  induction items with
  | nil => exact List.nodup_nil
  | cons a rest ih =>
    rw [distinctBy, List.map_cons, List.nodup_cons]
    refine ⟨by simp, ?_⟩
    exact ih.sublist (List.filter_sublist.map key)

/-- What is kept is what a search for its key finds. -/
theorem mem_distinctBy : a ∈ distinctBy key items ↔ items.find? (key · = key a) = some a := by
  induction items with
  | nil => simp [distinctBy]
  | cons b rest ih =>
    by_cases h : key b = key a
    · simp only [distinctBy, List.mem_cons, List.mem_filter, List.find?_cons_of_pos, h,
        decide_true, Option.some.injEq, ne_eq, not_true_eq_false, decide_false, Bool.false_eq_true,
        and_false, or_false]
      exact eq_comm
    · have hne : a ≠ b := fun hab => h (by rw [hab])
      simp only [distinctBy, List.mem_cons, hne, false_or, List.mem_filter, ih, h,
        List.find?_cons_of_neg, decide_false, Bool.false_eq_true, not_false_eq_true]
      simp [Ne.symm h]

/-! ## One pass -/

/-- The items kept so far, and behind them one more unless its key is the key of one of them. -/
def keepNew (key : α → β) (kept : List α) (a : α) : List α :=
  if key a ∈ kept.map key then kept else kept ++ [a]

/-- A pass over a list adds its first occurrences to what has been kept before, without those whose
keys were there already. -/
theorem foldl_keepNew (kept : List α) :
    items.foldl (keepNew key) kept
      = kept ++ (distinctBy key items).filter (key · ∉ kept.map key) := by
  induction items generalizing kept with
  | nil => simp [distinctBy]
  | cons a rest ih =>
    rw [List.foldl_cons, ih, keepNew, distinctBy]
    by_cases h : key a ∈ kept.map key
    · -- what has another key than those that are kept has another key than this item
      rw [if_pos h, List.filter_cons_of_neg (by simpa using h), List.filter_filter]
      congr 1
      refine List.filter_congr fun b _ => ?_
      by_cases hb : key b = key a <;> simp [hb, h]
    · rw [if_neg h, List.filter_cons_of_pos (by simpa using h), List.filter_filter,
        List.append_assoc, List.singleton_append]
      congr 2
      refine List.filter_congr fun b _ => ?_
      rw [List.map_append, List.map_singleton, Bool.eq_iff_iff]
      simp

/-- First occurrences can be found in one pass that starts with nothing. -/
theorem foldl_keepNew_nil : items.foldl (keepNew key) [] = distinctBy key items := by
  rw [foldl_keepNew]
  simp

/-- The first occurrences in two lists are those in the first list, and those in the second whose
keys are not in the first. -/
theorem distinctBy_append (first second : List α) :
    distinctBy key (first ++ second)
      = distinctBy key first
        ++ (distinctBy key second).filter (key · ∉ (distinctBy key first).map key) := by
  rw [← foldl_keepNew_nil, List.foldl_append, foldl_keepNew, foldl_keepNew_nil]

end Courier
