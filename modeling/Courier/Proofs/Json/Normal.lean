import Courier.Json.Basic
import Courier.Proofs.Assoc
import Mathlib.Data.String.Basic

/-!
# Normal trees

Normalizing a tree a second time changes nothing (`Json.normalize_normalize`), so the trees that it
leaves as they are, `Json.IsValue`, are those that it gives. A search in a normalized object finds
the last member of a key, normalized; in a tree without repeated keys, `Json.DistinctKeys`, that is
the only one, and then nothing is lost.
-/

namespace Courier.Json

/-! ## Trees -/

/-- What holds of a tree when it holds of its items or members holds of every tree. -/
@[elab_as_elim]
theorem induction {motive : Json → Prop} (null : motive .null) (bool : ∀ b, motive (.bool b))
    (num : ∀ n, motive (.num n)) (str : ∀ s, motive (.str s))
    (arr : ∀ items, (∀ item ∈ items, motive item) → motive (.arr items))
    (obj : ∀ members, (∀ m ∈ members, motive m.2) → motive (.obj members)) (value : Json) :
    motive value :=
  @Json.rec motive (fun items => ∀ item ∈ items, motive item)
    (fun members => ∀ m ∈ members, motive m.2) (fun m => motive m.2)
    null bool num str arr obj
    (by simp) (fun _ _ hhead htail => List.forall_mem_cons.mpr ⟨hhead, htail⟩)
    (by simp) (fun _ _ hhead htail => List.forall_mem_cons.mpr ⟨hhead, htail⟩)
    (fun _ _ h => h) value

theorem normalizeItems_eq_map (items : List Json) : normalizeItems items = items.map normalize := by
  induction items with
  | nil => rfl
  | cons item rest ih => rw [normalizeItems, ih, List.map_cons]

theorem normalizeMembers_eq_map (members : List (String × Json)) :
    normalizeMembers members = members.map fun m => (m.1, m.2.normalize) := by
  induction members with
  | nil => rfl
  | cons m rest ih => rw [normalizeMembers, ih, List.map_cons]

theorem normalize_arr (items : List Json) : (arr items).normalize = .arr (items.map normalize) := by
  rw [normalize, normalizeItems_eq_map]

theorem normalize_obj (members : List (String × Json)) :
    (obj members).normalize = .obj (Assoc.sort (members.map fun m => (m.1, m.2.normalize))) := by
  rw [normalize, normalizeMembers_eq_map]

theorem normalize_eq_null_iff {value : Json} : value.normalize = .null ↔ value = .null := by
  cases value with
  | arr | obj => simp [normalize]
  | null | bool | num | str => rfl

/-! ## Nesting -/

theorem depthItems_le_iff {items : List Json} {n : Nat} :
    depthItems items ≤ n ↔ ∀ item ∈ items, item.depth ≤ n := by
  induction items with
  | nil => simp [depthItems]
  | cons item rest ih => rw [depthItems, Nat.max_le, ih, List.forall_mem_cons]

theorem depthMembers_le_iff {members : List (String × Json)} {n : Nat} :
    depthMembers members ≤ n ↔ ∀ m ∈ members, m.2.depth ≤ n := by
  induction members with
  | nil => simp [depthMembers]
  | cons m rest ih => rw [depthMembers, Nat.max_le, ih, List.forall_mem_cons]

/-- An array is nested one level deeper than its items. -/
theorem depth_arr_le_iff {items : List Json} {n : Nat} :
    (arr items).depth ≤ n + 1 ↔ ∀ item ∈ items, item.depth ≤ n := by
  rw [depth, Nat.add_le_add_iff_right, depthItems_le_iff]

/-- An object is nested one level deeper than the values of its members. -/
theorem depth_obj_le_iff {members : List (String × Json)} {n : Nat} :
    (obj members).depth ≤ n + 1 ↔ ∀ m ∈ members, m.2.depth ≤ n := by
  rw [depth, Nat.add_le_add_iff_right, depthMembers_le_iff]

theorem depth_lt_arr {items : List Json} {item : Json} (h : item ∈ items) :
    item.depth < (arr items).depth := by
  rw [depth.eq_def (arr items)]
  exact Nat.lt_succ_of_le (depthItems_le_iff.mp (Nat.le_refl _) item h)

theorem depth_lt_obj {members : List (String × Json)} {m : String × Json} (h : m ∈ members) :
    m.2.depth < (obj members).depth := by
  rw [depth.eq_def (obj members)]
  exact Nat.lt_succ_of_le (depthMembers_le_iff.mp (Nat.le_refl _) m h)

/-- Fewer items nest no deeper. -/
theorem depth_arr_mono {items items' : List Json} (h : items ⊆ items') :
    (arr items).depth ≤ (arr items').depth := by
  rw [depth.eq_def (arr items')]
  exact depth_arr_le_iff.mpr fun item hitem =>
    depthItems_le_iff.mp (Nat.le_refl _) item (h hitem)

/-- Fewer members nest no deeper. -/
theorem depth_obj_mono {members members' : List (String × Json)} (h : members ⊆ members') :
    (obj members).depth ≤ (obj members').depth := by
  rw [depth.eq_def (obj members')]
  exact depth_obj_le_iff.mpr fun m hm =>
    depthMembers_le_iff.mp (Nat.le_refl _) m (h hm)

/-! ## Normalizing -/

/-- Sorting the members of an object leaves none that was not normal. -/
theorem normalize_obj_sort {members : List (String × Json)}
    (h : ∀ m ∈ members, m.2.normalize = m.2) :
    (obj (Assoc.sort members)).normalize = .obj (Assoc.sort members) := by
  have hfixed : (Assoc.sort members).map (fun m => (m.1, m.2.normalize)) = Assoc.sort members := by
    refine (List.map_congr_left fun m hm => ?_).trans (List.map_id _)
    exact Prod.ext rfl (h m (Assoc.mem_of_mem_sort hm))
  rw [normalize_obj, hfixed, Assoc.ascending_sort.sort_eq]

/-- **A normalized tree is normal.** -/
@[simp] theorem normalize_normalize (value : Json) :
    value.normalize.normalize = value.normalize := by
  induction value using induction with
  | null | bool | num | str => rfl
  | arr items ih =>
    rw [normalize_arr, normalize_arr, List.map_map]
    exact congrArg arr (List.map_congr_left ih)
  | obj members ih =>
    rw [normalize_obj]
    refine normalize_obj_sort fun m hm => ?_
    obtain ⟨m, hmem, rfl⟩ := List.mem_map.mp hm
    exact ih m hmem

/-- A tree in which every object has its keys once, in ascending order. -/
def IsValue (value : Json) : Prop :=
  value.normalize = value

instance : DecidablePred IsValue := fun _ => inferInstanceAs (Decidable (_ = _))

theorem isValue_normalize (value : Json) : value.normalize.IsValue :=
  normalize_normalize value

/-- An object that is written with values for its members is a value. -/
theorem isValue_object {members : List (String × Option Json)}
    (h : ∀ m ∈ members, ∀ value, m.2 = some value → value.IsValue) : (object members).IsValue := by
  refine normalize_obj_sort fun m hm => ?_
  obtain ⟨⟨key, found⟩, hmem, heq⟩ := List.mem_filterMap.mp hm
  obtain ⟨value, hfound, rfl⟩ := Option.map_eq_some_iff.mp heq
  exact h _ hmem value hfound

/-- Normalizing does not nest a tree deeper. -/
theorem depth_normalize_le (value : Json) : value.normalize.depth ≤ value.depth := by
  induction value using induction with
  | null | bool | num | str => exact Nat.le_refl _
  | arr items ih =>
    conv_rhs => rw [depth]
    rw [normalize_arr, depth_arr_le_iff]
    intro item hmap
    obtain ⟨item, hitem, rfl⟩ := List.mem_map.mp hmap
    exact (ih item hitem).trans (depthItems_le_iff.mp (Nat.le_refl _) item hitem)
  | obj members ih =>
    conv_rhs => rw [depth]
    rw [normalize_obj, depth_obj_le_iff]
    intro m hm
    obtain ⟨m, hmem, rfl⟩ := List.mem_map.mp (Assoc.mem_of_mem_sort hm)
    exact (ih m hmem).trans (depthMembers_le_iff.mp (Nat.le_refl _) m hmem)

/-! ## Repeated keys -/

mutual

/-- No object of a tree has a key twice. -/
def DistinctKeys : Json → Prop
  | .arr items => DistinctKeysItems items
  | .obj members => (members.map Prod.fst).Nodup ∧ DistinctKeysMembers members
  | _ => True

/-- No object in the items has a key twice. -/
def DistinctKeysItems : List Json → Prop
  | [] => True
  | item :: rest => item.DistinctKeys ∧ DistinctKeysItems rest

/-- No object in the values of the members has a key twice. -/
def DistinctKeysMembers : List (String × Json) → Prop
  | [] => True
  | (_, value) :: rest => value.DistinctKeys ∧ DistinctKeysMembers rest

end

theorem distinctKeys_arr {items : List Json} :
    (arr items).DistinctKeys ↔ ∀ item ∈ items, item.DistinctKeys := by
  rw [DistinctKeys]
  induction items with
  | nil => simp [DistinctKeysItems]
  | cons item rest ih => rw [DistinctKeysItems, ih, List.forall_mem_cons]

theorem distinctKeys_obj {members : List (String × Json)} :
    (obj members).DistinctKeys ↔
      (members.map Prod.fst).Nodup ∧ ∀ m ∈ members, m.2.DistinctKeys := by
  have hmembers : DistinctKeysMembers members ↔ ∀ m ∈ members, m.2.DistinctKeys := by
    induction members with
    | nil => simp [DistinctKeysMembers]
    | cons m rest ih => rw [DistinctKeysMembers, ih, List.forall_mem_cons]
  rw [DistinctKeys, hmembers]

/-- Normalizing leaves no key twice. -/
theorem distinctKeys_normalize (value : Json) : value.normalize.DistinctKeys := by
  induction value using induction with
  | null | bool | num | str => trivial
  | arr items ih =>
    rw [normalize_arr, distinctKeys_arr]
    intro item hmap
    obtain ⟨item, hitem, rfl⟩ := List.mem_map.mp hmap
    exact ih item hitem
  | obj members ih =>
    rw [normalize_obj, distinctKeys_obj]
    refine ⟨Assoc.ascending_sort.nodup, fun m hm => ?_⟩
    obtain ⟨m, hmem, rfl⟩ := List.mem_map.mp (Assoc.mem_of_mem_sort hm)
    exact ih m hmem

/-- In a normalized object with distinct keys a search finds the normalized value of the member. -/
theorem find?_sort_normalize {members : List (String × Json)}
    (h : (members.map Prod.fst).Nodup) (key : String) :
    Assoc.find? key (Assoc.sort (members.map fun m => (m.1, m.2.normalize)))
      = (Assoc.find? key members).map normalize := by
  have hnodup : ((members.map fun m => (m.1, m.2.normalize)).map Prod.fst).Nodup := by
    rw [List.map_map]
    exact h
  rw [Assoc.find?_sort_of_nodup hnodup, Assoc.find?_map]

end Courier.Json
