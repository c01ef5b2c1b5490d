import Courier.Proofs.Json.Normal

/-!
# Parts of a value

A path leads from a value to a part of it. Its steps are those of a decoder: to the field of a
record, which is found by its name in an object and by its number in an array, and to an item of a
list. `Json.partAt?` finds the part, `Json.setAt` puts another one into its place, and both go
through two paths one after the other as through one path (`Json.partAt?_append`,
`Json.setAt_append`). Parts of a value are values, and a value with a value as a part is one again.
-/

namespace Courier

namespace Json

variable {value part : Json}

/-! ## Values by their parts -/

theorem isValue_arr {items : List Json} :
    (arr items).IsValue ↔ ∀ item ∈ items, item.IsValue := by
  have hmap : items.map normalize = items ↔ items.map normalize = items.map id := by
    rw [List.map_id]
  rw [IsValue, normalize_arr, arr.injEq, hmap]
  exact List.map_inj_left

theorem isValue_obj {members : List (String × Json)} :
    (obj members).IsValue ↔ Assoc.Ascending members ∧ ∀ m ∈ members, m.2.IsValue := by
  rw [IsValue, normalize_obj, obj.injEq]
  constructor
  · intro h
    rw [← h]
    refine ⟨Assoc.ascending_sort, fun m hm => ?_⟩
    obtain ⟨m, -, rfl⟩ := List.mem_map.mp (Assoc.mem_of_mem_sort hm)
    exact isValue_normalize m.2
  · rintro ⟨hascending, hvalues⟩
    have hfixed : members.map (fun m => (m.1, m.2.normalize)) = members := by
      refine (List.map_congr_left fun m hm => ?_).trans (List.map_id _)
      exact Prod.ext rfl (hvalues m hm)
    rw [hfixed, hascending.sort_eq]

/-- An object stays a value when a value is put under a key. -/
theorem IsValue.put {members : List (String × Json)} (h : (obj members).IsValue) (key : String)
    (hpart : part.IsValue) : (obj (Assoc.put key part members)).IsValue := by
  obtain ⟨hascending, hvalues⟩ := isValue_obj.mp h
  refine isValue_obj.mpr ⟨hascending.put, fun m hm => ?_⟩
  rcases Assoc.mem_of_mem_put hm with rfl | hm
  · exact hpart
  · exact hvalues m hm

/-! ## Steps -/

/-- A step from a value to a part of it. -/
inductive Step where
  /-- To a field of a record, which an array holds at a number. -/
  | field (name : String) (index : Nat)
  /-- To an item of a list. -/
  | item (index : Nat)
  deriving DecidableEq, Repr

/-- The part of a value that a step leads to. -/
def Step.part? : Step → Json → Option Json
  | .field name _, .obj members => Assoc.find? name members
  | .field _ index, .arr items => items[index]?
  | .item index, .arr items => items[index]?
  | _, _ => none

/-- The value with another part where a step leads to. -/
def Step.setPart : Step → Json → Json → Json
  | .field name _, .obj members, part => .obj (Assoc.put name part members)
  | .field _ index, .arr items, part => .arr (items.set index part)
  | .item index, .arr items, part => .arr (items.set index part)
  | _, value, _ => value

theorem IsValue.of_part? {step : Step} (h : value.IsValue) (hpart : step.part? value = some part) :
    part.IsValue := by
  unfold Step.part? at hpart
  split at hpart
  · exact (isValue_obj.mp h).2 _ (Assoc.mem_of_find? hpart)
  · exact isValue_arr.mp h part (List.mem_of_getElem? hpart)
  · exact isValue_arr.mp h part (List.mem_of_getElem? hpart)
  · cases hpart

theorem IsValue.setPart {step : Step} (h : value.IsValue) (hpart : part.IsValue) :
    (step.setPart value part).IsValue := by
  have hset {items : List Json} {index : Nat} (hitems : (arr items).IsValue) :
      (arr (items.set index part)).IsValue := by
    refine isValue_arr.mpr fun item hitem => ?_
    rcases List.mem_or_eq_of_mem_set hitem with hold | rfl
    · exact isValue_arr.mp hitems item hold
    · exact hpart
  unfold Step.setPart
  split
  · exact h.put _ hpart
  · exact hset h
  · exact hset h
  · exact h

/-! ## Paths -/

/-- The part of a value that a path leads to. -/
def partAt? : Json → List Step → Option Json
  | value, [] => some value
  | value, step :: path => (step.part? value).bind (partAt? · path)

/-- The value with another part where a path leads to. -/
def setAt : Json → List Step → Json → Json
  | _, [], part => part
  | value, step :: path, part =>
    match step.part? value with
    | some inner => step.setPart value (inner.setAt path part)
    | none => value

theorem partAt?_append (path rest : List Step) :
    value.partAt? (path ++ rest) = (value.partAt? path).bind (partAt? · rest) := by
  induction path generalizing value with
  | nil => rfl
  | cons step path ih =>
    rw [List.cons_append, partAt?, partAt?, Option.bind_assoc]
    congr 1
    funext inner
    exact ih

/-- Behind a path the part is changed that the path leads to. -/
theorem setAt_append {path : List Step} {inner : Json} (h : value.partAt? path = some inner)
    (rest : List Step) (part : Json) :
    value.setAt (path ++ rest) part = value.setAt path (inner.setAt rest part) := by
  induction path generalizing value with
  | nil =>
    cases h
    rfl
  | cons step path ih =>
    obtain ⟨next, hnext, h⟩ := Option.bind_eq_some_iff.mp h
    rw [List.cons_append, setAt, setAt, hnext]
    exact congrArg (step.setPart value) (ih h)

theorem IsValue.of_partAt? {path : List Step} (h : value.IsValue)
    (hpart : value.partAt? path = some part) : part.IsValue := by
  induction path generalizing value with
  | nil =>
    cases hpart
    exact h
  | cons step path ih =>
    obtain ⟨next, hnext, hpart⟩ := Option.bind_eq_some_iff.mp hpart
    exact ih (h.of_part? hnext) hpart

theorem IsValue.setAt (h : value.IsValue) (path : List Step) (hpart : part.IsValue) :
    (value.setAt path part).IsValue := by
  induction path generalizing value with
  | nil => exact hpart
  | cons step path ih =>
    rw [Json.setAt]
    split
    · rename_i hnext
      exact h.setPart (ih (h.of_part? hnext))
    · exact h

end Json

end Courier
