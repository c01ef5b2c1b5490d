import Courier.Proofs.Decode.Tolerance

/-!
# Tags by name and by number

A tagged value has its tag and what is left without it, as members or as items, and it is read as
the alternative that the tag names reads what is left (`Tagged.decode_eq_ok_iff`). Outside every
tagged value a tag is a name. Among parts that were set aside it may also be the number of an
alternative, and then it reads like the name of that alternative (`Tagged.decode_spelled`). So the
two contexts read a value alike exactly if its own tag is no number (`Tagged.decode_plain_iff`).
-/

namespace Courier.Tagged

variable {α : Type} (t : Tagged α) (unknown : String) (value tag : Json) (n : Nat)

/-- The tag of a value: the member under the key of the tag, or the first item. -/
def tag? : Json → Option Json
  | .obj members => Assoc.find? t.tag members
  | .arr items => items.head?
  | _ => none

/-- A value without its tag. -/
def withoutTag : Json → Json
  | .obj members => .obj (Assoc.erase t.tag members)
  | .arr items => .arr items.tail
  | value => value

/-- A value with another tag in place of its own. -/
def setTag : Json → Json
  | .obj members => .obj (Assoc.put t.tag tag members)
  | .arr items => .arr (tag :: items.tail)
  | value => value

/-- The name of the alternative with a number, or the one for unknown alternatives. -/
def nameAt : String :=
  (t.named[n]?).elim unknown Prod.fst

/-- A tag with the number of an alternative spelled out as its name. -/
def spelledTag : Json → Json
  | .num (.int (.ofNat n)) => .str (t.nameAt unknown n)
  | tag => tag

/-- A value with its tag spelled out, if it is the number of an alternative. -/
def spelled : Json :=
  (t.tag? value).elim value fun tag => t.setTag (t.spelledTag unknown tag) value

/-- The tag of a value is a number. -/
def Numbered : Prop :=
  ∃ n : Nat, t.tag? value = some (.num (.int n))

variable {t unknown value tag n}

theorem isValue_spelled (h : value.IsValue) : (t.spelled unknown value).IsValue := by
  rw [spelled]
  cases htag : t.tag? value with
  | none => exact h
  | some tag =>
    have hspelled (htag : tag.IsValue) : (t.spelledTag unknown tag).IsValue := by
      unfold spelledTag
      split
      · rfl
      · exact htag
    cases value with
    | obj members =>
      exact h.put _ (hspelled ((Json.isValue_obj.mp h).2 _ (Assoc.mem_of_find? htag)))
    | arr items =>
      obtain ⟨rest, rfl⟩ := List.head?_eq_some_iff.mp htag
      obtain ⟨htag, hrest⟩ := List.forall_mem_cons.mp (Json.isValue_arr.mp h)
      exact Json.isValue_arr.mpr (List.forall_mem_cons.mpr ⟨hspelled htag, hrest⟩)
    | null | bool | num | str => cases htag

/-- **A tagged value is read by the alternative that its tag names**, from what is left of it. -/
theorem decode_eq_ok_iff (h : value.IsValue) {context : Context} {a : α} :
    t.decode context value = .ok a ↔ ∃ tag parts, t.tag? value = some tag ∧
      t.choose context tag = .ok parts ∧ parts (t.withoutTag value) = .ok a := by
  cases value with
  | obj members => exact decode_obj_eq_ok_iff (Json.isValue_obj.mp h).1.nodup
  | arr items =>
    cases items with
    | nil =>
      constructor
      · intro hread
        cases hread
      · rintro ⟨_, _, hnone, -⟩
        cases hnone
    | cons first rest =>
      constructor
      · intro hread
        obtain ⟨parts, hparts, hread⟩ := bind_eq_ok_iff.mp hread
        exact ⟨first, parts, rfl, hparts, hread⟩
      · rintro ⟨tag, parts, htag, hparts, hread⟩
        obtain rfl : first = tag := Option.some.inj htag
        exact bind_eq_ok_iff.mpr ⟨parts, hparts, hread⟩
  | null | bool | num | str =>
    constructor
    · intro hread
      cases hread
    · rintro ⟨_, _, hnone, -⟩
      cases hnone

/-! ## Spelling a tag out -/

theorem tag?_setTag (h : (t.tag? value).isSome) : t.tag? (t.setTag tag value) = some tag := by
  cases value with
  | obj members =>
    show Assoc.find? t.tag (Assoc.put t.tag tag members) = some tag
    rw [Assoc.find?_put, if_pos rfl]
  | arr items => rfl
  | null | bool | num | str => cases h

theorem withoutTag_setTag (hvalue : value.IsValue) (h : (t.tag? value).isSome) :
    t.withoutTag (t.setTag tag value) = t.withoutTag value := by
  cases value with
  | obj members =>
    obtain ⟨hascending, -⟩ := Json.isValue_obj.mp hvalue
    refine congrArg Json.obj (hascending.put.erase.ext hascending.erase fun key => ?_)
    rw [Assoc.find?_erase, Assoc.find?_erase, Assoc.find?_put]
    by_cases hkey : key = t.tag
    · rw [if_pos hkey, if_pos hkey]
    · rw [if_neg hkey, if_neg hkey, if_neg hkey]
  | arr items => rfl
  | null | bool | num | str => cases h

/-- A name is chosen for wherever it stands, and for nothing else outside of tagged values. -/
theorem choose_plain_iff {parts : Json → Except Misfit α} :
    t.choose .plain tag = .ok parts ↔
      t.choose .tagged tag = .ok parts ∧ ∀ n : Nat, tag ≠ .num (.int n) := by
  unfold choose
  split
  · simp
  · constructor
    · intro h
      cases h
    · rintro ⟨-, h⟩
      exact absurd rfl (h _)
  · constructor
    · intro h
      cases h
    · rintro ⟨h, -⟩
      cases h

/-- The name of an alternative chooses what its number does. -/
theorem choose_spelledTag (hnames : (t.named.map Prod.fst).Nodup) {other : Json → Except Misfit α}
    (hother : t.other = some other) (hunknown : t.byName unknown = .ok other) (context : Context) :
    t.choose context (t.spelledTag unknown tag) = t.choose .tagged tag := by
  unfold spelledTag
  split
  · rename_i n
    show t.byName (t.nameAt unknown n) = t.byNumber n
    rw [nameAt, byNumber, hother]
    cases hfound : t.named[n]? with
    | none => exact hunknown
    | some entry =>
      have hlookup : t.named.lookup entry.1 = some entry.2 :=
        Assoc.find?_of_mem_of_nodup hnames (List.mem_of_getElem? hfound)
      rw [Option.elim_some, byName, hlookup]
  · rename_i hnumber
    unfold choose
    split
    · rfl
    · exact absurd rfl (hnumber _)
    · rfl

/-- **A number among tagged parts reads like the name that it stands for.** -/
theorem decode_spelled (hnames : (t.named.map Prod.fst).Nodup) {other : Json → Except Misfit α}
    (hother : t.other = some other) (hunknown : t.byName unknown = .ok other)
    (hvalue : value.IsValue) (context : Context) {a : α} :
    t.decode context (t.spelled unknown value) = .ok a ↔ t.decode .tagged value = .ok a := by
  have hspelled : (t.spelled unknown value).IsValue := isValue_spelled hvalue
  rw [decode_eq_ok_iff hspelled, decode_eq_ok_iff hvalue]
  cases htag : t.tag? value with
  | none =>
    have hsame : t.spelled unknown value = value := by
      rw [spelled, htag]
      rfl
    rw [hsame, htag]
    simp
  | some tag =>
    have hsome := Option.isSome_of_eq_some htag
    have hset : t.spelled unknown value = t.setTag (t.spelledTag unknown tag) value := by
      rw [spelled, htag]
      rfl
    rw [hset, tag?_setTag hsome, withoutTag_setTag hvalue hsome]
    simp only [Option.some.injEq, ↓existsAndEq, true_and,
      choose_spelledTag hnames hother hunknown]

/-- **Outside of tagged values the same is read, but for numbers in place of names.** -/
theorem decode_plain_iff (hvalue : value.IsValue) {a : α} :
    t.decode .plain value = .ok a ↔ t.decode .tagged value = .ok a ∧ ¬t.Numbered value := by
  rw [decode_eq_ok_iff hvalue, decode_eq_ok_iff hvalue]
  constructor
  · rintro ⟨tag, parts, htag, hparts, hread⟩
    obtain ⟨hparts, hname⟩ := choose_plain_iff.mp hparts
    refine ⟨⟨tag, parts, htag, hparts, hread⟩, ?_⟩
    rintro ⟨n, hnumber⟩
    exact hname n (Option.some.inj (htag.symm.trans hnumber))
  · rintro ⟨⟨tag, parts, htag, hparts, hread⟩, hnumber⟩
    refine ⟨tag, parts, htag, choose_plain_iff.mpr ⟨hparts, ?_⟩, hread⟩
    rintro n rfl
    exact hnumber ⟨n, htag⟩

end Courier.Tagged
