import Courier.Proofs.Settings.Leaves

/-!
# What stands at a path

`ConfigValue.view` tells what stands at a path of names in a tree, without the inside of tables.
When a leaf is laid over the tree, the view at each path changes on its own: what is seen there
afterwards depends on the leaf, its path and what was seen there before, and on nothing else of the
tree (`view_layAt`). There are four ways in which it can change (`Touch`): it stays, it is set, it
becomes a table if there was nothing, or an item of it is changed.
-/

namespace Courier

namespace ConfigValue

/-- Whether a value is a table. -/
def isTable : ConfigValue → Bool
  | .table _ => true
  | _ => false

/-- A value without the inside of a table. -/
def outline : ConfigValue → ConfigValue
  | .table _ => .table []
  | value => value

/-- What stands at a path of names, without the inside of a table. -/
def view : List String → ConfigValue → Option ConfigValue
  | [], value => some value.outline
  | name :: names, value => (Assoc.find? name value.entries).bind (view names)

variable {root leaf value : ConfigValue} {path : SettingPath} {names : List String}

@[simp] theorem items_outline (value : ConfigValue) : value.outline.items = value.items := by
  cases value <;> rfl

theorem items_of_outline {items : List ConfigValue} (h : value.outline = .list items) :
    value.items = items := by
  rw [← items_outline, h]
  rfl

theorem entries_of_not_isTable (h : value.isTable = false) : value.entries = [] := by
  cases value with
  | table => cases h
  | _ => rfl

/-- What stands behind a name stands in the entry of that name. -/
theorem view_of_find? {name : String} {entries : List (String × ConfigValue)} {inner : ConfigValue}
    (h : Assoc.find? name entries = some inner) (names : List String) :
    view (name :: names) (.table entries) = view names inner := by
  show (Assoc.find? name entries).bind (view names) = _
  rw [h, Option.bind_some]

theorem view_eq_none_of_find? {name : String} {entries : List (String × ConfigValue)}
    (h : Assoc.find? name entries = none) (names : List String) :
    view (name :: names) (.table entries) = none := by
  show (Assoc.find? name entries).bind (view names) = _
  rw [h, Option.bind_none]

mutual

/-- A leaf is no table, or one without entries. -/
theorem outline_of_mem_leaves : ∀ (value : ConfigValue) (leaf : List String × ConfigValue),
    leaf ∈ value.leaves → leaf.2.outline = leaf.2
  | .table (entry :: rest), leaf, h => outline_of_mem_leavesOf (entry :: rest) leaf h
  | .table [], leaf, h | .nothing, leaf, h | .bool _, leaf, h | .int _, leaf, h
  | .float _, leaf, h | .text _, leaf, h | .list _, leaf, h => by
    rw [List.mem_singleton.mp h]
    rfl

theorem outline_of_mem_leavesOf : ∀ (entries : List (String × ConfigValue))
    (leaf : List String × ConfigValue), leaf ∈ leavesOf entries → leaf.2.outline = leaf.2
  | [], leaf, h => absurd h List.not_mem_nil
  | (name, value) :: rest, leaf, h => by
    rcases List.mem_append.mp h with h | h
    · obtain ⟨inner, hinner, rfl⟩ := List.mem_map.mp h
      exact outline_of_mem_leaves value inner hinner
    · exact outline_of_mem_leavesOf rest leaf h

end

/-! ## Ways to change -/

/-- A way in which the view at a path can change. -/
inductive Touch where
  | keep
  /-- Something or nothing stands there now. -/
  | set (value : Option ConfigValue)
  /-- An empty table stands there if there was nothing. -/
  | fill
  /-- A list stands there, with an item changed. -/
  | item (index : Int) (change : ConfigValue → ConfigValue)

/-- The view after a change. -/
def Touch.apply : Touch → Option ConfigValue → Option ConfigValue
  | .keep, old => old
  | .set value, _ => value
  | .fill, old => some (old.getD (.table []))
  | .item index change, old => some (.list (changeItem index change (old.getD .nothing).items))

/-- How the view changes behind a name, when a leaf is laid at that name. -/
def touchAt (leaf : ConfigValue) : List String → Touch
  | [] => if leaf.isTable then .fill else .set (some leaf)
  | _ :: _ => if leaf.isTable then .keep else .set none

/-- How the view at a path of names changes, when a leaf is laid at a path. -/
def touch (leaf : ConfigValue) : SettingPath → List String → Touch
  | [], names => .set (leaf.view names)
  | .item index :: path, [] => .item index (·.layAt leaf path)
  | .item _ :: _, _ :: _ => .set none
  | .name _ :: _, [] => .set (some (.table []))
  | .name name :: path, other :: names =>
    if other ≠ name then .keep
    else if path.isEmpty then touchAt leaf names
    else touch leaf path names

/-- A leaf that is a table is laid by making a table where there is nothing. -/
theorem lay_of_isTable (hleaf : leaf.outline = leaf) (htable : leaf.isTable = true) (name : String)
    (entries : List (String × ConfigValue)) :
    lay name entries leaf
      = Assoc.put name ((Assoc.find? name entries).getD (.table [])) entries := by
  cases leaf with
  | table inner =>
    cases hleaf
    rw [lay, layAll]
  | _ => cases htable

/-- Any other leaf is laid by putting it there. -/
theorem lay_of_not_isTable (htable : leaf.isTable = false) (name : String)
    (entries : List (String × ConfigValue)) :
    lay name entries leaf = Assoc.put name leaf entries := by
  cases leaf with
  | table => cases htable
  | _ => rfl

/-- A leaf that is laid at a name stands there, or leaves there what is there. -/
theorem view_lay (hleaf : leaf.outline = leaf) (name other : String)
    (entries : List (String × ConfigValue)) (names : List String) :
    (Assoc.find? other (lay name entries leaf)).bind (view names)
      = if other ≠ name then (Assoc.find? other entries).bind (view names)
        else (touchAt leaf names).apply ((Assoc.find? other entries).bind (view names)) := by
  rw [ite_not]
  -- a table as a leaf has no entries, so it only fills the place if nothing is there
  cases htable : leaf.isTable with
  | true =>
    rw [lay_of_isTable hleaf htable, Assoc.find?_put]
    split
    · rename_i heq
      subst heq
      cases names <;> cases Assoc.find? other entries <;> simp [touchAt, htable, Touch.apply, view,
        ConfigValue.outline, ConfigValue.entries, Assoc.find?]
    · rfl
  | false =>
    rw [lay_of_not_isTable htable, Assoc.find?_put]
    split
    · cases names with
      | nil => simp [touchAt, htable, Touch.apply, view, hleaf]
      | cons first names =>
        simp [touchAt, htable, Touch.apply, view, entries_of_not_isTable htable, Assoc.find?]
    · rfl

/-- What stands behind a step is not read if there is nothing: it is changed like nothing. -/
theorem apply_touch_nothing (hne : path ≠ []) (names : List String) :
    (touch leaf path names).apply (view names .nothing) = (touch leaf path names).apply none := by
  cases names with
  | nil =>
    cases path with
    | nil => exact absurd rfl hne
    | cons step path => cases step <;> rfl
  | cons name names => rfl

/-- **The view at a path changes on its own.** -/
theorem view_layAt (hleaf : path.all PathStep.isName = true → leaf.outline = leaf)
    (root : ConfigValue) (names : List String) :
    view names (root.layAt leaf path) = (touch leaf path names).apply (view names root) := by
  induction path generalizing root names with
  | nil => rfl
  | cons step path ih =>
    cases step with
    | item index =>
      cases names with
      | nil =>
        show some (ConfigValue.list _) = some (ConfigValue.list _)
        rw [view, Option.getD_some, items_outline]
      | cons other names => rfl
    | name name =>
      have hinner : path.all PathStep.isName = true → leaf.outline = leaf := fun hnames =>
        hleaf (by rw [List.all_cons, hnames]; rfl)
      -- the last name of a path is laid, the others are entered
      by_cases hnil : path = []
      · subst hnil
        cases names with
        | nil => rfl
        | cons other names =>
          show (Assoc.find? other (lay name root.entries leaf)).bind (view names) = _
          rw [view_lay (hleaf rfl), touch]
          split <;> rfl
      · rw [layAt_name root leaf name hnil]
        cases names with
        | nil => rfl
        | cons other names =>
          have hempty : path.isEmpty = false := List.isEmpty_eq_false_iff.mpr hnil
          show (Assoc.find? other (Assoc.put name _ root.entries)).bind (view names) = _
          rw [Assoc.find?_put, touch, view]
          by_cases hname : other = name
          · subst hname
            rw [if_pos rfl, Option.bind_some, ih hinner, if_neg (not_not_intro rfl), hempty]
            cases Assoc.find? other root.entries with
            | none => exact apply_touch_nothing hnil names
            | some inner => rfl
          · rw [if_neg hname, if_pos hname]
            rfl

/-! ## Layers -/

/-- The view at a path of names after leaves were laid, one after the other. -/
def touchAll (names : List String) (leaves : List (SettingPath × ConfigValue))
    (old : Option ConfigValue) : Option ConfigValue :=
  leaves.foldl (fun old leaf => (touch leaf.2 leaf.1 names).apply old) old

theorem touchAll_cons (names : List String) (leaf : SettingPath × ConfigValue)
    (rest : List (SettingPath × ConfigValue)) (old : Option ConfigValue) :
    touchAll names (leaf :: rest) old
      = touchAll names rest ((touch leaf.2 leaf.1 names).apply old) := rfl

theorem outline_of_mem_layerLeaves {layer : List (String × ConfigValue)}
    {leaf : SettingPath × ConfigValue} (h : leaf ∈ layerLeaves layer)
    (hnames : leaf.1.all PathStep.isName = true) : leaf.2.outline = leaf.2 := by
  obtain ⟨entry, -, h⟩ := List.mem_flatMap.mp h
  rw [entryLeaves] at h
  split at h
  · obtain ⟨inner, hinner, rfl⟩ := List.mem_map.mp h
    exact outline_of_mem_leaves _ _ hinner
  · rename_i hitem
    obtain rfl := List.mem_singleton.mp h
    exact absurd hnames hitem

/-- **The view after a layer was laid** comes from the leaves of the layer and the view before. -/
theorem view_layLayer (names : List String) (root : ConfigValue)
    (layer : List (String × ConfigValue)) :
    view names (root.layLayer layer) = touchAll names (layerLeaves layer) (view names root) := by
  have hleaves : ∀ leaf ∈ layerLeaves layer, leaf.1.all PathStep.isName = true →
      leaf.2.outline = leaf.2 := fun _ => outline_of_mem_layerLeaves
  rw [layLayer_eq]
  generalize layerLeaves layer = leaves at hleaves
  induction leaves generalizing root with
  | nil => rfl
  | cons leaf rest ih =>
    obtain ⟨hleaf, hrest⟩ := List.forall_mem_cons.mp hleaves
    rw [touchAll_cons, ← view_layAt hleaf root names]
    exact ih _ hrest

/-- A layer that is laid over a table leaves a table. -/
theorem exists_layLayer_eq (entries : List (String × ConfigValue))
    (layer : List (String × ConfigValue)) :
    ∃ entries', layLayer (.table entries) layer = .table entries' := by
  induction layer generalizing entries with
  | nil => exact ⟨entries, rfl⟩
  | cons entry rest ih =>
    obtain ⟨name, path, hpath⟩ := SettingPath.exists_ofText_eq entry.1
    have hentry : ∃ entries', (ConfigValue.table entries).layAt entry.2
        (SettingPath.ofText entry.1) = .table entries' := by
      rw [hpath]
      cases path with
      | nil => exact ⟨_, rfl⟩
      | cons step path => exact ⟨_, rfl⟩
    obtain ⟨entries', hentries⟩ := hentry
    show ∃ entries'', layLayer ((ConfigValue.table entries).layAt entry.2
      (SettingPath.ofText entry.1)) rest = .table entries''
    rw [hentries]
    exact ih entries'

/-! ## Leaves that stay out of a view -/

/-- A leaf at or behind a place changes no view of a path that leads neither to the place, nor to
what it stands in, nor to something inside it. -/
theorem touch_eq_keep (leaf : ConfigValue) {place names : List String}
    (hpath : place.map .name <+: path) (hout : ¬names <+: place) (hin : ¬place <+: names) :
    touch leaf path names = .keep := by
  induction place generalizing path names with
  | nil => exact absurd List.nil_prefix hin
  | cons name place ih =>
    obtain ⟨path, rfl⟩ := hpath
    cases names with
    | nil => exact absurd List.nil_prefix hout
    | cons other names =>
      rw [List.map_cons, List.cons_append, touch]
      by_cases hother : other = name
      · subst hother
        rw [List.cons_prefix_cons] at hout hin
        -- the place cannot end here, since the names do not lead into it
        have hne : place ≠ [] := by
          rintro rfl
          exact hin ⟨rfl, List.nil_prefix⟩
        have hempty : (place.map PathStep.name ++ path).isEmpty = false := by
          simp [hne]
        rw [if_neg (not_not_intro rfl), hempty]
        exact ih ⟨path, rfl⟩ (fun h => hout ⟨rfl, h⟩) fun h => hin ⟨rfl, h⟩
      · rw [if_pos hother]

/-! ## Lists -/

/-- The items of the list that stands at a path of names. -/
def itemsAt (names : List String) (root : ConfigValue) : List ConfigValue :=
  ((view names root).getD .nothing).items

/-- The number of items of a list after a change does not depend on what they are. -/
theorem length_changeItem (index : Int) (change : ConfigValue → ConfigValue)
    (items : List ConfigValue) :
    (changeItem index change items).length
      = max items.length (min (if 0 ≤ index then index.toNat + 1 else index.natAbs) listBound) := by
  rw [changeItem]
  split
  · rw [List.length_modify, List.length_append, growth, List.length_replicate]
    omega
  · rw [List.length_modify, List.length_append, growth, List.length_replicate]
    omega

end ConfigValue

end Courier
