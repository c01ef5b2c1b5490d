import Courier.Proofs.Assoc
import Courier.Settings.Layer
import Mathlib.Data.String.Basic

/-!
# Layers as lists of leaves

A layer holds tables, and tables are merged entry by entry. So a layer can be taken apart into its
leaves: each value that is not a table, and each table without entries, with the path to it. Laying
the layer over a tree is laying its leaves over it, one after the other (`layLayer_eq`), and
a leaf is never merged. A path that leads by number into a list is the exception: what stands at its
end takes the place of an item as a whole, so it is a leaf even if it is a table.
-/

namespace Courier

/-- Whether a step is one into a table. -/
def PathStep.isName : PathStep → Bool
  | .name _ => true
  | .item _ => false

/-- The path of an entry begins with a name. -/
theorem SettingPath.exists_ofText_eq (text : String) :
    ∃ name path, SettingPath.ofText text = .name name :: path := by
  rw [SettingPath.ofText]
  generalize SettingPath.cut text.toList = pieces
  obtain ⟨first, pieces⟩ := pieces
  dsimp only
  split
  · rename_i step steps hstep _
    obtain ⟨-, hstep⟩ := Option.ite_none_right_eq_some.mp hstep
    obtain rfl := Option.some.inj hstep
    exact ⟨_, _, rfl⟩
  · exact ⟨_, _, rfl⟩

namespace ConfigValue

/-! ## Leaves -/

mutual

/-- The leaves of a value, each with the names on the way to it. -/
def leaves : ConfigValue → List (List String × ConfigValue)
  | .table (entry :: rest) => leavesOf (entry :: rest)
  | value => [([], value)]

/-- The leaves of the entries of a table. -/
def leavesOf : List (String × ConfigValue) → List (List String × ConfigValue)
  | [] => []
  | (name, value) :: rest =>
    value.leaves.map (fun leaf => (name :: leaf.1, leaf.2)) ++ leavesOf rest

end

/-- The leaves of an entry of a layer. -/
def entryLeaves (path : SettingPath) (value : ConfigValue) : List (SettingPath × ConfigValue) :=
  if path.all PathStep.isName then
    value.leaves.map fun leaf => (path ++ leaf.1.map .name, leaf.2)
  else [(path, value)]

/-- The leaves of a layer. -/
def layerLeaves (layer : List (String × ConfigValue)) : List (SettingPath × ConfigValue) :=
  layer.flatMap fun entry => entryLeaves (SettingPath.ofText entry.1) entry.2

/-- A tree with leaves laid over it, one after the other. -/
def layLeaves (root : ConfigValue) (leaves : List (SettingPath × ConfigValue)) : ConfigValue :=
  leaves.foldl (fun root leaf => root.layAt leaf.2 leaf.1) root

/-- Leaves behind a step. -/
def behind (step : PathStep) (leaves : List (SettingPath × ConfigValue)) :
    List (SettingPath × ConfigValue) :=
  leaves.map fun leaf => (step :: leaf.1, leaf.2)

/-- Leaves of a value with the paths to them. -/
def paths (leaves : List (List String × ConfigValue)) : List (SettingPath × ConfigValue) :=
  leaves.map fun leaf => (leaf.1.map .name, leaf.2)

variable {root value : ConfigValue} {path : SettingPath}

theorem layLeaves_append (root : ConfigValue) (first second : List (SettingPath × ConfigValue)) :
    layLeaves root (first ++ second) = layLeaves (layLeaves root first) second :=
  List.foldl_append

theorem leaves_ne_nil (value : ConfigValue) : value.leaves ≠ [] := by
  cases value with
  | table entries =>
    cases entries with
    | nil => exact List.cons_ne_nil _ _
    | cons entry rest =>
      obtain ⟨name, value⟩ := entry
      have hvalue := leaves_ne_nil value
      simp [leaves, leavesOf, hvalue]
  | _ => exact List.cons_ne_nil _ _

theorem paths_leavesOf_cons (name : String) (value : ConfigValue)
    (rest : List (String × ConfigValue)) :
    paths (leavesOf ((name, value) :: rest))
      = behind (.name name) (paths value.leaves) ++ paths (leavesOf rest) := by
  rw [leavesOf, paths, List.map_append, List.map_map]
  simp only [behind, paths, List.map_map]
  rfl

/-- The leaves of entries do not stand where the table stands. -/
theorem ne_nil_of_mem_leavesOf {entries : List (String × ConfigValue)}
    {leaf : SettingPath × ConfigValue} (h : leaf ∈ paths (leavesOf entries)) : leaf.1 ≠ [] := by
  induction entries with
  | nil => exact absurd h List.not_mem_nil
  | cons entry rest ih =>
    obtain ⟨name, value⟩ := entry
    rw [paths_leavesOf_cons] at h
    rcases List.mem_append.mp h with h | h
    · obtain ⟨inner, -, rfl⟩ := List.mem_map.mp h
      exact List.cons_ne_nil _ _
    · exact ih h

/-! ## Laying leaves -/

/-- What is laid at a path behind a name changes what stands under the name. -/
theorem layAt_name (root value : ConfigValue) (name : String) (h : path ≠ []) :
    root.layAt value (.name name :: path)
      = .table (Assoc.put name
          (((Assoc.find? name root.entries).getD .nothing).layAt value path) root.entries) := by
  cases path with
  | nil => exact absurd rfl h
  | cons step path => rfl

/-- So do several leaves, one after the other. -/
theorem layLeaves_behind (root : ConfigValue) (name : String)
    {leaves : List (SettingPath × ConfigValue)} (hne : leaves ≠ [])
    (hpaths : ∀ leaf ∈ leaves, leaf.1 ≠ []) :
    layLeaves root (behind (.name name) leaves)
      = .table (Assoc.put name
          (layLeaves ((Assoc.find? name root.entries).getD .nothing) leaves) root.entries) := by
  induction leaves generalizing root with
  | nil => exact absurd rfl hne
  | cons leaf rest ih =>
    obtain ⟨hleaf, hrest⟩ := List.forall_mem_cons.mp hpaths
    have hfirst := layAt_name root leaf.2 name hleaf
    show layLeaves (root.layAt leaf.2 (.name name :: leaf.1)) (behind (.name name) rest) = _
    by_cases hnil : rest = []
    · subst hnil
      exact hfirst
    · rw [hfirst, ih _ hnil hrest]
      dsimp only [entries]
      rw [Assoc.find?_put, if_pos rfl, Option.getD_some, Assoc.put_put]
      rfl

/-- Entries are laid over a tree by its own entries alone, if there are any to lay. -/
theorem layAll_congr {target target' : ConfigValue} (h : target.entries = target'.entries)
    {entries : List (String × ConfigValue)} (hne : entries ≠ []) :
    layAll target entries = layAll target' entries := by
  cases entries with
  | nil => exact absurd rfl hne
  | cons entry rest =>
    obtain ⟨name, value⟩ := entry
    rw [layAll, layAll, h]

mutual

/-- Laying a value over an entry is laying its leaves behind the name of the entry. -/
theorem table_lay : ∀ (value root : ConfigValue) (name : String),
    .table (lay name root.entries value) = layLeaves root (behind (.name name) (paths value.leaves))
  | .table (entry :: rest), root, name => by
    have hne : paths (leavesOf (entry :: rest)) ≠ [] := by
      have hleaves := leaves_ne_nil (.table (entry :: rest))
      simpa [leaves, paths] using hleaves
    have hentries : (((Assoc.find? name root.entries).getD (.table [])).entries)
        = ((Assoc.find? name root.entries).getD .nothing).entries := by
      cases Assoc.find? name root.entries <;> rfl
    rw [lay, leaves, layLeaves_behind root name hne fun _ => ne_nil_of_mem_leavesOf,
      layAll_congr hentries (List.cons_ne_nil _ _), layAll_eq (entry :: rest)]
  | .table [], root, name => rfl
  | .nothing, root, name | .bool _, root, name | .int _, root, name | .float _, root, name
  | .text _, root, name | .list _, root, name => rfl

/-- Laying all entries of a table is laying their leaves. -/
theorem layAll_eq : ∀ (entries : List (String × ConfigValue)) (target : ConfigValue),
    layAll target entries = layLeaves target (paths (leavesOf entries))
  | [], target => rfl
  | (name, value) :: rest, target => by
    rw [paths_leavesOf_cons, layLeaves_append, ← table_lay value target name, layAll,
      layAll_eq rest]

end

theorem entryLeaves_eq (hnames : path.all PathStep.isName = true) (value : ConfigValue) :
    entryLeaves path value = value.leaves.map fun leaf => (path ++ leaf.1.map .name, leaf.2) :=
  if_pos hnames

/-- Laying a value at names is laying its leaves behind the names. -/
theorem layAt_eq (root value : ConfigValue) (hnames : path.all PathStep.isName = true)
    (hne : path ≠ []) : root.layAt value path = layLeaves root (entryLeaves path value) := by
  induction path generalizing root with
  | nil => exact absurd rfl hne
  | cons step path ih =>
    rw [entryLeaves_eq hnames]
    rw [List.all_cons, Bool.and_eq_true] at hnames
    obtain ⟨hstep, hpath⟩ := hnames
    cases step with
    | item index => cases hstep
    | name name =>
      -- the last name of a path is laid, the others are entered
      by_cases hnil : path = []
      · subst hnil
        have hleaves : (value.leaves.map fun leaf => ([.name name] ++ leaf.1.map .name, leaf.2))
            = behind (.name name) (paths value.leaves) := by
          rw [behind, paths, List.map_map]
          rfl
        rw [hleaves, ← table_lay]
        rfl
      · have hleaves :
            (value.leaves.map fun leaf => (.name name :: path ++ leaf.1.map .name, leaf.2))
              = behind (.name name) (entryLeaves path value) := by
          rw [entryLeaves_eq hpath, behind, List.map_map]
          rfl
        have hleavesNe : entryLeaves path value ≠ [] := by
          rw [entryLeaves_eq hpath]
          simpa using leaves_ne_nil value
        have hpathsNe : ∀ leaf ∈ entryLeaves path value, leaf.1 ≠ [] := by
          rw [entryLeaves_eq hpath]
          intro leaf hleaf
          obtain ⟨inner, -, rfl⟩ := List.mem_map.mp hleaf
          exact fun h => hnil (List.append_eq_nil_iff.mp h).1
        rw [hleaves, layLeaves_behind root name hleavesNe hpathsNe, layAt_name root value name hnil,
          ih _ hpath hnil]

/-- **Laying a layer over a tree is laying its leaves over it.** -/
theorem layLayer_eq (root : ConfigValue) (layer : List (String × ConfigValue)) :
    root.layLayer layer = layLeaves root (layerLeaves layer) := by
  induction layer generalizing root with
  | nil => rfl
  | cons entry rest ih =>
    have hentry : root.layAt entry.2 (SettingPath.ofText entry.1)
        = layLeaves root (entryLeaves (SettingPath.ofText entry.1) entry.2) := by
      by_cases hnames : (SettingPath.ofText entry.1).all PathStep.isName = true
      · obtain ⟨name, path, hpath⟩ := SettingPath.exists_ofText_eq entry.1
        exact layAt_eq root entry.2 hnames (hpath ▸ List.cons_ne_nil _ _)
      · rw [entryLeaves, if_neg hnames]
        rfl
    rw [layerLeaves, List.flatMap_cons, layLeaves_append, ← hentry]
    exact ih _

end ConfigValue

end Courier
