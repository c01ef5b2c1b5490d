import Courier.Proofs.Settings.View
import Courier.Settings.Load

/-!
# Settings from what stands in a tree

The settings are read from a tree, and what they are depends on the views at the paths of the
settings and of their groups alone (`Settings.ofTree?_congr`). A list is no value for a single
setting, so it does not matter which list stands there. A setting that nothing stands for in its
group has its default (`Settings.agrees_default`).
-/

namespace Courier

open ConfigValue

/-! ## Single settings -/

/-- The settings that are a single value. -/
inductive Setting where
  | host
  | port
  | bodyLimit
  | apiKey
  | preloadPath
  | maxTemplates
  deriving DecidableEq, Repr

namespace Setting

/-- The table in which a setting stands. -/
def group : Setting → String
  | host | port | bodyLimit => "server"
  | apiKey => "api"
  | preloadPath | maxTemplates => "catalog"

/-- The name of a setting in its table. -/
def name : Setting → String
  | host => "host"
  | port => "port"
  | bodyLimit => "body_limit"
  | apiKey => "key"
  | preloadPath => "preload_path"
  | maxTemplates => "max_templates"

/-- The number of a setting, where its group is a list. -/
def number : Setting → Nat
  | host | apiKey | preloadPath => 0
  | port | maxTemplates => 1
  | bodyLimit => 3

/-- The names that lead to a setting. -/
def names (s : Setting) : List String :=
  [s.group, s.name]

/-- What the layer of the defaults has for a setting. -/
def default? : Setting → Option ConfigValue
  | host => some (.text Settings.defaultHost)
  | port => some (.int Settings.defaultPort)
  | bodyLimit => some (.int Settings.defaultBodyLimit)
  | apiKey | preloadPath => none
  | maxTemplates => some (.int Catalog.defaultCapacity)

/-- A setting is the same in two settings of the service. -/
def Agrees (a b : Settings) : Setting → Prop
  | host => a.server.host = b.server.host
  | port => a.server.port = b.server.port
  | bodyLimit => a.server.bodyLimit = b.server.bodyLimit
  | apiKey => a.apiKey = b.apiKey
  | preloadPath => a.preloadPath = b.preloadPath
  | maxTemplates => a.maxTemplates = b.maxTemplates

end Setting

/-! ## Reading values -/

/-- What stands at two places cannot be told apart by the settings that are a single value: it is
the same, or a list at both places. -/
def Alike (a b : Option ConfigValue) : Prop :=
  a = b ∨ ∃ items items', a = some (.list items) ∧ b = some (.list items')

/-- A reader does not look into tables. -/
def Shallow {α : Type} (read : ConfigValue → Option α) : Prop :=
  ∀ value, read value.outline = read value

theorem shallow_asText? : Shallow asText? := fun value => by cases value <;> rfl

theorem shallow_asNatural? (bound : Nat) : Shallow (asNatural? bound) :=
  fun value => by cases value <;> rfl

theorem shallow_asTexts? : Shallow asTexts? := fun value => by cases value <;> rfl

namespace Settings

theorem shallow_nullableText? : Shallow nullableText? := fun value => by cases value <;> rfl

variable {α : Type} {read : ConfigValue → Option α} {group group' : ConfigValue} {name : String}
  {number : Nat} {value : α}

/-- A setting with a default is what stands under its name in a table, or at its number in a
list. -/
theorem withDefault?_eq (hread : Shallow read) (group : ConfigValue) (name : String) (number : Nat)
    (value : α) : withDefault? group name number read value
      = match group.outline with
        | .table _ => (group.view [name]).elim (some value) read
        | .list items => items[number]?.elim (some value) read
        | _ => none := by
  cases group with
  | table entries =>
    rw [withDefault?, lookUp?]
    cases hfound : Assoc.find? name entries with
    | none =>
      show some value = (view [name] (.table entries)).elim (some value) read
      rw [view_eq_none_of_find? hfound, Option.elim_none]
    | some inner =>
      show read inner = (view [name] (.table entries)).elim (some value) read
      rw [view_of_find? hfound]
      exact (hread inner).symm
  | list items =>
    rw [withDefault?, lookUp?]
    show _ = items[number]?.elim (some value) read
    cases items[number]? <;> rfl
  | nothing | bool | int | float | text => rfl

theorem withDefault?_congr (hread : Shallow read) (hgroup : group.outline = group'.outline)
    (hname : (group.view [name]).elim (some value) read
      = (group'.view [name]).elim (some value) read) :
    withDefault? group name number read value = withDefault? group' name number read value := by
  rw [withDefault?_eq hread, withDefault?_eq hread, hgroup, hname]

/-- What is alike gives the same setting, if no list gives any. -/
theorem withDefault?_alike (hread : Shallow read) (hlist : ∀ items, read (.list items) = none)
    (hgroup : group.outline = group'.outline) (h : Alike (group.view [name]) (group'.view [name])) :
    withDefault? group name number read value = withDefault? group' name number read value := by
  refine withDefault?_congr hread hgroup ?_
  rcases h with h | ⟨items, items', h, h'⟩
  · rw [h]
  · rw [h, h', Option.elim_some, Option.elim_some, hlist, hlist]

theorem server?_congr (hgroup : group.outline = group'.outline)
    (horigins : group.view ["cors_origins"] = group'.view ["cors_origins"])
    (h : ∀ s : Setting, s.group = "server" → Alike (group.view [s.name]) (group'.view [s.name])) :
    server? group = server? group' := by
  have hhost : withDefault? group "host" 0 asText? defaultHost
      = withDefault? group' "host" 0 asText? defaultHost :=
    withDefault?_alike shallow_asText? (fun _ => rfl) hgroup (h .host rfl)
  have hport : withDefault? group "port" 1 (asNatural? (twoTo 16)) defaultPort
      = withDefault? group' "port" 1 (asNatural? (twoTo 16)) defaultPort :=
    withDefault?_alike (shallow_asNatural? _) (fun _ => rfl) hgroup (h .port rfl)
  have hcors : withDefault? group "cors_origins" 2 asTexts? []
      = withDefault? group' "cors_origins" 2 asTexts? [] :=
    withDefault?_congr shallow_asTexts? hgroup (by rw [horigins])
  have hlimit : withDefault? group "body_limit" 3 asCount? defaultBodyLimit
      = withDefault? group' "body_limit" 3 asCount? defaultBodyLimit :=
    withDefault?_alike (shallow_asNatural? _) (fun _ => rfl) hgroup (h .bodyLimit rfl)
  rw [server?, server?, hhost, hport, hcors, hlimit]

/-- The key is what stands under its name in a table, and the first item of a list. -/
theorem apiKey?_eq (group : ConfigValue) :
    apiKey? group = match group.outline with
      | .table _ => (group.view ["key"]).elim (some none) nullableText?
      | .list items => items[0]?.bind nullableText?
      | _ => none := by
  cases group with
  | table entries =>
    rw [apiKey?, lookUp?]
    cases hfound : Assoc.find? "key" entries with
    | none =>
      show some none = (view ["key"] (.table entries)).elim (some none) nullableText?
      rw [view_eq_none_of_find? hfound, Option.elim_none]
    | some inner =>
      show nullableText? inner = (view ["key"] (.table entries)).elim (some none) nullableText?
      rw [view_of_find? hfound]
      exact (shallow_nullableText? inner).symm
  | list items =>
    rw [apiKey?, lookUp?]
    show _ = items[0]?.bind nullableText?
    cases items[0]? <;> rfl
  | nothing | bool | int | float | text => rfl

theorem apiKey?_congr (hgroup : group.outline = group'.outline)
    (h : Alike (group.view ["key"]) (group'.view ["key"])) : apiKey? group = apiKey? group' := by
  rw [apiKey?_eq, apiKey?_eq, hgroup]
  rcases h with h | ⟨items, items', h, h'⟩
  · rw [h]
  · rw [h, h']
    rfl

theorem catalog?_congr (hgroup : group.outline = group'.outline)
    (h : ∀ s : Setting, s.group = "catalog" → Alike (group.view [s.name]) (group'.view [s.name])) :
    catalog? group = catalog? group' := by
  have hpath : withDefault? group "preload_path" 0 nullableText? none
      = withDefault? group' "preload_path" 0 nullableText? none :=
    withDefault?_alike shallow_nullableText? (fun _ => rfl) hgroup (h .preloadPath rfl)
  have hcapacity : withDefault? group "max_templates" 1 asCount? Catalog.defaultCapacity
      = withDefault? group' "max_templates" 1 asCount? Catalog.defaultCapacity :=
    withDefault?_alike (shallow_asNatural? _) (fun _ => rfl) hgroup (h .maxTemplates rfl)
  rw [catalog?, catalog?, hpath, hcapacity]

/-! ## Reading trees -/

variable {entries entries' : List (String × ConfigValue)}

/-- A group of a tree is what stands under its name. -/
theorem withDefault?_table (name : String) (number : Nat) (read : ConfigValue → Option α)
    (value : α) : withDefault? (.table entries) name number read value
      = (Assoc.find? name entries).elim (some value) read := by
  rw [withDefault?, lookUp?]
  cases Assoc.find? name entries <;> rfl

/-- Groups with the same outline that are read alike give the same. -/
theorem group_congr {name : String}
    (hgroup : view [name] (.table entries) = view [name] (.table entries'))
    (hread : ∀ group group', group.outline = group'.outline →
      (∀ names, view names group = view (name :: names) (.table entries)) →
      (∀ names, view names group' = view (name :: names) (.table entries')) →
      read group = read group') :
    (Assoc.find? name entries).elim (some value) read
      = (Assoc.find? name entries').elim (some value) read := by
  cases hfound : Assoc.find? name entries with
  | none =>
    rw [view_eq_none_of_find? hfound] at hgroup
    cases hfound' : Assoc.find? name entries' with
    | none => rfl
    | some group' =>
      rw [view_of_find? hfound'] at hgroup
      cases hgroup
  | some group =>
    rw [view_of_find? hfound] at hgroup
    cases hfound' : Assoc.find? name entries' with
    | none =>
      rw [view_eq_none_of_find? hfound'] at hgroup
      cases hgroup
    | some group' =>
      rw [view_of_find? hfound'] at hgroup
      exact hread group group' (Option.some.inj hgroup)
        (fun names => (view_of_find? hfound names).symm)
        fun names => (view_of_find? hfound' names).symm

/-- **The settings depend on the views at the paths of the settings and of their groups alone**, and
at a setting that is a single value lists need not be told apart. -/
theorem ofTree?_congr
    (hgroups : ∀ name, view [name] (.table entries) = view [name] (.table entries'))
    (horigins : view ["server", "cors_origins"] (.table entries)
      = view ["server", "cors_origins"] (.table entries'))
    (h : ∀ s : Setting, Alike (view s.names (.table entries)) (view s.names (.table entries'))) :
    ofTree? (.table entries) = ofTree? (.table entries') := by
  have hnames {s : Setting} {name : String} (hname : s.group = name) :
      Alike (view [name, s.name] (.table entries)) (view [name, s.name] (.table entries')) :=
    hname ▸ h s
  -- one group at a time, each with the settings that lie in it
  have hserver : (Assoc.find? "server" entries).elim (some defaultServer) server?
      = (Assoc.find? "server" entries').elim (some defaultServer) server? := by
    refine group_congr (hgroups _) fun group group' hgroup hview hview' =>
      server?_congr hgroup ?_ fun s hs => ?_
    · rw [hview, hview', horigins]
    · rw [hview, hview']
      exact hnames hs
  have hkey : (Assoc.find? "api" entries).elim (some none) apiKey?
      = (Assoc.find? "api" entries').elim (some none) apiKey? := by
    refine group_congr (hgroups _) fun group group' hgroup hview hview' =>
      apiKey?_congr hgroup ?_
    rw [hview, hview']
    exact h .apiKey
  have hcatalog : (Assoc.find? "catalog" entries).elim (some (none, Catalog.defaultCapacity))
      catalog?
      = (Assoc.find? "catalog" entries').elim (some (none, Catalog.defaultCapacity)) catalog? := by
    refine group_congr (hgroups _) fun group group' hgroup hview hview' =>
      catalog?_congr hgroup fun s hs => ?_
    rw [hview, hview']
    exact hnames hs
  rw [ofTree?, ofTree?, withDefault?_table, withDefault?_table, withDefault?_table,
    withDefault?_table, withDefault?_table, withDefault?_table, hserver, hkey, hcatalog]

/-! ## Defaults -/

/-- A setting has its default if nothing else stands under its name in a table, and if a list ends
before its number. -/
theorem eq_of_withDefault? {found : α} {default? : Option ConfigValue} (hread : Shallow read)
    (hview : group.view [name] = none ∨ group.view [name] = default?)
    (hdefault : default?.elim (some value) read = some value)
    (hlength : group.items.length ≤ number)
    (h : withDefault? group name number read value = some found) : found = value := by
  rw [withDefault?_eq hread] at h
  split at h
  · have hstands : (group.view [name]).elim (some value) read = some value := by
      rcases hview with hview | hview <;> rw [hview]
      · rfl
      · exact hdefault
    rw [hstands] at h
    exact (Option.some.inj h).symm
  · rename_i items houtline
    rw [items_of_outline houtline] at hlength
    rw [List.getElem?_eq_none hlength, Option.elim_none] at h
    exact (Option.some.inj h).symm
  · cases h

/-- There is no key if nothing stands under its name in a table. An empty list is no section. -/
theorem eq_none_of_apiKey? {found : Option String} (hview : group.view ["key"] = none)
    (hlength : group.items.length ≤ 0) (h : apiKey? group = some found) : found = none := by
  rw [apiKey?_eq] at h
  split at h
  · rw [hview, Option.elim_none] at h
    exact (Option.some.inj h).symm
  · rename_i items houtline
    rw [items_of_outline houtline] at hlength
    rw [List.getElem?_eq_none hlength, Option.bind_none] at h
    cases h
  · cases h

/-- What is read from a section of a tree is its default, or read from what stands there. -/
theorem eq_or_exists_of_withDefault? {found : α}
    (h : withDefault? (.table entries) name number read value = some found) :
    found = value ∨ ∃ group, Assoc.find? name entries = some group ∧ read group = some found := by
  rw [withDefault?_table] at h
  cases hfound : Assoc.find? name entries with
  | none =>
    rw [hfound, Option.elim_none] at h
    exact .inl (Option.some.inj h).symm
  | some group =>
    rw [hfound, Option.elim_some] at h
    exact .inr ⟨group, rfl, h⟩

/-- The parts of the server section are read on their own. -/
theorem of_server? {server : ServerSettings} (h : server? group = some server) :
    withDefault? group "host" 0 asText? defaultHost = some server.host ∧
      withDefault? group "port" 1 (asNatural? (twoTo 16)) defaultPort = some server.port ∧
      withDefault? group "body_limit" 3 asCount? defaultBodyLimit = some server.bodyLimit := by
  simp only [server?, Option.bind_eq_bind, Option.bind_eq_some_iff] at h
  obtain ⟨host, hhost, port, hport, origins, -, limit, hlimit, h⟩ := h
  obtain rfl := Option.some.inj h
  exact ⟨hhost, hport, hlimit⟩

/-- So are those of the section about the catalog. -/
theorem of_catalog? {path : Option String} {capacity : Nat}
    (h : catalog? group = some (path, capacity)) :
    withDefault? group "preload_path" 0 nullableText? none = some path ∧
      withDefault? group "max_templates" 1 asCount? Catalog.defaultCapacity = some capacity := by
  simp only [catalog?, Option.bind_eq_bind, Option.bind_eq_some_iff] at h
  obtain ⟨path, hpath, capacity, hcapacity, h⟩ := h
  obtain ⟨rfl, rfl⟩ := Prod.mk.inj (Option.some.inj h)
  exact ⟨hpath, hcapacity⟩

/-- And so are the sections of a tree. -/
theorem of_ofTree? {tree : ConfigValue} {settings : Settings} (h : ofTree? tree = some settings) :
    withDefault? tree "server" 0 server? defaultServer = some settings.server ∧
      withDefault? tree "api" 1 apiKey? none = some settings.apiKey ∧
      withDefault? tree "catalog" 2 catalog? (none, Catalog.defaultCapacity)
        = some (settings.preloadPath, settings.maxTemplates) := by
  simp only [ofTree?, Option.bind_eq_bind, Option.bind_eq_some_iff] at h
  obtain ⟨server, hserver, key, hkey, ⟨path, capacity⟩, hcatalog, h⟩ := h
  obtain rfl := Option.some.inj h
  exact ⟨hserver, hkey, hcatalog⟩

/-- **A setting that nothing stands for has its default**, in all settings that can be read from a
tree: at its names there is nothing or the default, and no list that its group is reaches it. -/
theorem agrees_default {s : Setting} {settings : Settings}
    (h : ofTree? (.table entries) = some settings)
    (hview : view s.names (.table entries) = none ∨ view s.names (.table entries) = s.default?)
    (hlength : (itemsAt [s.group] (.table entries)).length ≤ s.number) :
    s.Agrees settings default := by
  have hview {group : ConfigValue} (hgroup : Assoc.find? s.group entries = some group) :
      group.view [s.name] = none ∨ group.view [s.name] = s.default? :=
    view_of_find? hgroup [s.name] ▸ hview
  have hlength {group : ConfigValue} (hgroup : Assoc.find? s.group entries = some group) :
      group.items.length ≤ s.number := by
    rw [itemsAt, view_of_find? hgroup] at hlength
    exact items_outline group ▸ hlength
  obtain ⟨hserver, hkey, hcatalog⟩ := of_ofTree? h
  -- in each case the whole group is missing, or the setting in it
  cases s with
  | host =>
    obtain hmissing | ⟨group, hgroup, hread⟩ := eq_or_exists_of_withDefault? hserver
    · exact congrArg ServerSettings.host hmissing
    · exact eq_of_withDefault? shallow_asText? (hview hgroup) rfl (hlength hgroup)
        (of_server? hread).1
  | port =>
    obtain hmissing | ⟨group, hgroup, hread⟩ := eq_or_exists_of_withDefault? hserver
    · exact congrArg ServerSettings.port hmissing
    · exact eq_of_withDefault? (shallow_asNatural? _) (hview hgroup) rfl (hlength hgroup)
        (of_server? hread).2.1
  | bodyLimit =>
    obtain hmissing | ⟨group, hgroup, hread⟩ := eq_or_exists_of_withDefault? hserver
    · exact congrArg ServerSettings.bodyLimit hmissing
    · exact eq_of_withDefault? (shallow_asNatural? _) (hview hgroup) rfl (hlength hgroup)
        (of_server? hread).2.2
  | apiKey =>
    obtain hmissing | ⟨group, hgroup, hread⟩ := eq_or_exists_of_withDefault? hkey
    · exact hmissing
    · exact eq_none_of_apiKey? ((hview hgroup).elim id id) (hlength hgroup) hread
  | preloadPath =>
    obtain hmissing | ⟨group, hgroup, hread⟩ := eq_or_exists_of_withDefault? hcatalog
    · exact congrArg Prod.fst hmissing
    · exact eq_of_withDefault? shallow_nullableText? (hview hgroup) rfl (hlength hgroup)
        (of_catalog? hread).1
  | maxTemplates =>
    obtain hmissing | ⟨group, hgroup, hread⟩ := eq_or_exists_of_withDefault? hcatalog
    · exact congrArg Prod.snd hmissing
    · exact eq_of_withDefault? (shallow_asNatural? _) (hview hgroup) rfl (hlength hgroup)
        (of_catalog? hread).2

end Settings

end Courier
