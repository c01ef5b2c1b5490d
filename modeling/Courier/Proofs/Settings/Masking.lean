import Courier.Proofs.Settings.ApiKey
import Courier.Proofs.Settings.Reading

/-!
# Masking

Of the layers that give a value to a setting the highest counts, and what the layers below it give
to the setting is seen nowhere (`Settings.loadFrom?_masked`): not in the setting, not in other
settings, and not in whether the settings can be read at all, whatever the formats of the files are.
The reason is that what a layer gives to a setting it gives over any tree
(`ConfigValue.alike_layLayer`). The one thing that can come through is an item of a list, and a list
is no value for a setting.

A layer gives a value to a setting by its name. A list in the place of a section has settings by
their numbers, which matters for a setting that no layer gives: it has its default if no such list
reaches it either.
-/

namespace Courier

namespace ConfigValue

variable {a b : Option ConfigValue} {names : List String} {layer : List (String × ConfigValue)}

/-! ## A layer alone and over a tree -/

/-- The tree of a layer alone. -/
def alone (layer : List (String × ConfigValue)) : ConfigValue :=
  layLayer (.table []) layer

theorem view_alone (hne : names ≠ []) (layer : List (String × ConfigValue)) :
    view names (alone layer) = touchAll names (layerLeaves layer) none := by
  cases names with
  | nil => exact absurd rfl hne
  | cons name names => exact view_layLayer (name :: names) (.table []) layer

/-- What every change of two views keeps, the leaves of a layer keep. -/
theorem touchAll_induction {P : Option ConfigValue → Option ConfigValue → Prop}
    (hstep : ∀ (touch : Touch) a b, P a b → P (touch.apply a) (touch.apply b))
    (leaves : List (SettingPath × ConfigValue)) (h : P a b) :
    P (touchAll names leaves a) (touchAll names leaves b) := by
  induction leaves generalizing a b with
  | nil => exact h
  | cons leaf rest ih => exact ih (hstep _ a b h)

/-- What is alike stays alike. -/
theorem Touch.alike (touch : Touch) (a b : Option ConfigValue) (h : Alike a b) :
    Alike (touch.apply a) (touch.apply b) := by
  cases touch with
  | keep => exact h
  | set value => exact .inl rfl
  | fill =>
    rcases h with rfl | ⟨items, items', rfl, rfl⟩
    · exact .inl rfl
    · exact .inr ⟨items, items', rfl, rfl⟩
  | item index change => exact .inr ⟨_, _, rfl, rfl⟩

/-- What is seen of a layer alone decides what is seen when it is laid over a tree, unless it is
nothing or a table. -/
def Decides (a b : Option ConfigValue) : Prop :=
  a = none ∨ a = some (.table []) ∨ Alike a b

theorem Touch.decides (touch : Touch) (a b : Option ConfigValue) (h : Decides a b) :
    Decides (touch.apply a) (touch.apply b) := by
  -- once a value or a list is seen in the layer alone, the two views stay alike
  rcases h with rfl | rfl | h
  · cases touch with
    | keep => exact .inl rfl
    | set value => exact .inr (.inr (.inl rfl))
    | fill => exact .inr (.inl rfl)
    | item index change => exact .inr (.inr (.inr ⟨_, _, rfl, rfl⟩))
  · cases touch with
    | keep | fill => exact .inr (.inl rfl)
    | set value => exact .inr (.inr (.inl rfl))
    | item index change => exact .inr (.inr (.inr ⟨_, _, rfl, rfl⟩))
  · exact .inr (.inr (touch.alike a b h))

/-- **What a layer gives it gives over any tree**, up to the items of a list. -/
theorem alike_layLayer {value : ConfigValue} (hne : names ≠ [])
    (hgives : view names (alone layer) = some value) (htable : value.isTable = false)
    (root : ConfigValue) : Alike (some value) (view names (root.layLayer layer)) := by
  have hdecides : Decides (view names (alone layer)) (view names (root.layLayer layer)) := by
    rw [view_alone hne, view_layLayer]
    exact touchAll_induction Touch.decides _ (.inl rfl)
  rw [hgives] at hdecides
  -- nothing and a table are ruled out by the value that the layer gives
  rcases hdecides with h | h | h
  · cases h
  · obtain rfl := Option.some.inj h
    cases htable
  · exact h

/-- Where a layer alone leaves nothing, it takes away what was there or keeps it. -/
def Loses (old a b : Option ConfigValue) : Prop :=
  a = none → b = none ∨ b = old

theorem Touch.loses {old : Option ConfigValue} (touch : Touch) (a b : Option ConfigValue)
    (h : Loses old a b) : Loses old (touch.apply a) (touch.apply b) := by
  cases touch with
  | keep => exact h
  | set value => exact .inl
  | fill | item index change => exact fun hnone => nomatch hnone

/-- **What a layer does not give** is as it was, or there is nothing any more. -/
theorem loses_layLayer (hne : names ≠ []) (hnone : view names (alone layer) = none)
    (root : ConfigValue) :
    view names (root.layLayer layer) = none ∨
      view names (root.layLayer layer) = view names root := by
  rw [view_alone hne] at hnone
  rw [view_layLayer]
  have hstart : Loses (view names root) none (view names root) := fun _ => .inr rfl
  exact touchAll_induction Touch.loses _ hstart hnone

/-- A list is no longer than a bound, or than it is in a layer alone. -/
def Grows (bound : Nat) (a b : Option ConfigValue) : Prop :=
  (b.getD .nothing).items.length ≤ max bound (a.getD .nothing).items.length

theorem Touch.grows {bound : Nat} (touch : Touch) (a b : Option ConfigValue)
    (h : Grows bound a b) : Grows bound (touch.apply a) (touch.apply b) := by
  cases touch with
  | keep => exact h
  | set value => exact Nat.le_max_right ..
  | fill =>
    cases b with
    | none => exact Nat.zero_le _
    | some value =>
      cases a with
      | none => exact h
      | some value' => exact h
  | item index change =>
    -- an index makes both lists grow to one length, if they are not longer already
    rw [Grows] at h ⊢
    show (changeItem _ _ _).length ≤ max bound (changeItem _ _ _).length
    rw [length_changeItem, length_changeItem]
    omega

/-- **A list grows to the length that it has in a layer alone**, if it was not longer before. -/
theorem length_itemsAt_layLayer (hne : names ≠ []) (layer : List (String × ConfigValue))
    (root : ConfigValue) :
    (itemsAt names (root.layLayer layer)).length
      ≤ max (itemsAt names root).length (itemsAt names (alone layer)).length := by
  rw [itemsAt, itemsAt, itemsAt, view_layLayer, view_alone hne]
  exact touchAll_induction Touch.grows _ (Nat.le_max_left ..)

/-- Where something stands under two names, a table stands under the first of them. -/
theorem view_section {first second : String} {root value : ConfigValue}
    (h : view [first, second] root = some value) : view [first] root = some (.table []) := by
  obtain ⟨inner, hinner, h⟩ := Option.bind_eq_some_iff.mp h
  show (Assoc.find? first root.entries).bind (view []) = _
  rw [hinner, Option.bind_some]
  cases inner with
  | table => rfl
  | _ => cases h

end ConfigValue

open ConfigValue

theorem Alike.symm {a b : Option ConfigValue} (h : Alike a b) : Alike b a := by
  rcases h with rfl | ⟨items, items', rfl, rfl⟩
  · exact .inl rfl
  · exact .inr ⟨items', items, rfl, rfl⟩

theorem Alike.trans {a b c : Option ConfigValue} (h : Alike a b) (h' : Alike b c) : Alike a c := by
  rcases h with rfl | ⟨items, items', rfl, rfl⟩
  · exact h'
  · rcases h' with rfl | ⟨-, items'', -, rfl⟩
    · exact .inr ⟨items, items', rfl, rfl⟩
    · exact .inr ⟨items, items'', rfl, rfl⟩

namespace Setting

variable {s t : Setting} {layer layer' : List (String × ConfigValue)} {a b : ConfigValue}

/-- The path to a setting. -/
def path (s : Setting) : SettingPath :=
  s.names.map .name

theorem names_injective : Function.Injective names := by
  intro s t h
  cases s <;> cases t <;> first | rfl | exact absurd h (by decide)

theorem names_ne_nil (s : Setting) : s.names ≠ [] :=
  List.cons_ne_nil _ _

/-! ## Layers and a setting -/

/-- The leaves of a layer that are neither a setting nor inside it. -/
def others (s : Setting) (layer : List (String × ConfigValue)) :
    List (SettingPath × ConfigValue) :=
  (layerLeaves layer).filter fun leaf => !s.path.isPrefixOf leaf.1

/-- Layers that differ in what they give to a setting, and in nothing else. -/
def DifferOnlyAt (s : Setting) (layer layer' : List (String × ConfigValue)) : Prop :=
  s.others layer = s.others layer'

/-- A layer gives a value that is no table to a setting. -/
def Gives (s : Setting) (layer : List (String × ConfigValue)) : Prop :=
  ∃ value, view s.names (alone layer) = some value ∧ value.isTable = false

/-- A layer does not give a setting: there is nothing at its names, and no list in the place of its
section reaches it. -/
def Silent (s : Setting) (layer : List (String × ConfigValue)) : Prop :=
  view s.names (alone layer) = none ∧ (itemsAt [s.group] (alone layer)).length ≤ s.number

/-! ## Trees that differ at a setting -/

/-- A path that leads neither to a setting nor to its section, nor to something inside it. -/
def Elsewhere (s : Setting) (names : List String) : Prop :=
  ¬names <+: s.names ∧ ¬s.names <+: names

/-- Trees that differ at a setting and its section at most. -/
def Apart (s : Setting) (a b : ConfigValue) : Prop :=
  ∀ names, s.Elsewhere names → view names a = view names b

/-- The views elsewhere come from the other leaves of a layer. -/
theorem touchAll_others {names : List String} (h : s.Elsewhere names)
    (layer : List (String × ConfigValue)) (old : Option ConfigValue) :
    touchAll names (s.others layer) old = touchAll names (layerLeaves layer) old := by
  rw [touchAll, touchAll, others, List.foldl_filter]
  congr
  funext old leaf
  split
  · rfl
  · -- a leaf that was left out leads to the setting, so it keeps the view elsewhere
    rename_i hleaf
    have hleads : s.names.map .name <+: leaf.1 := by simpa [path] using hleaf
    rw [touch_eq_keep leaf.2 hleads h.1 h.2]
    rfl

/-- Layers that differ at a setting only keep trees apart at the setting only. -/
theorem Apart.layLayer (h : s.Apart a b) (hlayer : s.DifferOnlyAt layer layer') :
    s.Apart (a.layLayer layer) (b.layLayer layer') := by
  intro names hnames
  rw [view_layLayer, view_layLayer, h names hnames, ← touchAll_others hnames,
    ← touchAll_others hnames, hlayer]

/-- Trees that differ at a setting at most, and there in the items of lists. -/
structure Masked (s : Setting) (a b : ConfigValue) : Prop where
  apart : s.Apart a b
  group : view [s.group] a = view [s.group] b
  own : Alike (view s.names a) (view s.names b)

theorem Masked.layLayer (h : s.Masked a b) (layer : List (String × ConfigValue)) :
    s.Masked (a.layLayer layer) (b.layLayer layer) where
  apart := h.apart.layLayer rfl
  group := by rw [view_layLayer, view_layLayer, h.group]
  own := by
    rw [view_layLayer, view_layLayer]
    exact touchAll_induction Touch.alike _ h.own

/-- **A layer that gives a value to a setting masks what the trees have there.** -/
theorem Gives.masked (hgives : s.Gives layer) (h : s.Apart a b) :
    s.Masked (a.layLayer layer) (b.layLayer layer) := by
  obtain ⟨value, hvalue, htable⟩ := hgives
  have hown (root : ConfigValue) : Alike (some value) (view s.names (root.layLayer layer)) :=
    alike_layLayer s.names_ne_nil hvalue htable root
  -- with a value at the setting its section is a table in both trees
  have hgroup (root : ConfigValue) : view [s.group] (root.layLayer layer) = some (.table []) := by
    rcases hown root with h | ⟨-, items, -, h⟩
    · exact view_section h.symm
    · exact view_section h
  exact ⟨h.layLayer rfl, (hgroup a).trans (hgroup b).symm, (hown a).symm.trans (hown b)⟩

theorem Apart.foldl (h : s.Apart a b) (layers : List (List (String × ConfigValue))) :
    s.Apart (layers.foldl ConfigValue.layLayer a) (layers.foldl ConfigValue.layLayer b) := by
  induction layers generalizing a b with
  | nil => exact h
  | cons layer rest ih => exact ih (h.layLayer rfl)

theorem Masked.foldl (h : s.Masked a b) (layers : List (List (String × ConfigValue))) :
    s.Masked (layers.foldl ConfigValue.layLayer a) (layers.foldl ConfigValue.layLayer b) := by
  induction layers generalizing a b with
  | nil => exact h
  | cons layer rest ih => exact ih (h.layLayer layer)

/-- Another setting, another section and the allowed origins are elsewhere. -/
theorem elsewhere_names (h : t ≠ s) : s.Elsewhere t.names :=
  ⟨fun hleads => h (names_injective (hleads.eq_of_length rfl)),
    fun hleads => h (names_injective (hleads.eq_of_length rfl)).symm⟩

theorem elsewhere_section {name : String} (h : name ≠ s.group) : s.Elsewhere [name] := by
  constructor
  · intro hleads
    exact h (List.cons_prefix_cons.mp hleads).1
  · intro hleads
    exact Nat.not_succ_le_self 1 hleads.length_le

theorem elsewhere_origins (s : Setting) : s.Elsewhere ["server", "cors_origins"] := by
  cases s <;> exact ⟨by decide, by decide⟩

end Setting

namespace Settings

open Setting

variable {s : Setting} {entries entries' : List (String × ConfigValue)}

/-- The same settings are read from trees that differ in what is masked. -/
theorem ofTree?_eq_of_masked (h : s.Masked (.table entries) (.table entries')) :
    ofTree? (.table entries) = ofTree? (.table entries') := by
  apply ofTree?_congr
  · intro name
    by_cases hname : name = s.group
    · rw [hname]
      exact h.group
    · exact h.apart _ (elsewhere_section hname)
  · exact h.apart _ s.elsewhere_origins
  · intro t
    by_cases ht : t = s
    · rw [ht]
      exact h.own
    · exact .inl (h.apart _ (elsewhere_names ht))

/-- The tree of layers is a table. -/
theorem exists_mergeLayers_eq (layers : List (List (String × ConfigValue))) :
    ∃ entries, mergeLayers layers = .table entries := by
  rw [mergeLayers]
  generalize [] = entries
  induction layers generalizing entries with
  | nil => exact ⟨entries, rfl⟩
  | cons layer rest ih =>
    obtain ⟨entries', hentries⟩ := exists_layLayer_eq entries layer
    rw [List.foldl_cons, hentries]
    exact ih entries'

/-- **What a layer gives to a setting does not matter if a layer above it gives a value.** -/
theorem ofTree?_mergeLayers_congr {below above : List (List (String × ConfigValue))}
    {layer layer' : List (String × ConfigValue)} (hlayer : s.DifferOnlyAt layer layer')
    (hgives : ∃ higher ∈ above, s.Gives higher) :
    ofTree? (mergeLayers (below ++ layer :: above))
      = ofTree? (mergeLayers (below ++ layer' :: above)) := by
  have hmasked : s.Masked (mergeLayers (below ++ layer :: above))
      (mergeLayers (below ++ layer' :: above)) := by
    obtain ⟨higher, hmem, hgives⟩ := hgives
    obtain ⟨between, top, rfl⟩ := List.append_of_mem hmem
    -- the trees are equal below the two layers, apart up to the higher one, and masked from there
    -- on
    have hbelow : s.Apart (mergeLayers below) (mergeLayers below) := fun _ _ => rfl
    have hbetween := (hbelow.layLayer hlayer).foldl between
    simp only [mergeLayers, List.foldl_append, List.foldl_cons] at hbetween ⊢
    exact (hgives.masked hbetween).foldl top
  obtain ⟨entries, hentries⟩ := exists_mergeLayers_eq (below ++ layer :: above)
  obtain ⟨entries', hentries'⟩ := exists_mergeLayers_eq (below ++ layer' :: above)
  rw [hentries, hentries'] at hmasked ⊢
  exact ofTree?_eq_of_masked hmasked

/-- Over the defaults, silent layers leave the default of a setting there or nothing. -/
theorem view_mergeLayers_of_silent {layers : List (List (String × ConfigValue))}
    (h : ∀ layer ∈ layers, s.Silent layer) :
    (view s.names (mergeLayers (defaultLayer :: layers)) = none ∨
      view s.names (mergeLayers (defaultLayer :: layers)) = s.default?) ∧
    (itemsAt [s.group] (mergeLayers (defaultLayer :: layers))).length ≤ s.number := by
  rw [mergeLayers, List.foldl_cons, layLayer_defaultLayer]
  have hview : view s.names defaultTree = none ∨ view s.names defaultTree = s.default? := by
    cases s <;> exact .inr rfl
  have hlength : (itemsAt [s.group] defaultTree).length ≤ s.number := by
    cases s <;> exact Nat.zero_le _
  -- both facts are kept by every silent layer, so the tree may be any that has them
  generalize defaultTree = tree at hview hlength
  induction layers generalizing tree with
  | nil => exact ⟨hview, hlength⟩
  | cons layer rest ih =>
    obtain ⟨⟨hsilent, hshort⟩, hrest⟩ := List.forall_mem_cons.mp h
    refine ih hrest _ ?_ ?_
    · rcases loses_layLayer s.names_ne_nil hsilent tree with hnone | hold
      · exact .inl hnone
      · rw [hold]
        exact hview
    · exact (length_itemsAt_layLayer (List.cons_ne_nil _ _) layer tree).trans
        (Nat.max_le.mpr ⟨hlength, hshort⟩)

/-! ## A file and a variable -/

/-- A document that gives a text for the port and nothing else. -/
def portDocument (text : String) : String :=
  "[server]\nport = \"" ++ text ++ "\"\n"

/-- The layer of such a document. -/
def portLayer (text : String) : List (String × ConfigValue) :=
  [("server", .table [("port", .text text)])]

/-- A format in which two such documents can be read. -/
def portFormat : DocumentFormat where
  endings := ["toml"]
  layer? document := (["high", "8080"].find? (document = portDocument ·)).map portLayer

/-- A common file that gives a text for the port. -/
def portFile (text : String) : Files :=
  [("config/default.toml", portDocument text)]

theorem document?_portFile (text : String) :
    document? [portFormat, .json] (portFile text) "config/default"
        = some (portFormat, portDocument text) ∧
      document? [portFormat, .json] (portFile text) "config/development" = none := by
  have hfile : Files.way "config/default.toml" = [["config"], ["default.toml", "config"]] := by
    decide
  have hcommon : Files.way "config/default" = [["config"], ["default", "config"]] := by decide
  have hmode : Files.way "config/development" = [["config"], ["development", "config"]] := by
    decide
  have hpaths : ∀ path ∈ ["config/default", "config/development"],
      Files.endsUpward path = false ∧ Files.meansDirectory path = false := by decide
  have hnames : DocumentFormat.withEnding "default" "toml" = "default.toml" ∧
      DocumentFormat.withEnding "development" "toml" = "development.toml" ∧
      DocumentFormat.withEnding "development" "json" = "development.json" := ⟨rfl, rfl, rfl⟩
  constructor
  · simp [document?, fileWithEnding?, portFormat, hpaths, Files.locate?, Files.directories, portFile,
      hfile, hcommon, Files.contentsAt?, hnames]
  · simp [document?, fileWithEnding?, portFormat, DocumentFormat.json, hpaths, Files.locate?,
      Files.directories, portFile, hfile, hmode, Files.contentsAt?, hnames]

theorem fileLayer?_portFile {text : String} (htext : text ∈ ["high", "8080"]) :
    fileLayer? [portFormat, .json] (portFile text) "config/default" = some (portLayer text) ∧
      fileLayer? [portFormat, .json] (portFile text) "config/development" = some [] := by
  obtain ⟨hcommon, hmode⟩ := document?_portFile text
  rw [fileLayer?, fileLayer?, hcommon, hmode]
  refine ⟨?_, rfl⟩
  rcases List.mem_pair.mp htext with rfl | rfl <;> rfl

/-- The layers of such a file under a variable for the port. -/
theorem layers?_portFile {text : String} (htext : text ∈ ["high", "8080"]) :
    layers? [portFormat, .json] (fullEnvironment [("SERVER_PORT", "9000")] (portFile text))
        (portFile text)
      = some ([defaultLayer] ++ portLayer text ::
          [[], [("server.port", Environment.value "9000")], []]) := by
  -- there is no file of variables, so the environment is as given
  have henvironment : fullEnvironment [("SERVER_PORT", "9000")] (portFile text)
      = [("SERVER_PORT", "9000")] := by
    have hfile : Files.way "config/default.toml" = [["config"], ["default.toml", "config"]] := by
      decide
    simp [fullEnvironment, Files.contentsAt?, portFile, hfile, dotenvName]
  obtain ⟨hcommon, hmode⟩ := fileLayer?_portFile htext
  rw [henvironment]
  show (do
    let common ← fileLayer? [portFormat, .json] (portFile text) "config/default"
    let ofMode ← fileLayer? [portFormat, .json] (portFile text) "config/development"
    some [defaultLayer, common, ofMode, Environment.layer [("SERVER_PORT", "9000")],
      overrideLayer [("SERVER_PORT", "9000")]]) = _
  rw [hcommon, hmode]
  rfl

theorem others_portLayer (text : String) : Setting.port.others (portLayer text) = [] := by
  have hpath : SettingPath.ofText "server" = [.name "server"] := by decide
  simp only [others, portLayer, layerLeaves, List.flatMap_cons, hpath]
  rfl

/-- The value of a variable is no table. -/
theorem isTable_environment (text : String) : (Environment.value text).isTable = false := by
  have hwritten := Environment.asText?_value text
  cases hvalue : Environment.value text with
  | table entries =>
    rw [hvalue] at hwritten
    cases hwritten
  | _ => rfl

/-- A variable for the port gives a port. -/
theorem gives_port (text : String) :
    Setting.port.Gives [("server.port", Environment.value text)] := by
  have hpath : SettingPath.ofText "server.port" = [.name "server", .name "port"] := by decide
  have htable := isTable_environment text
  refine ⟨Environment.value text, ?_, htable⟩
  simp only [alone, layLayer, List.foldl_cons, List.foldl_nil, hpath]
  cases hvalue : Environment.value text with
  | table entries => cases hvalue ▸ htable
  | _ => rfl

theorem silent_nil (s : Setting) : s.Silent [] := by
  cases s <;> exact ⟨rfl, Nat.zero_le _⟩

/-- A variable for the key gives no port. -/
theorem silent_port (text : String) :
    Setting.port.Silent [("api.key", Environment.value text)] := by
  have hpath : SettingPath.ofText "api.key" = [.name "api", .name "key"] := by decide
  have htable := isTable_environment text
  simp only [Silent, alone, layLayer, List.foldl_cons, List.foldl_nil, hpath]
  cases hvalue : Environment.value text with
  | table entries => cases hvalue ▸ htable
  | _ => exact ⟨rfl, Nat.zero_le _⟩

/-! ## Loading -/

/-- The settings are read from the tree of all layers. -/
theorem loadFrom?_eq (formats : List DocumentFormat) (environment : Environment) (files : Files) :
    loadFrom? formats environment files
      = (layers? formats (fullEnvironment environment files) files).bind
          fun layers => ofTree? (mergeLayers layers) := rfl

/-- **Higher layers mask lower ones.** Let two environments with files, in whatever formats, have the
same layers but for what one layer gives to a setting. If a layer above it gives a value that is no
table to the setting, the outcome is the same: the same settings, or none. And a setting that no
layer over the defaults gives has its default in the settings that are loaded. -/
theorem loadFrom?_masked :
    (∀ (s : Setting) (formats formats' : List DocumentFormat) (environment environment' : Environment)
      (files files' : Files) (below above : List (List (String × ConfigValue)))
      (layer layer' : List (String × ConfigValue)),
      layers? formats (fullEnvironment environment files) files
        = some (below ++ layer :: above) →
      layers? formats' (fullEnvironment environment' files') files'
        = some (below ++ layer' :: above) →
      s.DifferOnlyAt layer layer' → (∃ higher ∈ above, s.Gives higher) →
        loadFrom? formats environment files = loadFrom? formats' environment' files') ∧
    (∀ (s : Setting) (formats : List DocumentFormat) (environment : Environment) (files : Files)
      (settings : Settings) (layers : List (List (String × ConfigValue))),
      loadFrom? formats environment files = some settings →
      layers? formats (fullEnvironment environment files) files = some (defaultLayer :: layers) →
      (∀ layer ∈ layers, s.Silent layer) → s.Agrees settings default) := by
  constructor
  · intro s formats formats' environment environment' files files' below above layer layer' hlayers
      hlayers' hlayer hgives
    rw [loadFrom?_eq, loadFrom?_eq, hlayers, hlayers']
    exact ofTree?_mergeLayers_congr hlayer hgives
  · intro s formats environment files settings layers hload hlayers hsilent
    rw [loadFrom?_eq, hlayers, Option.bind_some] at hload
    obtain ⟨hview, hlength⟩ := view_mergeLayers_of_silent hsilent
    obtain ⟨entries, hentries⟩ := exists_mergeLayers_eq (defaultLayer :: layers)
    rw [hentries] at hload hview hlength
    exact agrees_default hload hview hlength

/-- A port that is no number does not matter under a variable for the port, and without a port
anywhere the default is taken. -/
theorem loadFrom?_masked_port :
    loadFrom? [portFormat, .json] [("SERVER_PORT", "9000")] (portFile "high")
      = loadFrom? [portFormat, .json] [("SERVER_PORT", "9000")] (portFile "8080") ∧
    Setting.port.Agrees (withKey "tulip-7") default := by
  have hwritten : Environment.written "tulip-7" = "tulip-7" := by decide +kernel
  have hload : loadFrom? [portFormat, .json] [("API_KEY", "tulip-7")] []
      = some (withKey "tulip-7") := by
    rw [loadFrom?_apiKey, hwritten]
  have hdiffer : Setting.port.DifferOnlyAt (portLayer "high") (portLayer "8080") :=
    (others_portLayer "high").trans (others_portLayer "8080").symm
  have hgives : ∃ higher ∈ [[], [("server.port", Environment.value "9000")], []],
      Setting.port.Gives higher := ⟨_, by simp, gives_port "9000"⟩
  have hsilent : ∀ layer ∈ [[], [], [("api.key", Environment.value "tulip-7")], []],
      Setting.port.Silent layer := by
    simp [silent_nil, silent_port]
  exact ⟨loadFrom?_masked.1 .port _ _ _ _ _ _ _ _ _ _ (layers?_portFile (by simp))
      (layers?_portFile (by simp)) hdiffer hgives,
    loadFrom?_masked.2 .port _ _ _ _ _ hload (layers?_apiKey _ "tulip-7") hsilent⟩

end Settings

end Courier
