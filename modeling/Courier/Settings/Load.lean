import Courier.Settings.Basic
import Courier.Settings.Document
import Courier.Settings.Dotenv

/-!
# Loading the settings

The settings come from five layers, each over the ones before: the defaults, the common file, the
file of the run mode, the environment, and three variables that name a setting each which the
environment layer cannot reach. A file of variables is loaded into the environment first.

The formats of the two configuration files are a parameter (`Settings.Document`); the settings of a
service that reads JSON alone are `Settings.load?`.

A section of the settings is a table, or a list of its settings in their order.
-/

namespace Courier

namespace Settings

/-- The file of variables. -/
def dotenvName : String := ".env"

/-- The run mode when none is set. -/
def defaultRunMode : String := "development"

/-- The layer of the defaults. -/
def defaultLayer : List (String × ConfigValue) :=
  [("server.host", .text defaultHost),
   ("server.port", .int defaultPort),
   ("server.body_limit", .int defaultBodyLimit),
   ("catalog.max_templates", .int Catalog.defaultCapacity)]

/-- The settings that variables of their own name, each with its variable. -/
def overrides : List (String × String) :=
  [("server.body_limit", "SERVER_BODY_LIMIT"),
   ("catalog.preload_path", "CATALOG_PRELOAD_PATH"),
   ("catalog.max_templates", "CATALOG_MAX_TEMPLATES")]

/-- The layer of the variables that name a setting each. Their values stay texts. -/
def overrideLayer (environment : Environment) : List (String × ConfigValue) :=
  overrides.filterMap fun (path, name) =>
    (environment.get? name).map fun text => (path, .text text)

/-- All layers, the lowest first. -/
def layers? (formats : List DocumentFormat) (environment : Environment) (files : Files) :
    Option (List (List (String × ConfigValue))) := do
  let mode := (environment.get? "RUN_MODE").getD defaultRunMode
  let common ← fileLayer? formats files "config/default"
  let ofMode ← fileLayer? formats files ("config/" ++ mode)
  some [defaultLayer, common, ofMode, environment.layer, overrideLayer environment]

/-- The tree of all layers. -/
def mergeLayers (layers : List (List (String × ConfigValue))) : ConfigValue :=
  layers.foldl ConfigValue.layLayer (.table [])

/-! ## Reading the tree -/

/-- A setting of a section, by its name in a table or by its number in a list. -/
inductive Found where
  | value (value : ConfigValue)
  | absent
  | behindEnd

/-- Looks up a setting in a section; none if this is no section. -/
def lookUp? (group : ConfigValue) (name : String) (number : Nat) : Option Found :=
  match group with
  | .table entries =>
    match Assoc.find? name entries with
    | some value => some (.value value)
    | none => some .absent
  | .list items =>
    match items[number]? with
    | some value => some (.value value)
    | none => some .behindEnd
  | _ => none

/-- A setting with a default. -/
def withDefault? {α : Type} (group : ConfigValue) (name : String) (number : Nat)
    (read : ConfigValue → Option α) (default : α) : Option α :=
  match lookUp? group name number with
  | none => none
  | some (.value value) => read value
  | some _ => some default

/-- A text that may be nothing. -/
def nullableText? : ConfigValue → Option (Option String)
  | .nothing => some none
  | value => value.asText?.map some

/-- The server section. -/
def server? (group : ConfigValue) : Option ServerSettings := do
  let host ← withDefault? group "host" 0 ConfigValue.asText? defaultHost
  let port ← withDefault? group "port" 1 (ConfigValue.asNatural? (twoTo 16)) defaultPort
  let corsOrigins ← withDefault? group "cors_origins" 2 ConfigValue.asTexts? []
  let bodyLimit ←
    withDefault? group "body_limit" 3 ConfigValue.asCount? defaultBodyLimit
  some ⟨host, port, corsOrigins, bodyLimit⟩

/-- The key of the section about callers. A list has to have it. -/
def apiKey? (group : ConfigValue) : Option (Option String) :=
  match lookUp? group "key" 0 with
  | some (.value value) => nullableText? value
  | some .absent => some none
  | _ => none

/-- The section about the catalog. -/
def catalog? (group : ConfigValue) : Option (Option String × Nat) := do
  let preloadPath ← withDefault? group "preload_path" 0 nullableText? none
  let maxTemplates ←
    withDefault? group "max_templates" 1 ConfigValue.asCount? Catalog.defaultCapacity
  some (preloadPath, maxTemplates)

/-- The settings of a tree. A section that is not there has its defaults. -/
def ofTree? (tree : ConfigValue) : Option Settings := do
  let server ← withDefault? tree "server" 0 server? defaultServer
  let apiKey ← withDefault? tree "api" 1 apiKey? none
  let (preloadPath, maxTemplates) ←
    withDefault? tree "catalog" 2 catalog? (none, Catalog.defaultCapacity)
  some ⟨server, apiKey, preloadPath, maxTemplates⟩

/-- The environment with the file of variables loaded. -/
def fullEnvironment (environment : Environment) (files : Files) : Environment :=
  match Files.contentsAt? files [dotenvName] with
  | some contents => Dotenv.load contents environment
  | none => environment

/-- The settings of an environment and files in some formats; none if they cannot be read. -/
def loadFrom? (formats : List DocumentFormat) (environment : Environment) (files : Files) :
    Option Settings := do
  let environment := fullEnvironment environment files
  let layers ← layers? formats environment files
  ofTree? (mergeLayers layers)

/-- The settings of an environment and of files in JSON. -/
def load? (environment : Environment) (files : Files) : Option Settings :=
  loadFrom? [.json] environment files

end Settings

end Courier
