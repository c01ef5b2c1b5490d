import Courier.Catalog.Basic

/-!
# Settings

What the service can be told: where to listen, which origins and how large bodies to accept, which
key to ask for, and how many templates to hold.
-/

namespace Courier

/-- The settings of the server. -/
structure ServerSettings where
  host : String
  port : Nat
  corsOrigins : List String
  /-- The largest number of bytes of a request body. -/
  bodyLimit : Nat
  deriving DecidableEq, Repr, Inhabited

/-- The settings of the service. -/
structure Settings where
  server : ServerSettings
  /-- The key that callers must show; without one everybody is let in. -/
  apiKey : Option String
  /-- A file with templates to start with. -/
  preloadPath : Option String
  maxTemplates : Nat
  deriving DecidableEq, Repr, Inhabited

namespace Settings

/-- The host when none is set. -/
def defaultHost : String := "0.0.0.0"

/-- The port when none is set. -/
def defaultPort : Nat := 8082

/-- The body limit when none is set: one mebibyte. -/
def defaultBodyLimit : Nat := 1024 * 1024

/-- The settings of the server when none are set. -/
def defaultServer : ServerSettings :=
  ⟨defaultHost, defaultPort, [], defaultBodyLimit⟩

/-- The settings when none are set. -/
def default : Settings :=
  ⟨defaultServer, none, none, Catalog.defaultCapacity⟩

/-- The address to listen on. -/
def address (settings : Settings) : String :=
  settings.server.host ++ ":" ++ Nat.repr settings.server.port

end Settings

end Courier
