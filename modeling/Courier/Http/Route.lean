import Courier.Http.Target
import Courier.Text.Split

/-!
# Routes

The addresses of the service and the methods that each of them knows. Addresses are compared as they
are written; only the name and language of a template in an address are decoded, later. The segment
of the name may be empty, that of the language, which ends the path, may not.
-/

namespace Courier.Http

/-- An address of the service. -/
inductive Route where
  | health
  | metrics
  | templates
  | slots
  /-- A template, by name and language as they are written in the path. -/
  | template (name language : String)
  | compile
  | text
  | read
  | typing
  deriving DecidableEq, Repr

/-- The segments of a path, each behind a slash. -/
def segments : List Char → List String
  | '/' :: rest => (Text.split '/' rest).map String.ofList
  | _ => []

namespace Route

/-- The address that segments name. -/
def ofSegments : List String → Option Route
  | ["health"] => some .health
  | ["metrics"] => some .metrics
  | ["api", "v1", "templates"] => some .templates
  | ["api", "v1", "templates", "slots"] => some .slots
  | ["api", "v1", "templates", name, language] =>
    if language = "" then none else some (.template name language)
  | ["api", "v1", "messages", "template"] => some .compile
  | ["api", "v1", "messages", "text"] => some .text
  | ["api", "v1", "messages", "read"] => some .read
  | ["api", "v1", "messages", "typing"] => some .typing
  | _ => none

/-- The address of a path. -/
def ofPath (path : List Char) : Option Route :=
  ofSegments (segments path)

/-- The address that a request asks for. -/
def ofRequest (request : Request) : Option Route :=
  request.path?.bind ofPath

/-- Whether an address asks for the API key. -/
def isGuarded : Route → Bool
  | .health | .metrics => false
  | _ => true

/-- The methods that an address knows. -/
def methods : Route → List String
  | .health | .metrics => ["GET", "HEAD"]
  | .templates => ["GET", "HEAD", "POST"]
  | .template _ _ => ["GET", "HEAD", "DELETE"]
  | .slots | .compile | .text | .read | .typing => ["POST"]

/-- The header that lists the methods of an address, for a request with another one. -/
def allowed (route : Route) : String :=
  ",".intercalate route.methods

end Route

end Courier.Http
