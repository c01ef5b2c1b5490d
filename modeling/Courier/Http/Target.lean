import Courier.Http.Message

/-!
# Targets of requests

The target of a request is a path with a query and a fragment behind it, or a whole address, which
has a scheme and the name of a host in front of the path. In a whole address the path may be left
out and is the root then. Any other target, such as a host alone or an asterisk, has no path.
-/

namespace Courier.Http

/-- Whether a character may stand in a scheme. -/
def inScheme (c : Char) : Bool :=
  c.isAlphanum || c = '+' || c = '-' || c = '.'

/-- What stands behind the scheme of a whole address. -/
def afterScheme? (cs : List Char) : Option (List Char) :=
  match cs.dropWhile inScheme with
  | ':' :: '/' :: '/' :: rest => some rest
  | _ => none

/-- Whether a character may stand in the name of a host, port and user included. -/
def inHost (c : Char) : Bool :=
  c ≠ '/' && c ≠ '?' && c ≠ '#'

/-- What stands in front of query and fragment. -/
def beforeQuery (cs : List Char) : List Char :=
  cs.takeWhile fun c => c ≠ '?' && c ≠ '#'

/-- The path of a target. -/
def pathOf? (target : String) : Option (List Char) :=
  match target.toList with
  | '/' :: rest => some (beforeQuery ('/' :: rest))
  | cs =>
    (afterScheme? cs).map fun rest =>
      match beforeQuery (rest.dropWhile inHost) with
      | [] => ['/']
      | path => path

/-- The path of a request. -/
def Request.path? (request : Request) : Option (List Char) :=
  pathOf? request.target

end Courier.Http
