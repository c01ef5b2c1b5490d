import Courier.Http.Message

/-!
# Requests from other origins

Pages of other origins may use the service as far as its policy allows: pages of every origin, or
those of the listed origins only. Texts that cannot be header values are dropped from the list
first; if nothing is left, every origin is allowed. A list with the wildcard in it is refused,
because the wildcard is not an origin.
-/

namespace Courier.Http

/-- Which origins may use the service. -/
inductive OriginPolicy where
  | any
  | listed (origins : List String)
  deriving DecidableEq, Repr

namespace OriginPolicy

/-- What stands for every origin. -/
def wildcard : String := "*"

/-- The policy of a list of configured origins; none if the list cannot be used. -/
def ofOrigins (origins : List String) : Option OriginPolicy :=
  match origins.filter isHeaderValue with
  | [] => some .any
  | valid => if valid.contains wildcard then none else some (.listed valid)

/-- The origin that a response names as allowed, for the origin of the request. -/
def allowedOrigin (policy : OriginPolicy) (origin : Option String) : Option String :=
  match policy with
  | .any => some wildcard
  | .listed origins => origin.filter origins.contains

/-- The headers that every response has. -/
def headers (policy : OriginPolicy) (origin : Option String) : Headers :=
  ("vary", "origin, access-control-request-method, access-control-request-headers")
    :: ((policy.allowedOrigin origin).map (("access-control-allow-origin", ·))).toList

/-- The headers of a response to a question about what is allowed. -/
def preflightHeaders (policy : OriginPolicy) (origin : Option String) : Headers :=
  policy.headers origin
    ++ [("access-control-allow-methods", wildcard), ("access-control-allow-headers", wildcard)]

end OriginPolicy

end Courier.Http
