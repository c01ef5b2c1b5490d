import Courier.Session.Message
import Courier.Template.Error

/-!
# Errors of the service

Every error that a caller of the service sees is of one of five classes. The class settles the
status and the code of the answer; the message comes with the error, except that what went wrong
inside the service is not shown in production.
-/

namespace Courier

/-- An error of the service. -/
inductive AppError where
  | auth (message : String)
  | validation (message : String)
  | notFound (message : String)
  | unprocessable (message : String)
  | internal (message : String)
  deriving DecidableEq, Repr, Inhabited

namespace AppError

/-- The class of an error about templates. -/
def ofTemplate (error : TemplateError) : AppError :=
  match error with
  | .notFound _ => .notFound error.message
  | .invalidTemplate _ => .unprocessable error.message
  | .invalidListing _ | .catalogFull _ => .validation error.message

/-- The class of an error about session messages. -/
def ofMessage (error : MessageError) : AppError :=
  .validation error.message

/-- The message of an error. -/
def message : AppError → String
  | .auth m | .validation m | .notFound m | .unprocessable m | .internal m => m

/-- An error with its class in words. -/
def display : AppError → String
  | .auth m => "Authentication error: " ++ m
  | .validation m => "Validation error: " ++ m
  | .notFound m => "Not found: " ++ m
  | .unprocessable m => "Unprocessable template: " ++ m
  | .internal m => "Internal error: " ++ m

/-- The status of the answer. -/
def status : AppError → Nat
  | .auth _ => 401
  | .validation _ => 400
  | .notFound _ => 404
  | .unprocessable _ => 422
  | .internal _ => 500

/-- The code of the error in the answer. -/
def code : AppError → String
  | .auth _ => "UNAUTHORIZED"
  | .validation _ => "VALIDATION_ERROR"
  | .notFound _ => "NOT_FOUND"
  | .unprocessable _ => "INVALID_TEMPLATE"
  | .internal _ => "INTERNAL_ERROR"

/-- Whether a run mode is that of production. -/
def isProduction (runMode : Option String) : Bool :=
  runMode = some "production" || runMode = some "prod"

/-- The message that a caller sees. -/
def shownMessage (error : AppError) (production : Bool) : String :=
  match error with
  | .internal m => if production then "Internal server error" else m
  | _ => error.message

/-- The body of the answer. -/
def body (error : AppError) (production : Bool) : Json :=
  .object [("error", some (.object
    [("code", some (.str error.code)), ("message", some (.str (error.shownMessage production)))]))]

end AppError

end Courier
