import Courier.Template.Document

/-!
# Errors about templates

Why a template cannot be had: it is not in the catalog, its document does not decode, the listing it
came with is no listing, or the catalog has no room. The wording of each is `TemplateError.message`.
-/

namespace Courier

/-- Why an operation on templates failed. -/
inductive TemplateError where
  /-- No template has this name and language. -/
  | notFound (template : String)
  /-- A document is no template, for this reason. -/
  | invalidTemplate (reason : String)
  /-- A document is no listing of templates, for this reason. -/
  | invalidListing (reason : String)
  /-- A catalog of this capacity is full. -/
  | catalogFull (capacity : Nat)
  deriving DecidableEq, Repr, Inhabited

/-- The wording of an error. -/
def TemplateError.message : TemplateError → String
  | .notFound template => "Template not found: " ++ template
  | .invalidTemplate reason => "Invalid template: " ++ reason
  | .invalidListing reason => "Invalid template listing: " ++ reason
  | .catalogFull capacity => "Template catalog is full (" ++ Nat.repr capacity ++ " templates)"

namespace Template

/-- The template of a value. -/
def ofJson (value : Json) : Except TemplateError Template :=
  (Template.decoder.run value).mapError fun misfit => .invalidTemplate misfit.message

/-- The template of a text. -/
def ofText (text : String) : Except TemplateError Template :=
  (Template.decoder.parse text).mapError fun fault => .invalidTemplate (fault.message text)

end Template

end Courier
