import Courier.Template.Error

/-!
# The catalog

A catalog holds templates by name and language, up to a capacity. Its entries are in ascending order
of name, then language, and the number of places taken is kept beside them: a new key takes a place
before its entry is put, a removed one gives its place back.

A change gives an answer and the catalog that it leaves behind, also when it fails: `tryUpsert`,
`tryRemove` and, for a whole listing, `tryLoad`. That it then leaves the catalog as it was is seen
case by case, and so it can be told by the catalog after a success alone: `upsert`, `remove`, `load`.
-/

namespace Courier

/-- What a template is found by. -/
structure TemplateKey where
  name : String
  language : String
  deriving DecidableEq, Repr, Inhabited

namespace TemplateKey

/-- Keys are ordered by name, those of one name by language. -/
def before (a b : TemplateKey) : Prop :=
  a.name < b.name ∨ a.name = b.name ∧ a.language < b.language

instance : LT TemplateKey := ⟨before⟩

instance : DecidableLT TemplateKey := fun a b =>
  inferInstanceAs (Decidable (a.name < b.name ∨ a.name = b.name ∧ a.language < b.language))

/-- A key in words. -/
def text (key : TemplateKey) : String :=
  key.name ++ " (" ++ key.language ++ ")"

end TemplateKey

/-- The key of a template. -/
def Template.key (template : Template) : TemplateKey :=
  ⟨template.name, template.language⟩

/-- Templates by key. -/
structure Catalog where
  /-- The largest number of templates. -/
  capacity : Nat
  /-- The number of places that are taken. -/
  size : Nat
  /-- The templates, keys ascending. -/
  entries : List (TemplateKey × Template)
  deriving Repr, Inhabited

namespace Catalog

/-- The capacity of a catalog when none is asked for. -/
def defaultCapacity : Nat := 10000

/-- A catalog without templates. -/
def empty (capacity : Nat) : Catalog := ⟨capacity, 0, []⟩

/-- The template with a key. -/
def find? (catalog : Catalog) (key : TemplateKey) : Option Template :=
  Assoc.find? key catalog.entries

/-- The template with a key, or the error that there is none. -/
def get (catalog : Catalog) (key : TemplateKey) : Except TemplateError Template :=
  match catalog.find? key with
  | some template => .ok template
  | none => .error (.notFound key.text)

/-- Whether there is a template with a key. -/
def contains (catalog : Catalog) (key : TemplateKey) : Bool :=
  (catalog.find? key).isSome

/-- The number of templates. -/
def count (catalog : Catalog) : Nat :=
  catalog.entries.length

/-- Takes a place for one more key. -/
def reserve (catalog : Catalog) : Except TemplateError Unit × Catalog :=
  if catalog.size < catalog.capacity then (.ok (), { catalog with size := catalog.size + 1 })
  else (.error (.catalogFull catalog.capacity), catalog)

/-- Puts a template under its key, whether a place has been taken for it or not. -/
def put (catalog : Catalog) (template : Template) : Catalog :=
  { catalog with entries := Assoc.put template.key template catalog.entries }

/-- Adds a template or replaces the one with its key. Only a new key needs a place. -/
def tryUpsert (catalog : Catalog) (template : Template) : Except TemplateError Unit × Catalog :=
  if catalog.contains template.key then (.ok (), catalog.put template)
  else
    match catalog.reserve with
    | (.ok (), reserved) => (.ok (), reserved.put template)
    | (.error error, after) => (.error error, after)

/-- Removes the template with a key and gives its place back. -/
def tryRemove (catalog : Catalog) (key : TemplateKey) : Except TemplateError Unit × Catalog :=
  if catalog.contains key then
    (.ok (), { catalog with size := catalog.size - 1, entries := Assoc.erase key catalog.entries })
  else (.error (.notFound key.text), catalog)

/-- The catalog with a template added or replaced. -/
def upsert (catalog : Catalog) (template : Template) : Except TemplateError Catalog :=
  let (answer, next) := catalog.tryUpsert template
  answer.map fun () => next

/-- The catalog with a template removed. -/
def remove (catalog : Catalog) (key : TemplateKey) : Except TemplateError Catalog :=
  let (answer, next) := catalog.tryRemove key
  answer.map fun () => next

/-- All templates, in the order of their keys. -/
def list (catalog : Catalog) : List Template :=
  catalog.entries.map Prod.snd

/-! ### Changes and failures -/

section Changes

variable (catalog : Catalog) (template : Template) (key : TemplateKey)

theorem upsert_eq :
    catalog.upsert template
      = if catalog.contains template.key then .ok (catalog.put template)
        else if catalog.size < catalog.capacity then
          .ok ({ catalog with size := catalog.size + 1 }.put template)
        else .error (.catalogFull catalog.capacity) := by
  rw [upsert, tryUpsert, reserve]
  by_cases hheld : catalog.contains template.key
  · rw [if_pos hheld, if_pos hheld]
    rfl
  · rw [if_neg hheld, if_neg hheld]
    by_cases hroom : catalog.size < catalog.capacity
    · rw [if_pos hroom, if_pos hroom]
      rfl
    · rw [if_neg hroom, if_neg hroom]
      rfl

theorem remove_eq :
    catalog.remove key
      = if catalog.contains key then
          .ok { catalog with
            size := catalog.size - 1, entries := Assoc.erase key catalog.entries }
        else .error (.notFound key.text) := by
  rw [remove, tryRemove]
  by_cases hheld : catalog.contains key
  · rw [if_pos hheld, if_pos hheld]
    rfl
  · rw [if_neg hheld, if_neg hheld]
    rfl

/-- A template that is not taken in leaves the catalog as it was. -/
theorem tryUpsert_eq :
    catalog.tryUpsert template
      = match catalog.upsert template with
        | .ok next => (.ok (), next)
        | .error error => (.error error, catalog) := by
  rw [upsert_eq, tryUpsert, reserve]
  by_cases hheld : catalog.contains template.key
  · rw [if_pos hheld, if_pos hheld]
  · rw [if_neg hheld, if_neg hheld]
    by_cases hroom : catalog.size < catalog.capacity
    · rw [if_pos hroom, if_pos hroom]
    · rw [if_neg hroom, if_neg hroom]

/-- A key that is not there leaves the catalog as it was. -/
theorem tryRemove_eq :
    catalog.tryRemove key
      = match catalog.remove key with
        | .ok next => (.ok (), next)
        | .error error => (.error error, catalog) := by
  rw [remove_eq, tryRemove]
  by_cases hheld : catalog.contains key
  · rw [if_pos hheld, if_pos hheld]
  · rw [if_neg hheld, if_neg hheld]

end Changes

end Catalog

/-! ## Short descriptions -/

/-- A template in a list to choose from. -/
structure TemplateOption where
  name : String
  language : String
  category : Category
  status : Status
  description : String
  deriving DecidableEq, Repr, Inhabited

/-- The short description of a template. -/
def Template.option (template : Template) : TemplateOption where
  name := template.name
  language := template.language
  category := template.category
  status := template.status
  description := template.language ++ " - " ++ template.category.name

/-- A short description as a value. -/
def TemplateOption.toJson (option : TemplateOption) : Json :=
  .object
    [("name", some (.str option.name)),
     ("language", some (.str option.language)),
     ("category", some (.str option.category.name)),
     ("status", some (.str option.status.name)),
     ("description", some (.str option.description))]

/-- The short descriptions of all templates, in the order of their keys. -/
def Catalog.options (catalog : Catalog) : List TemplateOption :=
  catalog.list.map Template.option

end Courier
