import Courier.Catalog.Listing
import Mathlib.Data.Finmap
import Mathlib.Data.Finset.Sort
import Mathlib.Data.Prod.Lex
import Mathlib.Data.String.Basic

/-!
# Shelves

What a catalog is to its users: a finite map from names and languages to templates, with room for a
number of keys. A call to a shelf has an answer and leaves events behind, the templates that were
stored and the keys that were removed, and what is on the shelf follows from the events alone. So
the template of a key is the one of the last event of that key (`Shelf.lookup_after_empty`).
-/

namespace Courier

/-! ## The order of keys -/

namespace TemplateKey

theorem lt_iff_toLex {a b : TemplateKey} :
    a < b ↔ toLex (a.name, a.language) < toLex (b.name, b.language) := by
  rw [Prod.Lex.toLex_lt_toLex]
  rfl

/-- Keys are ordered by name, then by language. -/
instance : LinearOrder TemplateKey where
  le a b := toLex (a.name, a.language) ≤ toLex (b.name, b.language)
  lt := (· < ·)
  le_refl _ := le_refl _
  le_trans _ _ _ := le_trans
  lt_iff_le_not_ge _ _ := lt_iff_toLex.trans lt_iff_le_not_ge
  le_antisymm a b hab hba := by
    have hpair := toLex_inj.mp (le_antisymm hab hba)
    obtain ⟨hname, hlanguage⟩ := Prod.mk.inj hpair
    cases a
    cases b
    simp_all
  le_total _ _ := le_total _ _
  toDecidableLE a b := inferInstanceAs
    (Decidable (toLex (a.name, a.language) ≤ toLex (b.name, b.language)))
  toDecidableEq := inferInstance
  toDecidableLT := inferInstance

end TemplateKey

/-! ## Shelves and events -/

/-- Templates by name and language. -/
abbrev Shelf := Finmap fun _ : TemplateKey => Template

/-- What changes a shelf. -/
inductive Event where
  /-- A template is stored under its key. -/
  | stored (template : Template)
  /-- What is stored under a key is removed. -/
  | removed (key : TemplateKey)

namespace Event

/-- The key that an event is about. -/
def key : Event → TemplateKey
  | .stored template => template.key
  | .removed key => key

/-- What is stored under the key of an event when it is over. -/
def template? : Event → Option Template
  | .stored template => some template
  | .removed _ => none

end Event

namespace Shelf

/-- The shelf after an event. -/
def apply (shelf : Shelf) : Event → Shelf
  | .stored template => shelf.insert template.key template
  | .removed key => shelf.erase key

/-- The shelf after events, one after the other. -/
def after (shelf : Shelf) (events : List Event) : Shelf :=
  events.foldl apply shelf

@[simp] theorem after_nil (shelf : Shelf) : shelf.after [] = shelf := rfl

@[simp] theorem after_cons (shelf : Shelf) (event : Event) (events : List Event) :
    shelf.after (event :: events) = (shelf.apply event).after events := rfl

theorem after_append (shelf : Shelf) (events later : List Event) :
    shelf.after (events ++ later) = (shelf.after events).after later :=
  List.foldl_append

/-- An event decides about its key and about no other. -/
theorem lookup_apply (shelf : Shelf) (event : Event) (key : TemplateKey) :
    (shelf.apply event).lookup key
      = if key = event.key then event.template? else shelf.lookup key := by
  cases event with
  | stored template =>
    by_cases h : key = template.key
    · subst h
      simp [apply, Event.key, Event.template?]
    · simp [apply, Event.key, h, Finmap.lookup_insert_of_ne]
  | removed other =>
    by_cases h : key = other
    · subst h
      simp [apply, Event.key, Event.template?]
    · simp [apply, Event.key, h, Finmap.lookup_erase_ne h]

/-- Storing a template adds its key. -/
theorem keys_apply_stored (shelf : Shelf) (template : Template) :
    (shelf.apply (.stored template)).keys = insert template.key shelf.keys := by
  ext key
  simp [apply, Finmap.mem_keys, Finmap.mem_insert]

/-- The last event of a key decides about it; without one it is as before. -/
theorem lookup_after (shelf : Shelf) (events : List Event) (key : TemplateKey) :
    (shelf.after events).lookup key
      = match events.reverse.find? (·.key = key) with
        | some event => event.template?
        | none => shelf.lookup key := by
  induction events generalizing shelf with
  | nil => rfl
  | cons event later ih =>
    rw [after_cons, ih, List.reverse_cons, List.find?_append]
    cases later.reverse.find? (·.key = key) with
    | some last => rfl
    | none =>
      rw [lookup_apply]
      by_cases h : event.key = key
      · simp [h]
      · simp [h, Ne.symm h]

/-- What is on a shelf that was empty was stored by the last event of its key. -/
theorem lookup_after_empty (events : List Event) (key : TemplateKey) :
    (Shelf.after ∅ events).lookup key
      = (events.reverse.find? (·.key = key)).bind Event.template? := by
  rw [lookup_after]
  cases events.reverse.find? (·.key = key) <;> rfl

/-! ## Calls and answers -/

/-- Whether a template with a key can be stored: one of that key is there already, or fewer keys
than the capacity are. -/
def HasRoom (shelf : Shelf) (capacity : Nat) (key : TemplateKey) : Prop :=
  key ∈ shelf.keys ∨ shelf.keys.card < capacity

instance (shelf : Shelf) (capacity : Nat) (key : TemplateKey) :
    Decidable (shelf.HasRoom capacity key) :=
  inferInstanceAs (Decidable (_ ∨ _))

/-- The templates, of several offered one after the other, for which there is room when it is their
turn. -/
def admitted (shelf : Shelf) (capacity : Nat) : List Template → List Template
  | [] => []
  | template :: rest =>
    if shelf.HasRoom capacity template.key then
      template :: (shelf.apply (.stored template)).admitted capacity rest
    else shelf.admitted capacity rest

/-- The templates of a shelf in the order of their keys. -/
def templates (shelf : Shelf) : List Template :=
  shelf.keys.sort.filterMap shelf.lookup

end Shelf

/-- The templates among the entries of a listing. -/
def listedTemplates (entries : List Json) : List Template :=
  entries.filterMap fun entry => (Template.ofJson entry).toOption

theorem listedTemplates_cons_of_ok {entry : Json} {template : Template} (rest : List Json)
    (h : Template.ofJson entry = .ok template) :
    listedTemplates (entry :: rest) = template :: listedTemplates rest := by
  simp [listedTemplates, h, Except.toOption]

theorem listedTemplates_cons_of_error {entry : Json} {error : TemplateError} (rest : List Json)
    (h : Template.ofJson entry = .error error) :
    listedTemplates (entry :: rest) = listedTemplates rest := by
  simp [listedTemplates, h, Except.toOption]

/-- A call to a catalog. -/
inductive Call where
  | upsert (template : Template)
  | load (listing : Json)
  | get (key : TemplateKey)
  | remove (key : TemplateKey)
  | contains (key : TemplateKey)
  | list
  | count

/-- The answer to a call. -/
inductive Answer where
  | template (template : Template)
  | templates (templates : List Template)
  | summary (summary : LoadSummary)
  | truth (value : Bool)
  | number (value : Nat)
  | done
  | failed (error : TemplateError)

namespace Shelf

/-- The answer of a shelf with a capacity to a call, and the events that the call leaves behind. -/
def respond (shelf : Shelf) (capacity : Nat) : Call → Answer × List Event
  | .upsert template =>
    if shelf.HasRoom capacity template.key then (.template template, [.stored template])
    else (.failed (.catalogFull capacity), [])
  | .load listing =>
    match listingEntries listing with
    | .ok entries =>
      let admitted := shelf.admitted capacity (listedTemplates entries)
      (.summary ⟨admitted.length, entries.length - admitted.length⟩, admitted.map .stored)
    | .error fault => (.failed (.invalidListing fault.message), [])
  | .get key =>
    match shelf.lookup key with
    | some template => (.template template, [])
    | none => (.failed (.notFound key.text), [])
  | .remove key =>
    if key ∈ shelf.keys then (.done, [.removed key]) else (.failed (.notFound key.text), [])
  | .contains key => (.truth (key ∈ shelf.keys), [])
  | .list => (.templates shelf.templates, [])
  | .count => (.number shelf.keys.card, [])

/-- The answers to calls, one after the other, and all events that they leave behind. -/
def run (shelf : Shelf) (capacity : Nat) : List Call → List Answer × List Event
  | [] => ([], [])
  | call :: rest =>
    let (answer, events) := shelf.respond capacity call
    let (answers, later) := (shelf.after events).run capacity rest
    (answer :: answers, events ++ later)

end Shelf

end Courier
