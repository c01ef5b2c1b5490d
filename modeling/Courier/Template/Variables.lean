import Courier.Json.Printer

/-!
# Variables

The values that a caller gives for the slots of a template, by slot id. A slot without a value and a
slot with the empty text as its value are both unfilled.

A caller gives the values as JSON. Texts are taken as they are, numbers and truth values as their
JSON text, arrays and objects as compact JSON text; null is no value.
-/

namespace Courier

/-- Texts by name. Of entries with one name the first counts. -/
structure Variables where
  entries : List (String × String)
  deriving DecidableEq, Repr, Inhabited

namespace Variables

/-- No variables. -/
def empty : Variables := ⟨[]⟩

/-- The value of a variable. -/
def get? (values : Variables) (name : String) : Option String :=
  values.entries.lookup name

/-- The variables with one of them set. -/
def set (values : Variables) (name value : String) : Variables :=
  ⟨(name, value) :: values.entries⟩

/-- The value of a variable that is set and not empty. -/
def filled? (values : Variables) (name : String) : Option String :=
  (values.get? name).filter (· ≠ "")

/-! ## Setting a variable -/

theorem get?_set (values : Variables) (name value other : String) :
    (values.set name value).get? other
      = if other = name then some value else values.get? other := by
  by_cases h : other = name
  · simp [get?, set, h]
  · simp [get?, set, List.lookup_cons, beq_false_of_ne h, h]

/-- A variable that was set to a text has that text, unless it is empty. -/
@[simp] theorem filled?_set_self {value : String} (h : value ≠ "") (values : Variables)
    (name : String) : (values.set name value).filled? name = some value := by
  simp [filled?, get?_set, Option.filter, h]

/-- Setting a variable leaves the others as they are. -/
theorem filled?_set_of_ne {name other : String} (h : other ≠ name) (values : Variables)
    (value : String) : (values.set name value).filled? other = values.filled? other := by
  simp [filled?, get?_set, h]

/-! ## JSON -/

/-- The text of a value given for a variable. -/
def textOf : Json → Option String
  | .null => none
  | .str value => some value
  | value => some value.text

/-- The variables of the members of an object. -/
def ofMembers (members : List (String × Json)) : Variables :=
  ⟨members.filterMap fun (name, value) => (textOf value).map (name, ·)⟩

/-- What an object with distinct keys gives for a variable is the text of its member. -/
theorem get?_ofMembers {members : List (String × Json)} (h : (members.map Prod.fst).Nodup)
    (name : String) : (ofMembers members).get? name = (members.lookup name).bind textOf := by
  unfold get? ofMembers
  induction members with
  | nil => rfl
  | cons member rest ih =>
    obtain ⟨key, value⟩ := member
    obtain ⟨hkey, hrest⟩ := List.nodup_cons.mp h
    by_cases hname : name = key
    · subst hname
      -- a member without text leaves the search to the rest, which has no other of its key
      have hnone : rest.lookup name = none :=
        List.lookup_eq_none_iff.mpr fun entry hentry => by
          simp only [bne_iff_ne, ne_eq]
          rintro rfl
          exact hkey (List.mem_map.mpr ⟨entry, hentry, rfl⟩)
      cases htext : textOf value with
      | none => simpa [htext, hnone] using ih hrest
      | some text => simp [htext]
    · cases htext : textOf value with
      | none => simpa [htext, List.lookup_cons, beq_false_of_ne hname] using ih hrest
      | some text => simpa [htext, List.lookup_cons, beq_false_of_ne hname] using ih hrest

/-- The variables as an object of texts. -/
def toJson (values : Variables) : Json :=
  .object (values.entries.map fun (name, value) => (name, some (.str value)))

end Variables

end Courier
