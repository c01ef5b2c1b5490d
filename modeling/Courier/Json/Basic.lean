import Courier.Assoc
import Courier.Number.Binary64

/-!
# JSON values

A value is a tree. An object is the list of its members in the order of the text, so a tree can hold
one key twice; `Json.normalize` gives the tree in which every object has its keys once, in ascending
order, with the value of the last member of that key. A normalized tree is what "a JSON value" means
for the message domain, and the texts of values are printed from it.

Integers without fraction and exponent are kept as integers; every other number is a floating-point
number, so `1.0` and `1` are different values.
-/

namespace Courier

/-- A number of a JSON text. -/
inductive Number where
  /-- An integer from `-2 ^ 63` up to `2 ^ 64 - 1`. -/
  | int (value : Int)
  /-- A finite floating-point number. -/
  | float (value : Binary64)
  deriving DecidableEq, Repr, Inhabited

/-- A JSON value. -/
inductive Json where
  | null
  | bool (value : Bool)
  | num (value : Number)
  | str (value : String)
  | arr (items : List Json)
  | obj (members : List (String × Json))
  deriving Repr, Inhabited

namespace Json

/-- The number with the value of a natural number. -/
def ofNat (n : Nat) : Json := .num (.int n)

/-! ## Objects as finite maps -/

/-- The value of the first member with a key. -/
def member? (key : String) : Json → Option Json
  | .obj members => members.lookup key
  | _ => none

/-- An object of the members that have a value, in ascending key order. -/
def object (members : List (String × Option Json)) : Json :=
  .obj (Assoc.sort (members.filterMap fun (key, value) => value.map (key, ·)))

mutual

/-- The tree with every object sorted by key, of members with equal keys the last one kept. -/
def normalize : Json → Json
  | .arr items => .arr (normalizeItems items)
  | .obj members => .obj (Assoc.sort (normalizeMembers members))
  | other => other

/-- Every item normalized. -/
def normalizeItems : List Json → List Json
  | [] => []
  | item :: rest => item.normalize :: normalizeItems rest

/-- The value of every member normalized. -/
def normalizeMembers : List (String × Json) → List (String × Json)
  | [] => []
  | (key, value) :: rest => (key, value.normalize) :: normalizeMembers rest

end

/-! ## Nesting -/

mutual

/-- How many arrays and objects lie inside each other at the deepest place. -/
def depth : Json → Nat
  | .arr items => depthItems items + 1
  | .obj members => depthMembers members + 1
  | _ => 0

/-- The greatest depth of a list of values. -/
def depthItems : List Json → Nat
  | [] => 0
  | item :: rest => max item.depth (depthItems rest)

/-- The greatest depth of the values of members. -/
def depthMembers : List (String × Json) → Nat
  | [] => 0
  | (_, value) :: rest => max value.depth (depthMembers rest)

end

/-! ## Equality -/

mutual

/-- Whether two trees are the same. -/
def same : Json → Json → Bool
  | .null, .null => true
  | .bool a, .bool b => a = b
  | .num a, .num b => a = b
  | .str a, .str b => a = b
  | .arr a, .arr b => sameItems a b
  | .obj a, .obj b => sameMembers a b
  | _, _ => false

/-- Whether two lists hold the same trees. -/
def sameItems : List Json → List Json → Bool
  | [], [] => true
  | a :: as, b :: bs => a.same b && sameItems as bs
  | _, _ => false

/-- Whether two lists hold the same members. -/
def sameMembers : List (String × Json) → List (String × Json) → Bool
  | [], [] => true
  | (k, a) :: as, (l, b) :: bs => k = l && a.same b && sameMembers as bs
  | _, _ => false

end

mutual

theorem same_iff : ∀ a b : Json, a.same b = true ↔ a = b
  | .null, b => by cases b <;> simp [same]
  | .bool a, b => by cases b <;> simp [same]
  | .num a, b => by cases b <;> simp [same]
  | .str a, b => by cases b <;> simp [same]
  | .arr a, b => by
    cases b with
    | arr b => simpa [same] using sameItems_iff a b
    | _ => simp [same]
  | .obj a, b => by
    cases b with
    | obj b => simpa [same] using sameMembers_iff a b
    | _ => simp [same]

theorem sameItems_iff : ∀ as bs : List Json, sameItems as bs = true ↔ as = bs
  | [], [] => by simp [sameItems]
  | [], _ :: _ => by simp [sameItems]
  | _ :: _, [] => by simp [sameItems]
  | a :: as, b :: bs => by simp [sameItems, same_iff a b, sameItems_iff as bs]

theorem sameMembers_iff : ∀ as bs : List (String × Json), sameMembers as bs = true ↔ as = bs
  | [], [] => by simp [sameMembers]
  | [], _ :: _ => by simp [sameMembers]
  | _ :: _, [] => by simp [sameMembers]
  | (k, a) :: as, (l, b) :: bs => by
    simp [sameMembers, same_iff a b, sameMembers_iff as bs, and_assoc]

end

instance : DecidableEq Json := fun a b => decidable_of_iff _ (same_iff a b)

end Json

end Courier
