/-!
# Association lists in ascending key order

A finite map as the list of its entries, keys ascending. `put` keeps the order and the uniqueness of
keys, so two lists made from the same entries by `put` in whatever order are equal as soon as the
keys are distinct.
-/

namespace Courier.Assoc

variable {κ α : Type} [LT κ] [DecidableLT κ] [DecidableEq κ]

/-- The entries with one entry put at its place. An entry with the same key is replaced. -/
def put (key : κ) (value : α) : List (κ × α) → List (κ × α)
  | [] => [(key, value)]
  | (k, v) :: rest =>
    if key < k then (key, value) :: (k, v) :: rest
    else if key = k then (key, value) :: rest
    else (k, v) :: put key value rest

/-- The entries without the one with a key. -/
def erase (key : κ) (entries : List (κ × α)) : List (κ × α) :=
  entries.filter fun entry => entry.1 ≠ key

/-- The value of a key. -/
def find? (key : κ) (entries : List (κ × α)) : Option α :=
  entries.lookup key

/-- Entries in ascending key order, of equal keys the last one. -/
def sort (entries : List (κ × α)) : List (κ × α) :=
  entries.foldl (fun sorted entry => put entry.1 entry.2 sorted) []

end Courier.Assoc
