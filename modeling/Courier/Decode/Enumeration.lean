import Courier.Decode.Basic

/-!
# Enumerations

A type of named values is read from the name, or from an object whose only member has the name as
its key and null as its value.
-/

namespace Courier

/-- The names of the values of a type. -/
structure Enumeration (α : Type) where
  /-- Every accepted name with its value. -/
  named : List (String × α)
  /-- The value of all other names, if they have one. -/
  other : Option α

namespace Enumeration

variable {α : Type}

/-- The value of a name. -/
def find (e : Enumeration α) (name : String) : Except Misfit α :=
  match e.named.lookup name, e.other with
  | some value, _ => .ok value
  | none, some value => .ok value
  | none, none => .error (.unknownVariant name (e.named.map Prod.fst))

/-- The value of a name that stands for itself. -/
def ofName (e : Enumeration α) : Json → Except Misfit α
  | .str name => e.find name
  | value => Decoder.wrongType value "variant identifier"

/-- Decodes one of the values. -/
def decode (e : Enumeration α) (context : Context) : Json → Except Misfit α
  | .str name => e.find name
  | .obj [(name, value)] => do
    let found ← e.find name
    Decoder.unit.ofJson context value
    .ok found
  | .obj _ => .error (.wrongValue .obj "map with a single key")
  | value => Decoder.wrongType value "string or map"

/-- The decoder of an enumeration. -/
def decoder (e : Enumeration α) : Decoder α where
  ofJson := e.decode
  ofText room := do
    let byName := (Decoder.scalar e.ofName).ofText room
    match ← Scan.next? with
    | none => Scan.refuse .unendedValue 0
    | some '"' => byName
    | some '\x7b' => Scan.nested room fun room => do
      Scan.skip
      let found ← match ← Scan.nextKey true with
        | some name => Scan.settled (Decoder.lift (e.find name))
        | none => Scan.refuse .expectedValue 1
      Scan.colon
      Decoder.unit.ofText room
      match ← Scan.next? with
      | some '\x7d' => Scan.skip; pure found
      | some _ => Scan.refuse .expectedValue 0
      | none => Scan.refuse .unendedObject 0
    | some _ => Scan.refuse .expectedValue 1

end Enumeration

end Courier
