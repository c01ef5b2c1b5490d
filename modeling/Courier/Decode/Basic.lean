import Courier.Json.Reader

/-!
# Decoders

A decoder reads one type in two ways: from a value that is already there, and straight from a text.
The two accept the same documents. They differ in the order in which several faults of one document
are met, because a value has its members sorted and a text is read from front to back, and in that
only a text has places.

## Plain and tagged values

A tagged value (`Decode.Tagged`) names its alternative in one of its members, so its other parts are
set aside until that member is found and decoded afterwards. Decoding parts that were set aside
differs from decoding a plain value in two points: a tag may also be given by number, and an array
that is too long is reported in other words. `Context` says which of the two it is.
-/

namespace Courier

/-- Where a value stands that is decoded from a tree. -/
inductive Context where
  /-- The value itself, or a part of it outside every tagged value. -/
  | plain
  /-- A part of a tagged value. -/
  | tagged
  deriving DecidableEq, Repr

/-- A reader of one type from values and from texts. -/
structure Decoder (α : Type) where
  /-- Decodes a value. -/
  ofJson : Context → Json → Except Misfit α
  /-- Decodes the front of a text that may nest a number of levels deep. -/
  ofText : Nat → Scan α

namespace Decoder

variable {α β : Type}

/-- Goes on with a decoded value, or fails without a place. -/
def lift (result : Except Misfit α) : Scan α :=
  match result with
  | .ok a => pure a
  | .error m => Scan.misfit m

/-- The refusal of a value on account of its kind. -/
def wrongType (value : Json) (expected : String) : Except Misfit α :=
  .error (.wrongType (Seen.ofJson value) expected)

/-- The next value of a text as far as its kind goes: arrays and objects are not entered. -/
def outline : Scan Json := do
  match ← Scan.scalar? with
  | some value => pure value
  | none =>
    match ← Scan.next? with
    | some '[' => pure (.arr [])
    | _ => pure (.obj [])

/-- A decoder of a type without parts. Arrays and objects are refused by their kind alone. -/
def scalar (decode : Json → Except Misfit α) : Decoder α where
  ofJson _ value := decode value
  ofText _ := Scan.settled do
    let value ← outline
    lift (decode value)

/-- A decoder that looks at a whole value at once. -/
def whole (decode : Json → Except Misfit α) : Decoder α where
  ofJson _ value := decode value
  ofText room := do
    let value ← Scan.tree room
    lift (decode value)

/-- Applies a function to what is decoded. -/
def map (f : α → β) (d : Decoder α) : Decoder β where
  ofJson context value := (d.ofJson context value).map f
  ofText room := f <$> d.ofText room

/-! ## Types without parts -/

/-- A string. -/
def string : Decoder String :=
  scalar fun
    | .str s => .ok s
    | value => wrongType value "a string"

/-- A truth value. -/
def bool : Decoder Bool :=
  scalar fun
    | .bool b => .ok b
    | value => wrongType value "a boolean"

/-- A natural number below a bound. -/
def natural (bound : Nat) (noun : String) : Decoder Nat :=
  scalar fun
    | .num (.int i) =>
      if 0 ≤ i ∧ i < bound then .ok i.toNat else .error (.wrongValue (.num (.int i)) noun)
    | value => wrongType value noun

/-- A natural number of 32 bits. -/
def natural32 : Decoder Nat := natural (twoTo 32) "u32"

/-- A natural number of 64 bits that counts something. -/
def count : Decoder Nat := natural (twoTo 64) "usize"

/-- Nothing, written as null. -/
def unit : Decoder Unit :=
  scalar fun
    | .null => .ok ()
    | value => wrongType value "unit"

/-! ## Types with parts -/

/-- Any value. -/
def json : Decoder Json where
  ofJson _ value := .ok value.normalize
  ofText room := Json.normalize <$> Scan.tree room

/-- A value that may be null. -/
def optional (d : Decoder α) : Decoder (Option α) where
  ofJson context
    | .null => .ok none
    | value => (d.ofJson context value).map some
  ofText room := do
    match ← Scan.next? with
    | some 'n' => Scan.skip; Scan.word ['u', 'l', 'l']; pure none
    | _ => some <$> d.ofText room

/-- A value that is not null is left to the decoder of the value. -/
theorem optional_ofJson {d : Decoder α} {context : Context} {value : Json} (h : value ≠ .null) :
    d.optional.ofJson context value = (d.ofJson context value).map some := by
  cases value <;> first | rfl | exact absurd rfl h

/-- An array of values of one type. -/
def list (d : Decoder α) : Decoder (List α) where
  ofJson context
    | .arr items => items.mapM (d.ofJson context)
    | value => wrongType value "a sequence"
  ofText room := do
    match ← Scan.next? with
    | some '[' => Scan.nested room fun room => Scan.array (Scan.items 0 (d.ofText room))
    | _ => (scalar fun value => wrongType value "a sequence").ofText room

/-! ## Whole documents -/

/-- Decodes a value from its root. -/
def run (d : Decoder α) (value : Json) : Except Misfit α :=
  d.ofJson .plain value

/-- Decodes a whole text. -/
def parse (d : Decoder α) (text : String) : Except Fault α :=
  Scan.document (d.ofText Scan.maxDepth) text

end Decoder

end Courier
