import Courier.Decode.Basic

/-!
# Records

A record type is read from an object by the names of its fields, or from an array by their order. A
`Fields α` lists the fields in their order together with the constructor that takes their values,
one argument per field, so that the type of a field is known where its value is read.

## Reading an object

Members are visited in their order, and the first fault met is the one reported: a second member of
a known field, or a value that its field refuses. Members that are no fields are skipped. Fields
without a member are looked at afterwards, in the order of the fields.

## Reading an array

Items go to the fields in order. A field behind the end of the array needs a default; an item behind
the last field is refused.
-/

namespace Courier

/-- What happens to a field that is not there. -/
inductive Absence (β : Type) where
  /-- The record is refused. -/
  | refused
  /-- The field has this value in an object; an array that ends before it is refused. -/
  | tolerated (value : β)
  /-- The field has this value. -/
  | defaulted (value : β)

/-- The fields of a record, around the function that makes the record from their values. -/
inductive Fields : Type → Type 1 where
  | make {α : Type} (value : α) : Fields α
  | field {α β : Type} (before : Fields (β → α)) (name : String) (decoder : Decoder β)
      (absence : Absence β) : Fields α

namespace Fields

/-- One more field, which must be there. -/
def required {α β : Type} (before : Fields (β → α)) (name : String) (decoder : Decoder β) :
    Fields α :=
  before.field name decoder .refused

/-- One more field with a value for the case that it is not there; null does not count as that. -/
def defaulted {α β : Type} (before : Fields (β → α)) (name : String) (decoder : Decoder β)
    (value : β) : Fields α :=
  before.field name decoder (.defaulted value)

/-- One more field that may be missing or null. -/
def optional {α β : Type} (before : Fields (Option β → α)) (name : String) (decoder : Decoder β) :
    Fields α :=
  before.field name decoder.optional (.defaulted none)

/-- One more field that may be null, or missing from an object. -/
def nullable {α β : Type} (before : Fields (Option β → α)) (name : String) (decoder : Decoder β) :
    Fields α :=
  before.field name decoder.optional (.tolerated none)

/-- The number of fields. -/
def size : {α : Type} → Fields α → Nat
  | _, .make _ => 0
  | _, .field before _ _ _ => before.size + 1

/-- The names of the fields, in order. -/
def names : {α : Type} → Fields α → List String
  | _, .make _ => []
  | _, .field before name _ _ => before.names ++ [name]

/-- A place for the value of every field. -/
def Slots : {α : Type} → Fields α → Type
  | _, .make _ => Unit
  | _, .field (β := β) before _ _ _ => before.Slots × Option β

/-- No field has a value yet. -/
def empty : {α : Type} → (fields : Fields α) → fields.Slots
  | _, .make _ => ()
  | _, .field before _ _ _ => (before.empty, none)

/-- Fills the field with a name by reading its value; none if no field has the name. A field that
has a value already is refused before anything is read. -/
def fill {m : Type → Type} [Monad m] (key : String) (read : {β : Type} → Decoder β → m β)
    (refuse : {β : Type} → Misfit → m β) :
    {α : Type} → (fields : Fields α) → fields.Slots → Option (m fields.Slots)
  | _, .make _, _ => none
  | _, .field before name decoder _, slots =>
    if key = name then
      some (match slots.2 with
        | some _ => refuse (.duplicateField name)
        | none => do
          let value ← read decoder
          pure (slots.1, some value))
    else
      (before.fill key read refuse slots.1).map fun filled => do
        let others ← filled
        pure (others, slots.2)

/-- The record of the values, with the defaults of the fields that have none. -/
def build : {α : Type} → (fields : Fields α) → fields.Slots → Except Misfit α
  | _, .make value, _ => .ok value
  | _, .field before name _ absence, slots => do
    let record ← before.build slots.1
    match slots.2, absence with
    | some value, _ => .ok (record value)
    | none, .defaulted value => .ok (record value)
    | none, .tolerated value => .ok (record value)
    | none, .refused => .error (.missingField name)

/-- A number of things of a kind, in words. -/
def counted (n : Nat) (noun : String) : String :=
  if n = 1 then "1 element" ++ noun else Nat.repr n ++ " elements" ++ noun

/-- Reads the fields from the items of an array, and gives the items that are left. The name is
that of the whole record, whose length is the one to report. -/
def ofItems (context : Context) (expected : String) :
    {α : Type} → Fields α → List Json → Except Misfit (α × List Json)
  | _, .make value, items => .ok (value, items)
  | _, .field before _ decoder absence, items => do
    let (record, items) ← before.ofItems context expected items
    match items, absence with
    | item :: rest, _ => do
      let value ← decoder.ofJson context item
      .ok (record value, rest)
    | [], .defaulted value => .ok (record value, [])
    | [], _ => .error (.wrongLength before.size expected)

/-- Reads the fields from the items of an array in a text. -/
def scanItems (room : Nat) (expected : String) : {α : Type} → Fields α → Scan α
  | _, .make value => pure value
  | _, .field before _ decoder absence => do
    let record ← before.scanItems room expected
    match ← Scan.nextItem before.size (decoder.ofText room), absence with
    | some value, _ => pure (record value)
    | none, .defaulted value => pure (record value)
    | none, _ => Scan.misfit (.wrongLength before.size expected)

/-- Reads the fields from the members of an object. -/
def ofMembers (context : Context) {α : Type} (fields : Fields α) (members : List (String × Json)) :
    Except Misfit α := do
  let slots ← members.foldlM (fun slots member =>
    match fields.fill (m := Except Misfit) member.1
        (fun decoder => decoder.ofJson context member.2) (fun misfit => .error misfit) slots with
    | some filled => filled
    | none => pure slots) fields.empty
  fields.build slots

/-- Reads the fields from the members of an object in a text. -/
def scanMembers (room : Nat) {α : Type} (fields : Fields α) : Scan α := do
  let slots ← Scan.members (fun slots key =>
    match fields.fill (m := Scan) key
        (fun decoder => Scan.valueOf key (decoder.ofText room)) (fun misfit => Scan.misfit misfit)
        slots with
    | some filled => filled
    | none => do
      Scan.valueOf key Scan.ignored
      pure slots) fields.empty
  Decoder.lift (fields.build slots)

/-- The name of a record type with the number of its fields. -/
def lengthNoun {α : Type} (fields : Fields α) (noun : String) : String :=
  noun ++ " with " ++ counted fields.size ""

/-- What an array behind the last field is reported as. -/
def tooLong {α : Type} (fields : Fields α) (context : Context) (length : Nat) : Misfit :=
  match context with
  | .plain => .wrongLength length "fewer elements in array"
  | .tagged => .wrongLength length (counted fields.size " in sequence")

/-- Decodes a record. -/
def decode {α : Type} (noun : String) (fields : Fields α) (context : Context) :
    Json → Except Misfit α
  | .obj members => fields.ofMembers context members
  | .arr items => do
    let (value, rest) ← fields.ofItems context (fields.lengthNoun noun) items
    if rest.isEmpty then .ok value else .error (fields.tooLong context items.length)
  | value => Decoder.wrongType value noun

/-- The decoder of a record type with a name. -/
def decoder {α : Type} (noun : String) (fields : Fields α) : Decoder α where
  ofJson := fields.decode noun
  ofText room := do
    match ← Scan.next? with
    | some '\x7b' => Scan.nested room fun room => Scan.object (fields.scanMembers room)
    | some '[' =>
      Scan.nested room fun room => Scan.array (fields.scanItems room (fields.lengthNoun noun))
    | _ => (Decoder.scalar fun value => Decoder.wrongType value noun).ofText room

end Fields

end Courier
