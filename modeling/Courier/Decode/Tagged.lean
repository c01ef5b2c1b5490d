import Courier.Decode.Record

/-!
# Tagged values

A type with alternatives is read from an object in which one member, the tag, names the alternative,
and the other members are the parts of the alternative. The tag may stand anywhere. In an array the
tag is the first item and the parts are the others.

The parts are set aside as a tree, in their order and with repeated keys, until the tag is known.
-/

namespace Courier

/-- The alternatives of a type and the tag that tells them apart. -/
structure Tagged (α : Type) where
  /-- What the type is called in a report. -/
  noun : String
  /-- The key of the tag. -/
  tag : String
  /-- Each alternative by its name, with what decodes its parts. -/
  named : List (String × (Json → Except Misfit α))
  /-- What decodes the parts under any other tag, if that is allowed. -/
  other : Option (Json → Except Misfit α)

namespace Tagged

variable {α : Type}

/-- An alternative without parts: whatever members it has are ignored, items are not. -/
def bare (value : α) : Json → Except Misfit α
  | .arr [] => .ok value
  | .arr items => .error (.wrongLength items.length (Fields.counted 0 " in sequence"))
  | _ => .ok value

/-- An alternative whose parts are a type of their own. -/
def part {β : Type} (wrap : β → α) (d : Decoder β) (value : Json) : Except Misfit α :=
  (d.ofJson .tagged value).map wrap

/-- The alternative with a name. -/
def byName (t : Tagged α) (name : String) : Except Misfit (Json → Except Misfit α) :=
  match t.named.lookup name, t.other with
  | some parts, _ => .ok parts
  | none, some parts => .ok parts
  | none, none => .error (.unknownVariant name (t.named.map Prod.fst))

/-- The alternative with a number. -/
def byNumber (t : Tagged α) (n : Nat) : Except Misfit (Json → Except Misfit α) :=
  match t.named[n]?, t.other with
  | some (_, parts), _ => .ok parts
  | none, some parts => .ok parts
  | none, none =>
    .error (.wrongValue (.num (.int n)) ("variant index 0 <= i < " ++ Nat.repr t.named.length))

/-- The alternative that a tag names. Among parts that were set aside, a tag may be a number. -/
def choose (t : Tagged α) (context : Context) : Json → Except Misfit (Json → Except Misfit α)
  | .str name => t.byName name
  | .num (.int (.ofNat n)) =>
    match context with
    | .plain => Decoder.wrongType (.num (.int n)) "variant identifier"
    | .tagged => t.byNumber n
  | value => Decoder.wrongType value "variant identifier"

/-- Finds the tag among members; the others keep their order. -/
def split (t : Tagged α) (context : Context) (found : Option (Json → Except Misfit α)) :
    List (String × Json) →
      Except Misfit (Option (Json → Except Misfit α) × List (String × Json))
  | [] => .ok (found, [])
  | (key, value) :: rest =>
    if key = t.tag then
      match found with
      | some _ => .error (.duplicateField t.tag)
      | none => do
        let chosen ← t.choose context value
        t.split context (some chosen) rest
    else do
      let (chosen, others) ← t.split context found rest
      .ok (chosen, (key, value) :: others)

/-- Decodes a tagged value. -/
def decode (t : Tagged α) (context : Context) : Json → Except Misfit α
  | .obj members => do
    match ← t.split context none members with
    | (some parts, others) => parts (.obj others)
    | (none, _) => .error (.missingField t.tag)
  | .arr [] => .error (.missingField t.tag)
  | .arr (first :: rest) => do
    let parts ← t.choose context first
    parts (.arr rest)
  | value => Decoder.wrongType value t.noun

/-- Reads the members of an object in a text, with the parts set aside in reverse. -/
def scanMembers (t : Tagged α) (room : Nat) : Scan ((Json → Except Misfit α) × Json) := do
  let (found, others) ← Scan.members (fun (found, others) key => do
    if key = t.tag then
      match found with
      | some _ => Scan.misfit (.duplicateField t.tag)
      | none => do
        let chosen ← Scan.valueOf key ((Decoder.scalar (t.choose .plain)).ofText room)
        pure (some chosen, others)
    else
      let value ← Scan.valueOf key (Scan.tree room)
      pure (found, (key, value) :: others)) (none, [])
  match found with
  | some parts => pure (parts, .obj others.reverse)
  | none => Scan.misfit (.missingField t.tag)

/-- Reads the items of an array in a text. -/
def scanItems (t : Tagged α) (room : Nat) : Scan ((Json → Except Misfit α) × Json) := do
  match ← Scan.nextItem 0 ((Decoder.scalar (t.choose .plain)).ofText room) with
  | none => Scan.misfit (.missingField t.tag)
  | some parts =>
    let rest ← Scan.items 1 (Scan.tree room)
    pure (parts, .arr rest)

/-- The decoder of a type with alternatives. -/
def decoder (t : Tagged α) : Decoder α where
  ofJson := t.decode
  ofText room := do
    let (parts, value) ← match ← Scan.next? with
      | some '\x7b' => Scan.nested room fun room => Scan.object (t.scanMembers room)
      | some '[' => Scan.nested room fun room => Scan.array (t.scanItems room)
      | _ => (Decoder.scalar fun value => Decoder.wrongType value t.noun).ofText room
    Decoder.lift (parts value)

end Tagged

end Courier
