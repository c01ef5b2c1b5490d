import Courier.Json.Reader
import Courier.Settings.Path

/-!
# Layers of settings

A layer of settings is a tree of tables. A layer is laid over the layers below it setting by
setting: a table is merged into the table that is there, and anything else takes the place of what
is there. Where a path leads by name into something that is not a table, an empty table takes the
place of that, and where it leads by number into something that is not a list, an empty list does.

The entries of a layer are named by paths (`Settings.Path`). Names are told apart without regard to
capitals, so every layer has them in small letters.
-/

namespace Courier

/-- A setting, or a table of settings. -/
inductive ConfigValue where
  | nothing
  | bool (value : Bool)
  | int (value : Int)
  | float (value : Binary64)
  | text (value : String)
  | list (items : List ConfigValue)
  | table (entries : List (String × ConfigValue))
  deriving Repr, Inhabited

namespace ConfigValue

/-- The entries of a table; anything else has none. -/
def entries : ConfigValue → List (String × ConfigValue)
  | .table entries => entries
  | _ => []

/-- The items of a list; anything else has none. -/
def items : ConfigValue → List ConfigValue
  | .list items => items
  | _ => []

mutual

/-- The entries of a table with one more entry laid over them. -/
def lay (name : String) (entries : List (String × ConfigValue)) :
    ConfigValue → List (String × ConfigValue)
  | .table incoming =>
    Assoc.put name (layAll ((Assoc.find? name entries).getD (.table [])) incoming) entries
  | value => Assoc.put name value entries

/-- A table with all entries of another laid over it. -/
def layAll (target : ConfigValue) : List (String × ConfigValue) → ConfigValue
  | [] => target
  | (name, value) :: rest => layAll (.table (lay name target.entries value)) rest

end

/-- The number of items that a list of settings grows to at most. A value for an item behind that is
dropped. -/
def listBound : Nat := twoTo 20

/-- The settings that are nothing by which a list grows to a length, as far as it may grow. -/
def growth (items : List ConfigValue) (length : Nat) : List ConfigValue :=
  List.replicate (min length listBound - items.length) .nothing

/-- The items of a list with one of them changed. A negative index counts from the end. The list
grows until it has the item, at its end or, for a negative index, at its start. -/
def changeItem (index : Int) (change : ConfigValue → ConfigValue) (items : List ConfigValue) :
    List ConfigValue :=
  if 0 ≤ index then (items ++ growth items (index.toNat + 1)).modify index.toNat change
  else
    let grown := growth items index.natAbs ++ items
    grown.modify (grown.length - index.natAbs) change

/-- A setting with a value laid over it at a path. At the end of the path a value goes into a table
as an entry, but takes the place of an item of a list. -/
def layAt (root : ConfigValue) (value : ConfigValue) : SettingPath → ConfigValue
  | [] => value
  | [.name name] => .table (lay name root.entries value)
  | .name name :: path =>
    let inner := (Assoc.find? name root.entries).getD .nothing
    .table (Assoc.put name (inner.layAt value path) root.entries)
  | .item index :: path =>
    .list (changeItem index (fun inner => inner.layAt value path) root.items)

/-- A tree with the entries of a layer laid over it. -/
def layLayer (root : ConfigValue) (layer : List (String × ConfigValue)) : ConfigValue :=
  layer.foldl (fun root entry => root.layAt entry.2 (SettingPath.ofText entry.1)) root

/-! ## Layers from documents -/

/-- A character of a name in its small form. The Kelvin sign is a large `k` too. -/
def smallChar (c : Char) : Char :=
  if c.toNat = 0x212A then 'k' else c.toLower

/-- A name in small letters. -/
def smallName (name : String) : String :=
  String.ofList (name.toList.map smallChar)

mutual

/-- The settings of a value. An integer that does not fit in 64 bits with a sign is a floating-point
number here. -/
def ofJson : Json → ConfigValue
  | .null => .nothing
  | .bool value => .bool value
  | .num (.int value) =>
    if fitsSigned value then .int value else .float (Binary64.ofNat value.toNat)
  | .num (.float value) => .float value
  | .str value => .text value
  | .arr items => .list (ofItems items)
  | .obj members => .table (Assoc.sort (ofMembers members))

/-- The settings of the items of an array. -/
def ofItems : List Json → List ConfigValue
  | [] => []
  | item :: rest => ofJson item :: ofItems rest

/-- The settings of the members of an object. -/
def ofMembers : List (String × Json) → List (String × ConfigValue)
  | [] => []
  | (name, value) :: rest => (smallName name, ofJson value) :: ofMembers rest

end

/-- The layer of a document, which has to be an object. Of names that differ in capitals alone the
last one counts. -/
def layerOfText? (text : String) : Option (List (String × ConfigValue)) :=
  match Json.parse text with
  | .ok (.obj members) => some (Assoc.sort (ofMembers members))
  | _ => none

/-! ## Converting values -/

/-- A setting as a text. Numbers and truth values are written out. -/
def asText? : ConfigValue → Option String
  | .text value => some value
  | .bool value => some (if value then "true" else "false")
  | .int value => some (Number.int value).text
  | .float value => some value.plainText
  | _ => none

/-- The least number that is too large for 64 bits. -/
def naturalBound : Nat := twoTo 64

/-- A text as a natural number: a word for yes or no, or digits with a plus in front or not. -/
def naturalOfText? (text : String) : Option Nat :=
  let word := String.ofList (text.toList.map Char.toLower)
  if word ∈ ["true", "on", "yes"] then some 1
  else if word ∈ ["false", "off", "no"] then some 0
  else
    let digits := match text.toList with
      | '+' :: rest => rest
      | cs => cs
    if digits ≠ [] ∧ digits.all Text.isAsciiDigit ∧ Text.digitsValue digits < naturalBound then
      some (Text.digitsValue digits)
    else none

/-- A floating-point number as a natural number of 64 bits: the nearest one. -/
def naturalOfFloat (x : Binary64) : Nat :=
  if x.isNaN ∨ x.isNegative then 0
  else if x.isInfinite then naturalBound - 1
  else min x.roundHalfUp (naturalBound - 1)

/-- A setting as a natural number below a bound. -/
def asNatural? (bound : Nat) (value : ConfigValue) : Option Nat :=
  let number := match value with
    | .bool b => some (if b then 1 else 0)
    | .int i => if 0 ≤ i then some i.toNat else none
    | .float x => some (naturalOfFloat x)
    | .text s => naturalOfText? s
    | _ => none
  number.filter (· < bound)

/-- A setting as a natural number of 64 bits. -/
def asCount? (value : ConfigValue) : Option Nat :=
  value.asNatural? naturalBound

/-- A setting as a list of texts. -/
def asTexts? : ConfigValue → Option (List String)
  | .list items => items.mapM asText?
  | _ => none

end ConfigValue

end Courier
