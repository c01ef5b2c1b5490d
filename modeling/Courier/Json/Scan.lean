import Courier.Json.Fault

/-!
# Scanning a text

A `Scan α` reads a value of type `α` from the front of a text and gives the text that is left. When
it fails, the fault says where the scan stood, because an enclosing array or object still looks for
its closing bracket before the failure is reported, and the place that is reported is where that
search ended.

## Places

A place is not counted along the way. A fault holds a `Mark`: the text that was left, and a number
of bytes into it. Line and column follow from the whole document, `Mark.locate`: lines start at 1,
and the column is the number of bytes of the line that were read. Besides, a fault has the trail of
items and members that leads to the part at which the scan failed.
-/

namespace Courier

/-- A place in a document, as the text from some character on and a number of bytes into that
text. -/
structure Mark where
  rest : List Char
  bytes : Nat
  deriving DecidableEq, Repr, Inhabited

/-- A step from an array or object to one of its parts. -/
inductive TrailStep where
  | item (index : Nat)
  | member (key : String)
  /-- To a member whose key was not read. -/
  | unread
  deriving DecidableEq, Repr, Inhabited

/-- A failed scan. -/
structure Fault where
  cause : Cause
  /-- The place to report; none as long as no enclosing array or object has settled it. -/
  mark : Option Mark
  /-- The text at which the scan stopped. -/
  rest : List Char
  /-- The steps from the whole document to the part that was read. -/
  trail : List TrailStep
  deriving DecidableEq, Repr, Inhabited

/-- A line and a column. -/
structure Position where
  line : Nat
  column : Nat
  deriving DecidableEq, Repr, Inhabited

namespace Position

/-- The start of a document. -/
def start : Position := ⟨1, 0⟩

/-- The position after one more character. -/
def next (p : Position) (c : Char) : Position :=
  if c = '\n' then ⟨p.line + 1, 0⟩ else ⟨p.line, p.column + c.utf8Size⟩

/-- The position after a number of bytes; inside a character the column counts the bytes of it. -/
def nextBytes (p : Position) : List Char → Nat → Position
  | [], _ => p
  | c :: rest, bytes =>
    if bytes < c.utf8Size then ⟨p.line, p.column + bytes⟩
    else nextBytes (p.next c) rest (bytes - c.utf8Size)

end Position

/-- The line and column of a mark in its document. -/
def Mark.locate (document : List Char) (mark : Mark) : Position :=
  let before := document.take (document.length - mark.rest.length)
  (before.foldl Position.next Position.start).nextBytes mark.rest mark.bytes

/-- A reader of the front of a text. -/
abbrev Scan := StateT (List Char) (Except Fault)

namespace Scan

variable {α β σ : Type}

/-! ## Failing -/

/-- Fails on account of the text, a number of bytes further on. -/
def refuse (fault : TextFault) (bytes : Nat) : Scan α := fun cs =>
  .error ⟨.inText fault, some ⟨cs, bytes⟩, cs, []⟩

/-- Fails on account of the value, at a place still to be settled. -/
def misfit (m : Misfit) : Scan α := fun cs =>
  .error ⟨.inShape m, none, cs, []⟩

/-- Reads a part: a failure in it has one more step on its trail. -/
def within (step : TrailStep) (scan : Scan α) : Scan α := fun cs =>
  (scan cs).mapError fun fault => { fault with trail := step :: fault.trail }

/-- Settles the place of a failure where the scan stopped. -/
def settled (scan : Scan α) : Scan α := fun cs =>
  match scan cs with
  | .ok result => .ok result
  | .error fault => .error { fault with mark := fault.mark <|> some ⟨fault.rest, 0⟩ }

/-- What is inside brackets, and then the closing bracket. The closing bracket is also looked for
when the inside failed: the place of that failure is settled behind it, but the failure stays the
first. -/
def closedBy (close : Scan Unit) (inside : Scan α) : Scan α := fun cs =>
  match inside cs with
  | .ok (a, rest) => (close rest).map fun (_, rest) => (a, rest)
  | .error fault =>
    let rest := match close fault.rest with
      | .ok (_, rest) => rest
      | .error second => second.rest
    .error { fault with mark := fault.mark <|> some ⟨rest, 0⟩, rest := rest }

/-! ## Characters -/

/-- White space between the parts of a document. -/
def isSpace (c : Char) : Bool :=
  c = ' ' || c = '\n' || c = '\t' || c = '\r'

/-- Skips white space and shows the next character. -/
def next? : Scan (Option Char) := fun cs =>
  let rest := cs.dropWhile isSpace
  .ok (rest.head?, rest)

/-- Skips one character. -/
def skip : Scan Unit := fun cs => .ok ((), cs.drop 1)

/-- Reads the rest of a word such as `null`. -/
def word : List Char → Scan Unit
  | [] => pure ()
  | c :: rest => fun cs =>
    match cs with
    | [] => refuse .unendedValue 0 cs
    | d :: cs => if c = d then word rest cs else refuse .expectedWord 1 (d :: cs)

/-! ## Strings -/

/-- The value of a hexadecimal digit. -/
def hexValue? (c : Char) : Option Nat :=
  if '0' ≤ c && c ≤ '9' then some (c.toNat - '0'.toNat)
  else if 'a' ≤ c && c ≤ 'f' then some (c.toNat - 'a'.toNat + 10)
  else if 'A' ≤ c && c ≤ 'F' then some (c.toNat - 'A'.toNat + 10)
  else none

/-- The number of bytes of a text. -/
def byteLength (cs : List Char) : Nat :=
  cs.foldl (fun total c => total + c.utf8Size) 0

/-- Four hexadecimal digits. Four bytes must be there before they are looked at. -/
def fourHex : Scan Nat := fun cs =>
  match cs with
  | a :: b :: c :: d :: rest =>
    match hexValue? a, hexValue? b, hexValue? c, hexValue? d with
    | some a, some b, some c, some d => .ok (((a * 16 + b) * 16 + c) * 16 + d, rest)
    | _, _, _, _ => refuse .badEscape 4 cs
  | _ =>
    if byteLength cs < 4 then .error ⟨.inText .unendedString, some ⟨[], 0⟩, [], []⟩
    else refuse .badEscape 4 cs

/-- Whether a number is a leading half of a surrogate pair. -/
def isLeading (code : Nat) : Bool := 0xD800 ≤ code && code ≤ 0xDBFF

/-- Whether a number is a trailing half of a surrogate pair. -/
def isTrailing (code : Nat) : Bool := 0xDC00 ≤ code && code ≤ 0xDFFF

/-- One character of the `\u` that must come between the halves of a surrogate pair. -/
def pairMark (expected : Char) : Scan Unit := fun cs =>
  match cs with
  | [] => refuse .unendedString 0 cs
  | c :: rest => if c = expected then .ok ((), rest) else refuse .missingSurrogate 1 cs

/-- The character of a `\u` escape, after the `u`. A leading surrogate takes the trailing one of the
next escape with it; neither may stand alone. -/
def unicodeEscape : Scan Char := do
  let first ← fourHex
  if isTrailing first then refuse .unpairedSurrogate 0
  else if isLeading first then
    pairMark '\\'
    pairMark 'u'
    let second ← fourHex
    if isTrailing second then
      pure (Char.ofNat (0x10000 + (first - 0xD800) * 0x400 + (second - 0xDC00)))
    else refuse .unpairedSurrogate 0
  else pure (Char.ofNat first)

/-- The character that a one-letter escape stands for. -/
def shortEscape? : Char → Option Char
  | '"' => some '"'
  | '\\' => some '\\'
  | '/' => some '/'
  | 'b' => some (Char.ofNat 0x08)
  | 'f' => some (Char.ofNat 0x0C)
  | 'n' => some '\n'
  | 'r' => some '\r'
  | 't' => some '\t'
  | _ => none

/-- The character of an escape, after the backslash. -/
def escape : Scan Char := fun cs =>
  match cs with
  | [] => refuse .unendedString 0 cs
  | 'u' :: rest => unicodeEscape rest
  | c :: rest =>
    match shortEscape? c with
    | some d => .ok (d, rest)
    | none => refuse .badEscape 1 cs

/-- The characters up to the closing quote, put in front of those already read, in reverse. -/
def stringFrom : Nat → List Char → Scan String
  | 0, _ => refuse .unendedString 0
  | fuel + 1, done => fun cs =>
    match cs with
    | [] => refuse .unendedString 0 cs
    | '"' :: rest => .ok (String.ofList done.reverse, rest)
    | '\\' :: rest =>
      match escape rest with
      | .ok (c, rest) => stringFrom fuel (c :: done) rest
      | .error fault => .error fault
    | c :: rest =>
      if c.toNat < 0x20 then refuse .controlCharacter 1 cs
      else stringFrom fuel (c :: done) rest

/-- A string, after the opening quote. -/
def string : Scan String := fun cs => stringFrom (cs.length + 1) [] cs

/-! ## Arrays and objects -/

/-- The item of an array with an index, after the items before it, or none in front of the closing
bracket. -/
def nextItem (index : Nat) (item : Scan α) : Scan (Option α) := within (.item index) do
  match ← next? with
  | none => refuse .unendedArray 0
  | some ']' => pure none
  | some c =>
    if index = 0 then some <$> item
    else if c = ',' then
      skip
      match ← next? with
      | some ']' => refuse .trailingComma 1
      | some _ => some <$> item
      | none => refuse .unendedValue 0
    else refuse .expectedCommaOrBracket 1

/-- The next key of an object, or none in front of the closing brace. -/
def nextKey (first : Bool) : Scan (Option String) := within .unread do
  match ← next? with
  | none => refuse .unendedObject 0
  | some '\x7d' => pure none
  | some c =>
    if first then
      if c = '"' then skip; some <$> string else refuse .keyNotString 1
    else if c = ',' then
      skip
      match ← next? with
      | some '"' => skip; some <$> string
      | some '\x7d' => refuse .trailingComma 1
      | some _ => refuse .keyNotString 1
      | none => refuse .unendedValue 0
    else refuse .expectedCommaOrBrace 1

/-- The colon between a key and its value. -/
def colon : Scan Unit := do
  match ← next? with
  | some ':' => skip
  | some _ => refuse .expectedColon 1
  | none => refuse .unendedObject 0

/-- The value behind a key, read behind the colon. -/
def valueOf (key : String) (value : Scan α) : Scan α := within (.member key) do
  colon
  value

/-- The bracket that closes an array. -/
def arrayEnd : Scan Unit := do
  match ← next? with
  | some ']' => skip
  | some ',' =>
    skip
    match ← next? with
    | some ']' => refuse .trailingComma 1
    | _ => refuse .trailingText 1
  | some _ => refuse .trailingText 1
  | none => refuse .unendedArray 0

/-- The brace that closes an object. -/
def objectEnd : Scan Unit := do
  match ← next? with
  | some '\x7d' => skip
  | some ',' => refuse .trailingComma 1
  | some _ => refuse .trailingText 1
  | none => refuse .unendedObject 0

/-- The items from an index up to the closing bracket, with a bound on their number. -/
def itemsFrom (item : Scan α) : Nat → Nat → Scan (List α)
  | 0, _ => pure []
  | fuel + 1, index => do
    match ← nextItem index item with
    | none => pure []
    | some a => (a :: ·) <$> itemsFrom item fuel (index + 1)

/-- All items of an array from an index on, each by the same reader. -/
def items (index : Nat) (item : Scan α) : Scan (List α) := fun cs =>
  itemsFrom item (cs.length + 1) index cs

/-- Runs over the members up to the closing brace, with a bound on their number. -/
def membersFrom (step : σ → String → Scan σ) : Nat → Bool → σ → Scan σ
  | 0, _, state => pure state
  | fuel + 1, first, state => do
    match ← nextKey first with
    | none => pure state
    | some key => do
      let state ← step state key
      membersFrom step fuel false state

/-- Runs over the members of an object. A step gets the key and reads colon and value. -/
def members (step : σ → String → Scan σ) (state : σ) : Scan σ := fun cs =>
  membersFrom step (cs.length + 1) true state cs

/-- An array, whose opening bracket is next. -/
def array (inside : Scan α) : Scan α := do
  skip
  closedBy arrayEnd inside

/-- An object, whose opening brace is next. -/
def object (inside : Scan α) : Scan α := do
  skip
  closedBy objectEnd inside

/-- Something in brackets that may nest `room` levels deep, the brackets included. The inside gets
one level less; without any level left the opening bracket is refused. -/
def nested (room : Nat) (bracketed : Nat → Scan α) : Scan α :=
  match room with
  | 0 => refuse .tooDeep 1
  | room + 1 => bracketed room

end Scan

end Courier
