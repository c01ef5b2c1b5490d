import Courier.Json.NumberText

/-!
# Reading documents

`Scan.tree` reads any value as a tree, members in the order of the text. `Scan.ignored` skips a
value that nobody wants, and is the more lenient of the two: it does not count nesting, and it does
not look at what escapes and exponents stand for. `Scan.document` is a whole text: one value and
nothing behind it but white space.
-/

namespace Courier

namespace Scan

variable {α : Type}

/-- How many arrays and objects a document may have inside each other. -/
def maxDepth : Nat := 127

/-- A value without parts, none if the next character starts an array or object. -/
def scalar? : Scan (Option Json) := do
  match ← next? with
  | none => refuse .unendedValue 0
  | some 'n' => skip; word ['u', 'l', 'l']; pure (some .null)
  | some 't' => skip; word ['r', 'u', 'e']; pure (some (.bool true))
  | some 'f' => skip; word ['a', 'l', 's', 'e']; pure (some (.bool false))
  | some '"' => skip; (fun s => some (.str s)) <$> string
  | some '-' => skip; (fun n => some (.num n)) <$> number true
  | some '[' => pure none
  | some '\x7b' => pure none
  | some c =>
    if isDigit c then (fun n => some (.num n)) <$> number false else refuse .expectedValue 1

/-- A value without parts, or else what an array or object is read by. -/
def scalarOr (compound : Scan Json) : Scan Json := do
  match ← scalar? with
  | some value => pure value
  | none => compound

/-- An array or object with its parts read by one reader. -/
def compound (part : Scan Json) : Scan Json := do
  match ← next? with
  | some '[' => Json.arr <$> array (items 0 part)
  | _ =>
    (fun reversed => Json.obj reversed.reverse) <$> object (members (fun done key => do
      let value ← valueOf key part
      pure ((key, value) :: done)) [])

/-- A value of any kind, with at most `room` levels of nesting. -/
def tree : Nat → Scan Json
  | 0 => scalarOr (refuse .tooDeep 1)
  | room + 1 => scalarOr (compound (tree room))

/-! ## Values that are skipped -/

/-- The rest of a string that is skipped. -/
def ignoredStringFrom : Nat → Scan Unit
  | 0 => refuse .unendedString 0
  | fuel + 1 => fun cs =>
    match cs with
    | [] => refuse .unendedString 0 cs
    | '"' :: rest => .ok ((), rest)
    | '\\' :: 'u' :: rest =>
      match fourHex rest with
      | .ok (_, rest) => ignoredStringFrom fuel rest
      | .error fault => .error fault
    | '\\' :: c :: rest =>
      match shortEscape? c with
      | some _ => ignoredStringFrom fuel rest
      | none => refuse .badEscape 1 (c :: rest)
    | ['\\'] => refuse .unendedString 0 []
    | c :: rest =>
      if c.toNat < 0x20 then refuse .controlCharacter 0 cs else ignoredStringFrom fuel rest

/-- A string that is skipped, after the opening quote. -/
def ignoredString : Scan Unit := fun cs => ignoredStringFrom (cs.length + 1) cs

/-- The exponent of a number that is skipped, after the `e`. -/
def ignoredExponent : Scan Unit := fun cs =>
  let cs := match cs with
    | '+' :: rest | '-' :: rest => rest
    | _ => cs
  match cs with
  | c :: rest => if isDigit c then .ok ((), rest.dropWhile isDigit) else refuse .badNumber 1 cs
  | [] => refuse .badNumber 0 cs

/-- A number that is skipped, after its minus if it has one. -/
def ignoredNumber : Scan Unit := fun cs =>
  match cs with
  | [] => refuse .badNumber 0 cs
  | c :: after =>
    if ¬ isDigit c then refuse .badNumber 1 cs
    else if c = '0' ∧ (after.head?.any isDigit) then refuse .badNumber 1 after
    else
      match cs.dropWhile isDigit with
      | '.' :: rest =>
        if rest.head?.any isDigit then
          match rest.dropWhile isDigit with
          | 'e' :: rest | 'E' :: rest => ignoredExponent rest
          | rest => .ok ((), rest)
        else refuse .badNumber 1 rest
      | 'e' :: rest | 'E' :: rest => ignoredExponent rest
      | rest => .ok ((), rest)

/-- The kind of bracket that is open. -/
inductive Bracket where
  | array
  | object
  deriving DecidableEq, Repr

/-- What a skipping scan does next. -/
inductive Skipping where
  /-- A value is next, inside these brackets, the innermost first. -/
  | value (opened : List Bracket)
  /-- A value of the innermost bracket has ended. -/
  | afterValue (opened : List Bracket)
  /-- A bracket has just been opened. -/
  | afterOpening (bracket : Bracket) (outer : List Bracket)

/-- In front of a value of the innermost bracket: in an object the key comes first. -/
def ignoredKey (opened : List Bracket) : Scan Skipping := do
  match opened with
  | .object :: _ =>
    match ← next? with
    | some '"' => skip
    | some _ => refuse .keyNotString 1
    | none => refuse .unendedObject 0
    ignoredString
    colon
    pure (.value opened)
  | _ => pure (.value opened)

/-- The fault of a text that ends inside a bracket. -/
def Bracket.unended : Bracket → TextFault
  | .array => .unendedArray
  | .object => .unendedObject

/-- The fault of a value that is followed by neither comma nor closing bracket. -/
def Bracket.expectedComma : Bracket → TextFault
  | .array => .expectedCommaOrBracket
  | .object => .expectedCommaOrBrace

/-- The character that closes a bracket. -/
def Bracket.closing : Bracket → Char
  | .array => ']'
  | .object => '\x7d'

/-- One step of skipping a value, none when the value has ended. -/
def ignoredStep : Skipping → Scan (Option Skipping)
  | .value opened => do
    match ← next? with
    | none => refuse .unendedValue 0
    | some 'n' => skip; word ['u', 'l', 'l']; pure (some (.afterValue opened))
    | some 't' => skip; word ['r', 'u', 'e']; pure (some (.afterValue opened))
    | some 'f' => skip; word ['a', 'l', 's', 'e']; pure (some (.afterValue opened))
    | some '"' => skip; ignoredString; pure (some (.afterValue opened))
    | some '-' => skip; ignoredNumber; pure (some (.afterValue opened))
    | some '[' => skip; pure (some (.afterOpening .array opened))
    | some '\x7b' => skip; pure (some (.afterOpening .object opened))
    | some c =>
      if isDigit c then
        ignoredNumber
        pure (some (.afterValue opened))
      else refuse .expectedValue 1
  | .afterValue [] => pure none
  | .afterValue (bracket :: outer) => do
    match ← next? with
    | none => refuse bracket.unended 0
    | some c =>
      if c = ',' then
        skip
        some <$> ignoredKey (bracket :: outer)
      else if c = bracket.closing then
        skip
        pure (some (.afterValue outer))
      else refuse bracket.expectedComma 1
  | .afterOpening bracket outer => do
    match ← next? with
    | none => refuse bracket.unended 0
    | some c =>
      if c = bracket.closing then
        skip
        pure (some (.afterValue outer))
      else some <$> ignoredKey (bracket :: outer)

/-- Skips until the value has ended, with a bound on the number of steps. -/
def ignoredFrom : Nat → Skipping → Scan Unit
  | 0, _ => pure ()
  | fuel + 1, state => fun cs =>
    match ignoredStep state cs with
    | .ok (none, rest) => .ok ((), rest)
    | .ok (some state, rest) => ignoredFrom fuel state rest
    | .error fault => .error fault

/-- Skips a value of any kind and depth. -/
def ignored : Scan Unit := fun cs => ignoredFrom (2 * cs.length + 2) (.value []) cs

/-! ## Documents -/

/-- Nothing but white space up to the end of the text. -/
def finished : Scan Unit := do
  match ← next? with
  | none => pure ()
  | some _ => refuse .trailingText 1

/-- A whole text. -/
def document (scan : Scan α) (text : String) : Except Fault α :=
  match (do let a ← scan; finished; pure a : Scan α) text.toList with
  | .ok (a, _) => .ok a
  | .error fault => .error fault

end Scan

/-- The wording of a fault with its place in the document. -/
def Fault.message (document : String) (fault : Fault) : String :=
  match fault.mark with
  | none => fault.cause.message
  | some mark =>
    let position := mark.locate document.toList
    fault.cause.message ++ " at line " ++ Nat.repr position.line
      ++ " column " ++ Nat.repr position.column

/-- The value of a text, with every object sorted by key. -/
def Json.parse (text : String) : Except Fault Json :=
  (Scan.document (Scan.tree Scan.maxDepth) text).map Json.normalize

/-- Whether a text is a JSON text. -/
def Json.IsText (text : String) : Prop :=
  ∃ value, Json.parse text = .ok value

end Courier
