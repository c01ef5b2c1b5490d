import Courier.Settings.Environment
import Courier.Text.Alphanumeric
import Courier.Text.Blank
import Courier.Text.Digit

/-!
# Files of variables

A file with a variable on each line: a name, an equals sign and a value. It is read in two steps.
First it is cut into logical lines: a line goes on with the next one inside quotes or behind a
backslash, and ends early where a comment starts. Then each line is an assignment or nothing.

A value may have parts in single quotes, taken as they are, and in double quotes, and outside single
quotes the values of other variables can be inserted. Reading stops at the first line that is
neither; the assignments before it hold. A variable that the environment has already is not changed.
-/

namespace Courier.Dotenv

/-! ## Logical lines -/

/-- Where a cut into logical lines stands. -/
inductive LineState where
  | complete
  | blank
  | escape
  | strong
  | strongEscape
  | weak
  | weakEscape
  deriving DecidableEq, Repr

/-- What opens behind a character that is not inside quotes. -/
def LineState.opened (c : Char) : LineState :=
  if c = '\\' then .escape else if c = '"' then .weak else if c = '\'' then .strong else .complete

/-- The state behind a character; none where a comment starts. -/
def LineState.next (state : LineState) (c : Char) : Option LineState :=
  match state with
  | .blank => if c = '#' then none else some (.opened c)
  | .complete =>
    if Text.isBlank c && c ≠ '\n' && c ≠ '\r' then some .blank else some (.opened c)
  | .escape => some .complete
  | .weak => some (if c = '\\' then .weakEscape else if c = '"' then .complete else .weak)
  | .weakEscape => some .weak
  | .strong => some (if c = '\\' then .strongEscape else if c = '\'' then .complete else .strong)
  | .strongEscape => some .strong

/-- Runs over a line: the state behind it, or the part of it in front of a comment. -/
def LineState.run (state : LineState) (done : List Char) : List Char → Sum LineState (List Char)
  | [] => .inl state
  | c :: rest =>
    match state.next c with
    | none => .inr done.reverse
    | some state => state.run (c :: done) rest

/-- The lines of a text, each with the line end it has. -/
def physicalLines : List Char → List (List Char)
  | [] => []
  | c :: rest =>
    if c = '\n' then [c] :: physicalLines rest
    else
      match physicalLines rest with
      | [] => [[c]]
      | line :: lines => (c :: line) :: lines

/-- A line without its line end. -/
def chomp (line : List Char) : List Char :=
  match line.reverse with
  | '\n' :: '\r' :: rest => rest.reverse
  | '\n' :: rest => rest.reverse
  | _ => line

/-- The logical lines; none stands for a last line that is not complete. -/
def logicalLines (buffer : List Char) (state : LineState) :
    List (List Char) → List (Option (List Char))
  | [] => if state = .complete then [] else [none]
  | line :: rest =>
    let joined := buffer ++ line
    if (Text.trimStart joined).head? = some '#' then logicalLines [] .complete rest
    else
      match state.run [] line with
      | .inr kept => some (buffer ++ kept) :: logicalLines [] .complete rest
      | .inl .complete => some (chomp joined) :: logicalLines [] .complete rest
      | .inl state => logicalLines joined state rest

/-! ## Values -/

/-- What has been read of a value. `weak` says whether double quotes are open. -/
inductive ValueState where
  | free (weak : Bool)
  | strong
  /-- Behind a backslash. -/
  | escaped (weak : Bool)
  /-- Behind a blank that ended the value. -/
  | ended
  /-- In the name of a variable to insert, in braces or not; the name is in reverse. -/
  | name (weak braced : Bool) (done : List Char)
  deriving DecidableEq, Repr

/-- The characters that may stand behind a backslash, with what they stand for. -/
def escaped? (c : Char) : Option Char :=
  if c = 'n' then some '\n'
  else if ['\\', '\'', '"', '$', ' '].contains c then some c
  else none

/-- The characters of a value, with what inserts a variable; none if it is no value. -/
def valueFrom (insert : String → List Char) : ValueState → List Char → Option (List Char)
  | .free weak, [] => if weak then none else some []
  | .strong, [] => none
  | .escaped weak, [] => if weak then none else some []
  | .ended, [] => some []
  | .name weak braced done, [] =>
    if weak || braced then none else some (insert (String.ofList done.reverse))
  | .ended, c :: rest =>
    if c = ' ' || c = '\t' then valueFrom insert .ended rest
    else if c = '#' then some []
    else none
  | .escaped weak, c :: rest =>
    match escaped? c with
    | none => none
    | some c => (valueFrom insert (.free weak) rest).map (c :: ·)
  | .strong, c :: rest =>
    if c = '\'' then valueFrom insert (.free false) rest
    else (valueFrom insert .strong rest).map (c :: ·)
  | .name weak braced done, c :: rest =>
    if Text.isAlphanumeric c then valueFrom insert (.name weak braced (c :: done)) rest
    else if braced then
      if c = '\x7d' then
        (valueFrom insert (.free weak) rest).map (insert (String.ofList done.reverse) ++ ·)
      else valueFrom insert (.name weak true (c :: done)) rest
    else if c = '\x7b' && done.isEmpty then valueFrom insert (.name weak true []) rest
    else if c = '$' then
      (valueFrom insert (.name weak false []) rest).map (insert (String.ofList done.reverse) ++ ·)
    else
      (valueFrom insert (.free weak) rest).map (insert (String.ofList done.reverse) ++ c :: ·)
  | .free weak, c :: rest =>
    if c = '$' then valueFrom insert (.name weak false []) rest
    else if c = '\\' then valueFrom insert (.escaped weak) rest
    else if c = '"' then valueFrom insert (.free !weak) rest
    else if weak then (valueFrom insert (.free true) rest).map (c :: ·)
    else if c = '\'' then valueFrom insert .strong rest
    else if c = ' ' || c = '\t' then valueFrom insert .ended rest
    else (valueFrom insert (.free false) rest).map (c :: ·)

/-! ## Assignments -/

/-- Whether a name can start with a character. -/
def startsName (c : Char) : Bool := c.isAlpha || c = '_'

/-- Whether a name can go on with a character. -/
def inName (c : Char) : Bool := c.isAlphanum || c = '_' || c = '.'

/-- The name in front of a line, and the line behind it and its blanks. -/
def name? (line : List Char) : Option (String × List Char) :=
  if line.head?.any startsName then
    some (String.ofList (line.takeWhile inName), Text.trimStart (line.dropWhile inName))
  else none

/-- The line behind an equals sign and its blanks. -/
def equals? : List Char → Option (List Char)
  | '=' :: rest => some (Text.trimStart rest)
  | _ => none

/-- The name of an assignment and the text of its value. The word `export` may stand in front. -/
def target? (line : List Char) : Option (String × List Char) := do
  let (name, rest) ← name? line
  match equals? rest with
  | some value => some (name, value)
  | none =>
    if name = "export" then do
      let (name, rest) ← name? rest
      let value ← equals? rest
      some (name, value)
    else none

/-- The assignment of a line. The outer value is none if the line is neither an assignment nor
nothing; the inner one is none if it is nothing. -/
def assignment? (insert : String → List Char) (line : List Char) :
    Option (Option (String × String)) :=
  let line := Text.trimStart (Text.trimEnd line)
  if line.isEmpty || line.head? = some '#' then some none
  else do
    let (name, text) ← target? line
    if text.isEmpty || text.head? = some '#' then some (some (name, ""))
    else do
      let value ← valueFrom insert (.free false) text
      some (some (name, String.ofList value))

/-! ## Files -/

/-- What a name inserts: the value in the environment, or else the one assigned earlier in the
file. -/
def inserted (environment assigned : Environment) (name : String) : List Char :=
  match environment.get? name, assigned.get? name with
  | some value, _ => value.toList
  | none, some value => value.toList
  | none, none => []

/-- Adds the assignments of lines to the environment, up to the first line that is none. -/
def loadLines (environment assigned : Environment) : List (Option (List Char)) → Environment
  | [] => environment
  | none :: _ => environment
  | some line :: rest =>
    match assignment? (inserted environment assigned) line with
    | none => environment
    | some none => loadLines environment assigned rest
    | some (some (name, value)) =>
      loadLines (environment.setNew name value) ((name, value) :: assigned) rest

/-- The mark that a file may start with to show how it is encoded. -/
def byteOrderMark : Char := Char.ofNat 0xFEFF

/-- Adds the assignments of a file to the environment. -/
def load (contents : String) (environment : Environment) : Environment :=
  let cs := contents.toList
  let cs := if cs.head? = some byteOrderMark then cs.drop 1 else cs
  loadLines environment [] (logicalLines [] .complete (physicalLines cs))

end Courier.Dotenv
