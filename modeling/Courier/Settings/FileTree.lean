import Courier.Text.Split

/-!
# Files by path

Files are given by their paths from the working directory, and a path leads through directories to
one of them. An empty step and the step `.` lead nowhere, and the step `..` leads to the directory
above, so a file has many paths but one place. A path leads to its place only if every directory on
its way is there, and the directories that are there are those on the ways of the files. Nothing
outside the working directory can be reached.
-/

namespace Courier

/-- Files by path, with their contents. -/
abbrev Files := List (String × String)

namespace Files

/-! ## Steps -/

/-- What separates the steps of a path. -/
def separator : Char := '/'

/-- The step to the directory itself. -/
def stepHere : String := "."

/-- The step to the directory above. -/
def stepUp : String := ".."

/-- The pieces of a path between separators. -/
def pieces (path : String) : List String :=
  (Text.split separator path.toList).map String.ofList

/-- The steps of a path that lead somewhere. -/
def steps (path : String) : List String :=
  (pieces path).filter fun piece => piece ≠ "" ∧ piece ≠ stepHere

/-- Whether a path ends in a piece that leads nowhere, so that only a directory can be meant. -/
def meansDirectory (path : String) : Bool :=
  (pieces path).getLast?.any fun piece => piece = "" ∨ piece = stepHere

/-- Whether a path ends in the step to the directory above, so that it gives its end no name. -/
def endsUpward (path : String) : Bool :=
  (steps path).getLast? = some stepUp

/-! ## Places -/

/-- A place in the tree of files: the names on the straight way to it, the last one first. -/
abbrev Place := List String

/-- The place of the working directory. -/
def root : Place := []

/-- The place that one more step leads to; none if it leads out of the working directory. -/
def move? (place : Place) (step : String) : Option Place :=
  if step = stepUp then
    match place with
    | [] => none
    | _ :: above => some above
  else some (step :: place)

/-- The places that steps lead to, one after the other. -/
def walk? (place : Place) : List String → Option (List Place)
  | [] => some []
  | step :: rest => do
    let next ← move? place step
    let places ← walk? next rest
    some (next :: places)

/-- The places on the way of a path, its own place last. -/
def way (path : String) : List Place :=
  (walk? root (steps path)).getD []

/-! ## Finding files -/

/-- The directories that are there. -/
def directories (files : Files) : List Place :=
  root :: files.flatMap fun file => (way file.1).dropLast

/-- The place that a path leads to. -/
def locate? (files : Files) (path : String) : Option Place :=
  if (way path).dropLast.all (directories files).contains then (way path).getLast? else none

/-- The contents of the file at a place. Of several paths to one place the last one counts. -/
def contentsAt? (files : Files) (place : Place) : Option String :=
  (files.reverse.find? fun file => (way file.1).getLast? = some place).map Prod.snd

end Files

end Courier
