import Courier.Settings.FileTree
import Courier.Settings.Layer

/-!
# Documents of settings

A configuration file is a document in one of several formats, and the ending of its name says in
which. A path may name the file with its ending or without it. Without it the endings of all formats
are tried, and the first file that is there is taken.

JSON is the one format whose reader is given here. The others are parameters: a format is known by
its endings and by the layer that a document in it stands for, and everything that is said of formats
holds for any list of them. The order of the list is the order in which they are tried, and the
service does not fix that order either.
-/

namespace Courier

/-- A format of documents. -/
structure DocumentFormat where
  /-- The endings of its files, without the point. -/
  endings : List String
  /-- The layer of a document; none if the text is no document of settings in this format. -/
  layer? : String → Option (List (String × ConfigValue))

namespace DocumentFormat

/-- JSON. -/
def json : DocumentFormat where
  endings := ["json"]
  layer? := ConfigValue.layerOfText?

/-- A name with an ending behind it. -/
def withEnding (name ending : String) : String :=
  name ++ "." ++ ending

/-- Whether a name ends in a point and an ending. These alone are no such name. -/
def hasEnding (name ending : String) : Bool :=
  name ≠ withEnding "" ending && name.endsWith (withEnding "" ending)

/-- The format of a file with a name. -/
def ofName? (formats : List DocumentFormat) (name : String) : Option DocumentFormat :=
  formats.find? fun format => format.endings.any (hasEnding name)

end DocumentFormat

namespace Settings

open DocumentFormat

/-- The file whose name is a name and the ending of a format, the first of them that is there. -/
def fileWithEnding? (formats : List DocumentFormat) (files : Files) (name : String)
    (directory : Files.Place) : Option (DocumentFormat × String) :=
  formats.findSome? fun format => format.endings.findSome? fun ending =>
    (Files.contentsAt? files (withEnding name ending :: directory)).map fun text => (format, text)

/-- The document that a path of a configuration file leads to, with its format: by its own name, or
by its name with an ending. A file of the very name is taken even if its name has the ending of no
format, and then there is no document. -/
def document? (formats : List DocumentFormat) (files : Files) (path : String) :
    Option (DocumentFormat × String) :=
  if Files.endsUpward path then none
  else
    match Files.locate? files path with
    | none | some [] => none
    | some (name :: directory) =>
      let exact :=
        if Files.meansDirectory path then none else Files.contentsAt? files (name :: directory)
      match exact with
      | some text => (ofName? formats name).map fun format => (format, text)
      | none => fileWithEnding? formats files name directory

/-- The layer of a configuration file. A file that is not there is an empty layer; one that is no
document of settings is an error. -/
def fileLayer? (formats : List DocumentFormat) (files : Files) (path : String) :
    Option (List (String × ConfigValue)) :=
  match document? formats files path with
  | some (format, text) => format.layer? text
  | none => some []

end Settings

end Courier
