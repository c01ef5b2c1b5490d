/-!
# Splitting at a mark

A text in pieces, cut at every occurrence of a character. There is one piece more than there are
marks, so two marks side by side have an empty piece between them.
-/

namespace Courier.Text

/-- The pieces of a text between the occurrences of a mark. -/
def split (mark : Char) : List Char → List (List Char)
  | [] => [[]]
  | c :: rest =>
    if c = mark then [] :: split mark rest
    else
      match split mark rest with
      | [] => [[c]]
      | piece :: pieces => (c :: piece) :: pieces

end Courier.Text
