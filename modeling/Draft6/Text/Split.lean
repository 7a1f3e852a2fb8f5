/-!
# Splitting a text

A mark cuts a text into parts. A text without the mark is one part, so there is always at least one.
-/

namespace Draft6

namespace Text

/-- The parts of a text between the places of a mark. -/
def split (mark : Char) : List Char → List (List Char)
  | [] => [[]]
  | c :: rest =>
    if c = mark then [] :: split mark rest
    else match split mark rest with
      | [] => [[c]]
      | part :: parts => (c :: part) :: parts

/-- The text before the first place of a mark, and the text after it if there is one. -/
def cut (mark : Char) : List Char → List Char × Option (List Char)
  | [] => ([], none)
  | c :: rest =>
    if c = mark then ([], some rest)
    else let (before, after?) := cut mark rest; (c :: before, after?)

end Text

end Draft6
