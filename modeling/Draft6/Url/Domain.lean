import Draft6.Text.Split
import Draft6.Unicode.Composed
import Draft6.Unicode.Direction
import Draft6.Unicode.HostMapping
import Draft6.Unicode.Joining
import Draft6.Url.Punycode

/-!
# Domain names

A domain name is made of labels with dots between them. It is brought into one form, in which the
labels have to keep some rules: about what may stand in them, about marks and joiners, and about
writing directions. Labels with characters outside ASCII are then written in ASCII.
-/

namespace Draft6

namespace Url

namespace Domain

open Unicode (Direction)

/-- What a domain name may not hold. -/
def isForbidden (c : Char) : Bool :=
  c.toNat ≤ 0x20 || c.toNat = 0x7F ||
    ['%', '#', '/', ':', '<', '>', '?', '@', '[', '\\', ']', '^', '|'].contains c

/-- The one form of a name, unless it holds what is not allowed. -/
def normal? (cs : List Char) : Option (List Char) := do
  let codes ← cs.mapM fun c => Unicode.HostMapping.map? c.toNat
  let normal := (Unicode.Composed.ofCodes codes.flatten).map Char.ofNat
  if normal.any isForbidden then failure else pure normal

/-- What stands in front of a label that is written in ASCII. -/
def asciiPrefix : List Char := "xn--".toList

/-- Whether all characters are in ASCII. -/
def isAscii (cs : List Char) : Bool := cs.all fun c => c.toNat < 0x80

/-- How long a label may be that has to be read. -/
def maxWritten : Nat := 2000

/-- How long a label may be that has to be written. -/
def maxLength : Nat := 1000

/-- The label that a written label stands for. Both have to be in their one form. -/
def read? (label : List Char) : Option (List Char) :=
  if asciiPrefix.isPrefixOf label then do
    let written := label.drop asciiPrefix.length
    if isAscii written = false ∨ written.getLast?.getD '-' = '-' ∨ maxWritten < written.length then
      failure
    let text ← Punycode.decode? written
    if normal? text = some text ∧ asciiPrefix.isPrefixOf text = false then pure text else failure
  else some label

/-- Whether a character is a mark. -/
def isMark (c : Char) : Bool :=
  match Unicode.Category.of c.toNat with
  | .nonspacingMark | .spacingMark | .enclosingMark => true
  | _ => false

/-- Whether the nearest character that joining does not look through passes a test. -/
def nearestJoins (test : Nat → Bool) (cs : List Char) : Bool :=
  match cs.dropWhile fun c => !test c.toNat && Unicode.Joining.isTransparent c.toNat with
  | c :: _ => test c.toNat
  | [] => false

/-- The class of the marks that take the vowel from a consonant. -/
def viramaClass : Nat := 9

/-- Whether joiners stand only where they make a difference: after a mark that takes a vowel away,
or, for the one that keeps letters apart, between letters that join. `before` are the characters in
front, the last one first. -/
def joinersFit (before : List Char) : List Char → Bool
  | [] => true
  | c :: rest =>
    let afterVirama :=
      before.head?.map (fun c => Unicode.Composed.classOf c.toNat) = some viramaClass
    let fits := match c with
      | '\u200D' => afterVirama
      | '\u200C' => afterVirama ||
          (nearestJoins Unicode.Joining.joinsNext before &&
            nearestJoins Unicode.Joining.joinsPrevious rest)
      | _ => true
    fits && joinersFit (c :: before) rest

/-- Whether a label outside ASCII keeps the rules about marks and joiners. -/
def isWellFormed (label : List Char) : Bool :=
  isAscii label ||
    (label.length ≤ maxLength && !(label.head?.map isMark).getD false && joinersFit [] label)

/-- The class of a character for the order on a line. -/
def direction (c : Char) : Direction := Direction.of c.toNat

/-- Whether a label is written from left to right without characters that go the other way. -/
def isLeftToRight (inner : List Direction) (last : Direction) : Bool :=
  [.leftToRight, .europeanNumber].contains last &&
    inner.all [.leftToRight, .europeanNumber, .europeanSeparator, .commonSeparator,
      .europeanTerminator, .otherNeutral, .boundaryNeutral, .nonspacingMark].contains

/-- Whether a label is written from right to left, with numbers of one kind. -/
def isRightToLeft (inner : List Direction) (last : Direction) : Bool :=
  let all := last :: inner
  [.rightToLeft, .arabicLetter, .arabicNumber, .europeanNumber].contains last &&
    inner.all [.rightToLeft, .arabicLetter, .arabicNumber, .europeanNumber, .europeanSeparator,
      .commonSeparator, .europeanTerminator, .otherNeutral, .boundaryNeutral,
      .nonspacingMark].contains &&
    !(all.contains .arabicNumber && all.contains .europeanNumber)

/-- Whether the characters of a label keep one direction. Marks at the end do not count. -/
def keepsDirection (label : List Char) : Bool :=
  match label.map direction with
  | [] => true
  | first :: rest =>
    let inside := rest.reverse.dropWhile (· = .nonspacingMark)
    match first, inside with
    | .leftToRight, [] | .rightToLeft, [] | .arabicLetter, [] => true
    | .leftToRight, last :: inner => isLeftToRight inner last
    | .rightToLeft, last :: inner | .arabicLetter, last :: inner => isRightToLeft inner last
    | _, _ => false

/-- Whether some character is written from right to left. -/
def hasRightToLeft (cs : List Char) : Bool :=
  cs.any fun c => [.rightToLeft, .arabicLetter, .arabicNumber].contains (direction c)

/-- A label in ASCII. -/
def written (label : List Char) : List Char :=
  if isAscii label then label else asciiPrefix ++ Punycode.encode label

/-- Whether a name is in its one form as it stands: its characters are small letters, digits and
hyphens of ASCII, and none of its labels is written. -/
def isPlain (cs : List Char) : Bool :=
  cs.all (fun c => c.isLower || c.isDigit || c = '-' || c = '.') &&
    (Text.split '.' cs).all fun label => !asciiPrefix.isPrefixOf label

/-- A domain name in its one form, in ASCII. Where a character is written from right to left, all
labels have to keep one direction each. -/
def ascii? (cs : List Char) : Option (List Char) :=
  if isPlain cs then some cs
  else do
    let labels ← (Text.split '.' (← normal? cs)).mapM read?
    if labels.all isWellFormed ∧
        (labels.any hasRightToLeft = false ∨ labels.all keepsDirection) then
      pure (List.intercalate ['.'] (labels.map written))
    else failure

end Domain

end Url

end Draft6
