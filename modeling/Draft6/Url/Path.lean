import Draft6.Text.Split
import Draft6.Url

/-!
# Paths of URLs

A path is written segment by segment after what is written already. A dot segment adds nothing, and
a double dot segment takes the last segment away, except that a drive letter of the file scheme
stays where it is. The file scheme writes a drive letter in front with a colon and has no empty
segments in front.

Tabs and ends of line do not count, but a drive letter is found only in front of one, or of a slash.
While a path is written it is held with its last character first.
-/

namespace Draft6

namespace Url

/-- Whether a character separates segments. -/
def Kind.isSlash (kind : Kind) (c : Char) : Bool := c = '/' || (kind.isSpecial && c = '\\')

/-- Whether a character is a tab or ends a line. -/
def isBreak (c : Char) : Bool := c = '\t' || c = '\n' || c = '\r'

/-- A text without tabs and ends of line. -/
def withoutBreaks (cs : List Char) : List Char := cs.filter fun c => !isBreak c

namespace Path

/-- Whether a segment is a letter and a colon or bar. -/
def isDrive : List Char → Bool
  | [letter, mark] => letter.isAlpha && (mark = ':' || mark = '|')
  | _ => false

/-- Whether a segment is a letter and a colon. -/
def isNormalDrive : List Char → Bool
  | [letter, mark] => letter.isAlpha && mark = ':'
  | _ => false

/-- Whether a text begins with a drive letter that is a segment of its own. -/
def startsWithDrive : List Char → Bool
  | [letter, mark] => isDrive [letter, mark]
  | letter :: mark :: next :: _ => isDrive [letter, mark] && ['/', '\\'].contains next
  | _ => false

/-- Read the dots of a segment, each of them also in its written form. -/
def dots? : List Char → Option Nat
  | [] => some 0
  | '.' :: rest => (dots? rest).map (· + 1)
  | '%' :: '2' :: e :: rest => if e = 'e' ∨ e = 'E' then (dots? rest).map (· + 1) else none
  | _ => none

/-- Whether a path is nothing but a letter and a colon after its first character. -/
def isOnlyDrive : (path : List Char) → Bool
  | [':', letter, _] => letter.isAlpha
  | _ => false

/-- The path up to its last slash, unless the file scheme has a drive letter there. -/
def shorten (kind : Kind) (path : List Char) : List Char :=
  if kind = .file ∧ isNormalDrive (path.takeWhile (· ≠ '/')).reverse then path
  else path.dropWhile (· ≠ '/')

/-- The path without the slash at its end. The first slash stays, and so does one after a drive
letter. -/
def dropSlash : (path : List Char) → List Char
  | '/' :: path =>
    if path.contains '/' ∧ startsWithDrive (path.takeWhile (· ≠ '/')).reverse = false then path
    else '/' :: path
  | path => path

/-- The path with a slash at its end. -/
def withSlash (path : List Char) : List Char :=
  if path.head? = some '/' then path else '/' :: path

/-- A segment without breaks, and the path in front of it. Where a path of the file scheme is
nothing but a drive letter so far, a slash comes before the next character; what stands between two
breaks is looked at as a whole. `read` is the segment so far and `current` what follows its last
break, both with the last character first. -/
def settle (kind : Kind) (path read current : List Char) : List Char → List Char × List Char
  | [] => (path, (current ++ read).reverse)
  | c :: rest =>
    if isBreak c then settle kind path (current ++ read) [] rest
    else if kind = .file ∧ isOnlyDrive (read ++ path) then
      let read := '/' :: (current ++ read)
      settle kind (read.drop (read.length - 1) ++ path) read.dropLast [c] rest
    else settle kind path read (c :: current) rest

/-- A path under way, and whether a drive letter came to stand in front. -/
structure State where
  path : List Char
  hasDrive : Bool

/-- Write one segment. -/
def place (kind : Kind) (s : State) (segment : List Char) (isLast : Bool) : State :=
  let (path, raw) := settle kind s.path [] [] segment
  let text := Percent.encode pathSet raw
  let close (path : List Char) : List Char := if isLast then path else '/' :: path
  match dots? text, kind, path, text with
  | some 1, _, _, _ => { s with path := withSlash path }
  | some 2, _, _, _ =>
    let path := shorten kind (dropSlash path)
    { s with path := if isLast then path else withSlash path }
  | _, .file, [_], [letter, _] =>
    if isDrive text then ⟨close (':' :: letter :: path), true⟩
    else { s with path := close (text.reverse ++ path) }
  | _, _, _, _ => { s with path := close (text.reverse ++ path) }

/-- Write segments. -/
def placeAll (kind : Kind) (s : State) : List (List Char) → State
  | [] => s
  | segment :: rest => placeAll kind (place kind s segment rest.isEmpty) rest

/-- The segments of a text. -/
def segments (kind : Kind) (cs : List Char) : List (List Char) :=
  Text.split '/' (cs.map fun c => if kind.isSlash c then '/' else c)

/-- A path that is read. -/
structure Read where
  text : String
  /-- Whether it begins with a drive letter, in front of which there can be no host. -/
  hasDrive : Bool

/-- The path that a text makes after another path. -/
def read (kind : Kind) (start : String) (cs : List Char) : Read :=
  let s := placeAll kind ⟨start.toList.reverse, false⟩ (segments kind cs)
  let path := s.path.reverse
  ⟨String.ofList (if kind = .file then '/' :: path.dropWhile (· = '/') else path), s.hasDrive⟩

/-- Where a relative path begins: the path without its last segment. -/
def folder (kind : Kind) (path : String) : String :=
  String.ofList (shorten kind path.toList.reverse).reverse

/-- The drive letter that a path begins with. -/
def drive? (path : String) : Option String :=
  let first := (path.toList.drop 1).takeWhile (· ≠ '/')
  if isNormalDrive first then some (String.ofList first) else none

end Path

end Url

end Draft6
