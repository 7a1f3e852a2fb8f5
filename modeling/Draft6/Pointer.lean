import Draft6.Json
import Draft6.Text.Percent
import Draft6.Text.Split

/-!
# JSON pointers

A pointer is a list of member names and array positions that leads from a value to a part of it.
Its text puts a slash before every segment, and writes `~` as `~0` and `/` as `~1` inside one. A URI
fragment holds the same text with bytes written by percent signs.
-/

namespace Draft6

/-- A pointer, as its plain segments. -/
structure Pointer where
  segments : List String
deriving DecidableEq, Repr

namespace Pointer

/-- The pointer to the whole value. -/
def root : Pointer := ⟨[]⟩

instance : Inhabited Pointer := ⟨root⟩

/-- The pointer with one more segment. -/
def join (p : Pointer) (segment : String) : Pointer := ⟨p.segments ++ [segment]⟩

/-- The first pointer followed by the second. -/
def append (p q : Pointer) : Pointer := ⟨p.segments ++ q.segments⟩

instance : Append Pointer := ⟨append⟩

/-- Whether the pointer leads to the whole value. -/
def isRoot (p : Pointer) : Bool := p.segments.isEmpty

/-- The number of segments. -/
def length (p : Pointer) : Nat := p.segments.length

/-- The last segment, and the pointer without it. -/
def pop? (p : Pointer) : Option (String × Pointer) :=
  p.segments.getLast?.map fun last => (last, ⟨p.segments.dropLast⟩)

/-- How one character stands in a segment of the text. -/
def escapeChar (c : Char) : List Char :=
  if c = '~' then ['~', '0'] else if c = '/' then ['~', '1'] else [c]

/-- How a segment stands in the text. -/
def escape (segment : String) : String := String.ofList (segment.toList.flatMap escapeChar)

/-- Replace every pair of characters by one, from left to right. -/
def replacePair (first second replaced : Char) : List Char → List Char
  | [] => []
  | [c] => [c]
  | c :: d :: rest =>
    if c = first ∧ d = second then replaced :: replacePair first second replaced rest
    else c :: replacePair first second replaced (d :: rest)

/-- The segment that a part of the text stands for: first `~1` is read, then `~0`. -/
def unescape (segment : String) : String :=
  String.ofList (replacePair '~' '0' '~' (replacePair '~' '1' '/' segment.toList))

/-- The text of a pointer. -/
def text (p : Pointer) : String := String.join (p.segments.map fun s => "/" ++ escape s)

/-- The pointer that a text stands for; there is none when the text starts with another character
than a slash. -/
def parse? (s : String) : Option Pointer :=
  match s.toList with
  | [] => some root
  | '/' :: rest => some ⟨(Text.split '/' rest).map fun part => unescape (String.ofList part)⟩
  | _ => none

/-- The text that a URI fragment stands for. -/
def decodeFragment (fragment : String) : String := String.ofList (Percent.decode fragment.toList)

/-- The pointer that a URI fragment stands for. -/
def ofFragment? (fragment : String) : Option Pointer := parse? (decodeFragment fragment)

/-- The array position that a segment names: decimal digits, perhaps after a plus sign, and no zero
in front of the others. -/
def index? (segment : String) : Option Nat :=
  let digits? (cs : List Char) : Option Nat :=
    if cs ≠ [] ∧ cs.all Char.isDigit then
      some (cs.foldl (fun n c => 10 * n + (c.toNat - '0'.toNat)) 0)
    else none
  match segment.toList with
  | '0' :: _ :: _ => none
  | '+' :: rest => digits? rest
  | cs => digits? cs

/-- The member or element of a value that a segment names. -/
def child? (segment : String) : Json → Option Json
  | .object members => members.lookup segment
  | .array items => (index? segment).bind fun i => items[i]?
  | _ => none

/-- Follow segments from a value. -/
def follow? : List String → Json → Option Json
  | [], value => some value
  | segment :: rest, value => (child? segment value).bind (follow? rest)

/-- The part of a value that a pointer leads to. -/
def lookup? (p : Pointer) (value : Json) : Option Json := follow? p.segments value

/-- Order of segment lists, first difference first. -/
def compareSegments : List String → List String → Ordering
  | [], [] => .eq
  | [], _ :: _ => .lt
  | _ :: _, [] => .gt
  | a :: as, b :: bs => (Ord.compare a b).then (compareSegments as bs)

/-- Order of pointers, first different segment first. -/
def compare (p q : Pointer) : Ordering := compareSegments p.segments q.segments

end Pointer

end Draft6
