import Draft6.Text.Hex

/-!
# Sets of code points

A set is a list of ranges in ascending order, with at least one code point between two of them. The
operations keep this form, so that equal sets have equal ranges. Where a bound has to move to a
neighbour it skips the surrogates, which are no characters.

Tables are written as lines of blank separated entries: `41-5a` is a range and `5f` a range of one.
-/

namespace Draft6

namespace Unicode

/-- The last code point. -/
def lastCode : Nat := 0x10FFFF

/-- The next code point that is not a surrogate. -/
def codeAfter (code : Nat) : Nat := if code = 0xD7FF then 0xE000 else code + 1

/-- The previous code point that is not a surrogate. -/
def codeBefore (code : Nat) : Nat := if code = 0xE000 then 0xD7FF else code - 1

/-- The entries of a table. -/
def entries (lines : List String) : List (List Char) :=
  (lines.flatMap fun line => line.splitOn " ").map String.toList

/-- Whether a character may stand in the code point of an entry. -/
def isCodeDigit (c : Char) : Bool := c.isDigit || ('a' ≤ c && c ≤ 'f')

/-- The code point in front of an entry. -/
def entryCode (entry : List Char) : Nat := (Hex.number? (entry.takeWhile isCodeDigit)).getD 0

/-- A set of code points, as ranges with both ends in the set. -/
structure Ranges where
  bounds : List (Nat × Nat)
deriving DecidableEq, Repr

namespace Ranges

/-- No code point. -/
def empty : Ranges := ⟨[]⟩

/-- The code points from one to another. -/
def between (first last : Nat) : Ranges := ⟨[(first, last)]⟩

/-- One code point. -/
def single (code : Nat) : Ranges := ⟨[(code, code)]⟩

/-- Every code point. -/
def all : Ranges := between 0 lastCode

/-- Whether there is no code point in the set. -/
def isEmpty (r : Ranges) : Bool := r.bounds.isEmpty

/-- Whether a code point lies in one of some ranges. -/
def containsIn (code : Nat) : List (Nat × Nat) → Bool
  | [] => false
  | (first, last) :: rest => first ≤ code && (code ≤ last || containsIn code rest)

/-- Whether a code point is in the set. -/
def contains (r : Ranges) (code : Nat) : Bool := containsIn code r.bounds

/-- Join ranges in the order of their first code points where they overlap or touch. `current` is
the range under way. -/
def coalesceFrom (current : Nat × Nat) : List (Nat × Nat) → List (Nat × Nat)
  | [] => [current]
  | next :: rest =>
    if next.1 ≤ current.2 + 1 then coalesceFrom (current.1, max current.2 next.2) rest
    else current :: coalesceFrom next rest

/-- Join ranges in the order of their first code points where they overlap or touch. -/
def coalesce : List (Nat × Nat) → List (Nat × Nat)
  | [] => []
  | first :: rest => coalesceFrom first rest

/-- The set of some ranges in any order. -/
def ofList (ranges : List (Nat × Nat)) : Ranges :=
  ⟨coalesce (ranges.mergeSort fun a b => a.1 ≤ b.1)⟩

/-- The range that an entry stands for. -/
def ofEntry (entry : List Char) : Nat × Nat :=
  match entry.dropWhile isCodeDigit with
  | '-' :: last => (entryCode entry, entryCode last)
  | _ => (entryCode entry, entryCode entry)

/-- The set that a table stands for. -/
def ofLines (lines : List String) : Ranges := ofList ((entries lines).map ofEntry)

/-- The code points in either set. -/
def union (r s : Ranges) : Ranges := ⟨coalesce (r.bounds.merge s.bounds fun a b => a.1 ≤ b.1)⟩

/-- The code points in any of some sets. -/
def unionAll (sets : List Ranges) : Ranges := ofList (sets.flatMap bounds)

/-- The ranges that two lists of ranges share. -/
def interIn : List (Nat × Nat) → List (Nat × Nat) → List (Nat × Nat)
  | [], _ => []
  | _, [] => []
  | r :: rs, s :: ss =>
    let rest := if r.2 ≤ s.2 then interIn rs (s :: ss) else interIn (r :: rs) ss
    if max r.1 s.1 ≤ min r.2 s.2 then (max r.1 s.1, min r.2 s.2) :: rest else rest
termination_by rs ss => rs.length + ss.length

/-- The code points in both sets. -/
def inter (r s : Ranges) : Ranges := ⟨interIn r.bounds s.bounds⟩

/-- What a list of ranges leaves of the part of a range from `first` on, and of more ranges. -/
def diffIn (first last : Nat) (rs : List (Nat × Nat)) : List (Nat × Nat) → List (Nat × Nat)
  | [] => (first, last) :: rs
  | s :: ss =>
    if s.2 < first then diffIn first last rs ss
    else if last < s.1 then
      match rs with
      | [] => [(first, last)]
      | r :: rs => (first, last) :: diffIn r.1 r.2 rs (s :: ss)
    else
      let front := if first < s.1 then [(first, codeBefore s.1)] else []
      if s.2 < last then front ++ diffIn (codeAfter s.2) last rs ss
      else match rs with
        | [] => front
        | r :: rs => front ++ diffIn r.1 r.2 rs (s :: ss)
termination_by ss => rs.length + ss.length

/-- The code points of the first set that are not in the second. -/
def diff (r s : Ranges) : Ranges :=
  match r.bounds with
  | [] => empty
  | (first, last) :: rest => ⟨diffIn first last rest s.bounds⟩

/-- The code points in exactly one of two sets. -/
def symmetricDiff (r s : Ranges) : Ranges := (r.union s).diff (r.inter s)

/-- The gaps of some ranges from after a code point on. Where the gap holds nothing but surrogates,
its bounds are the characters on its sides. -/
def gapsAfter (last : Nat) : List (Nat × Nat) → List (Nat × Nat)
  | [] => if last < lastCode then [(codeAfter last, lastCode)] else []
  | next :: rest =>
    let first := codeAfter last
    let final := codeBefore next.1
    (min first final, max first final) :: gapsAfter next.2 rest

/-- The code points that are not in the set. -/
def complement (r : Ranges) : Ranges :=
  match r.bounds with
  | [] => all
  | (first, last) :: rest =>
    ⟨(if 0 < first then [(0, codeBefore first)] else []) ++ gapsAfter last rest⟩

end Ranges

end Unicode

end Draft6
