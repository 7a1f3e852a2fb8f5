import Draft6.Unicode.Ranges

/-!
# Sets of characters as sequences of byte ranges

A program reads bytes. A range of characters splits into sequences of byte ranges, such that the
characters of a part are those whose bytes lie in the ranges of its sequence, in every combination.
-/

namespace Draft6

namespace Pattern

namespace Program

/-- A range of bytes, with both ends in it. -/
abbrev ByteRange := Nat × Nat

/-- The bytes of a character in UTF-8. -/
def codeBytes (code : Nat) : List Nat :=
  (String.utf8EncodeChar (Char.ofNat code)).map UInt8.toNat

/-- Where a range has to be cut so that bytes after the first `length - 1` of a character run
through all values: after the part of a block at its start, or before that at its end. -/
def blockCut? (first last block : Nat) : Option Nat :=
  if first / block = last / block then none
  else if first % block ≠ 0 then some (first - first % block + (block - 1))
  else if last % block ≠ block - 1 then some (last - last % block - 1)
  else none

/-- The last code point of the first part, if a range has to be cut: at the surrogates, where the
number of bytes changes, or where the last bytes do not run through all values. -/
def cut? (first last : Nat) : Option Nat :=
  match [0x7F, 0x7FF, 0xFFFF].find? fun code => first ≤ code && code < last with
  | some code => some code
  | none => if last ≤ 0x7F then none else [64, 4096, 262144].findSome? (blockCut? first last)

/-- The sequences of byte ranges of the characters from one to another. -/
def sequencesBetween (first last : Nat) : List (List ByteRange) :=
  if last < first then []
  else if first < 0xE000 ∧ 0xD7FF < last then
    sequencesBetween first 0xD7FF ++ sequencesBetween 0xE000 last
  else
    match cut? first last with
    | none => [(codeBytes first).zip (codeBytes last)]
    | some middle =>
      if first ≤ middle ∧ middle < last then
        sequencesBetween first middle ++ sequencesBetween (middle + 1) last
      else []
termination_by last + 1 - first

/-- The sequences of byte ranges of the characters of a set. -/
def sequences (set : Unicode.Ranges) : List (List ByteRange) :=
  set.bounds.flatMap fun (first, last) => sequencesBetween first last

end Program

end Pattern

end Draft6
