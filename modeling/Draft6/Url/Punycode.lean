/-!
# Punycode

A label of a domain name with characters outside ASCII is written in ASCII: first its ASCII
characters, then for each other character, in the order of code points, the distance to the last one
as a number in base 36 whose digit bounds adapt to the distances so far. Reading refuses numbers of
more than 32 bits.
-/

namespace Draft6

namespace Punycode

/-- The digit with a value below 36. -/
def digit (value : Nat) : Char :=
  if value < 26 then Char.ofNat ('a'.toNat + value) else Char.ofNat ('0'.toNat + (value - 26))

/-- The bound of the digit at a position. -/
def threshold (position bias : Nat) : Nat :=
  if position ≤ bias then 1 else if bias + 26 ≤ position then 26 else position - bias

/-- The digits of a number, lowest first. -/
def digits (bias : Nat) : (fuel position number : Nat) → List Char
  | 0, _, _ => []
  | fuel + 1, position, number =>
    let t := threshold position bias
    if number < t then [digit number]
    else
      digit (t + (number - t) % (36 - t))
        :: digits bias fuel (position + 36) ((number - t) / (36 - t))

/-- Halve a distance until it is small, counting the rounds. -/
def settle : (fuel delta rounds : Nat) → Nat
  | 0, delta, rounds => rounds + 36 * delta / (delta + 38)
  | fuel + 1, delta, rounds =>
    if 455 < delta then settle fuel (delta / 35) (rounds + 36)
    else rounds + 36 * delta / (delta + 38)

/-- The bias after a distance. -/
def adapt (delta count : Nat) (first : Bool) : Nat :=
  let delta := if first then delta / 700 else delta / 2
  settle 32 (delta + delta / count) 0

/-- The state of an encoding. -/
structure State where
  delta : Nat
  bias : Nat
  written : Nat
  output : List Char

/-- Take one character of the label into account when `code` is written. -/
def step (basic code : Nat) (s : State) (c : Char) : State :=
  if c.toNat < code then { s with delta := s.delta + 1 }
  else if c.toNat = code then
    { delta := 0
      bias := adapt s.delta (s.written + 1) (s.written = basic)
      written := s.written + 1
      output := s.output ++ digits s.bias 64 36 s.delta }
  else s

/-- Write the characters with each of the codes, which are in ascending order. -/
def writeCodes (label : List Char) (basic : Nat) :
    (codes : List Nat) → (previous : Nat) → State → State
  | [], _, s => s
  | code :: rest, previous, s =>
    let s := { s with delta := s.delta + (code - previous) * (s.written + 1) }
    let s := label.foldl (step basic code) s
    writeCodes label basic rest (code + 1) { s with delta := s.delta + 1 }

/-- The written form of a label. -/
def encode (label : List Char) : List Char :=
  let basic := label.filter fun c => c.toNat < 0x80
  let codes := ((label.filter fun c => 0x80 ≤ c.toNat).map Char.toNat).eraseDups.mergeSort
  let start := if basic.isEmpty then [] else basic ++ ['-']
  let s := writeCodes label basic.length codes 0x80 ⟨0, 72, basic.length, []⟩
  start ++ s.output

/-- The value of a digit. -/
def value? (c : Char) : Option Nat :=
  if 'a' ≤ c ∧ c ≤ 'z' then some (c.toNat - 'a'.toNat)
  else if c.isDigit then some (c.toNat - '0'.toNat + 26)
  else none

/-- The state of reading a written form. -/
structure Reading where
  /-- The characters so far. -/
  text : List Char
  /-- The code of the last character that was put into the text. -/
  code : Nat
  /-- Where the next character goes, counted on through the text once for each code. -/
  place : Nat
  /-- The place at which the number under way began. -/
  start : Nat
  /-- The weight of the next digit of the number, and its position. -/
  weight : Nat
  position : Nat
  bias : Nat

/-- Take the last digit of a number into account: put a character into the text. -/
def Reading.insert? (r : Reading) : Option Reading :=
  let count := r.text.length + 1
  let code := r.code + r.place / count
  let place := r.place % count
  if code.isValidChar then
    some {
      text := r.text.take place ++ Char.ofNat code :: r.text.drop place
      code := code
      place := place + 1
      start := place + 1
      weight := 1
      position := 36
      bias := adapt (r.place - r.start) count (r.start = 0) }
  else none

/-- Take one digit into account. -/
def Reading.digit? (r : Reading) (c : Char) : Option Reading := do
  let value ← value? c
  let r := { r with place := r.place + value * r.weight }
  let t := threshold r.position r.bias
  if 4294967296 ≤ r.place then failure
  if value < t then r.insert?
  else
    let weight := r.weight * (36 - t)
    if 4294967296 ≤ weight then failure
    pure { r with weight := weight, position := r.position + 36 }

/-- The label that a written form stands for. A hyphen in front of all digits is no mark. -/
def decode? (written : List Char) : Option (List Char) := do
  let digits := (written.reverse.takeWhile (· ≠ '-')).reverse
  let basic := (written.reverse.drop (digits.length + 1)).reverse
  let digits := if digits.length + 1 = written.length then written else digits
  let r ← digits.foldlM Reading.digit? ⟨basic, 0x80, 0, 0, 1, 36, 72⟩
  if r.position = 36 then pure r.text else failure

end Punycode

end Draft6
