/-!
# UTF-8 with replacement

Reading bytes as UTF-8 never fails here: every longest prefix of a character that cannot be
completed becomes one replacement character, and so does every byte that can start none.
-/

namespace Draft6

namespace Utf8

/-- The bytes of characters. -/
def encode (cs : List Char) : List UInt8 := cs.flatMap String.utf8EncodeChar

/-- U+FFFD, which stands for bytes that are no character. -/
def replacement : Char := '\ufffd'

/-- A character under way: its bits so far, how many bytes are missing, and the bounds of the next
one. -/
structure Partial where
  bits : Nat
  missing : Nat
  lower : Nat
  upper : Nat

/-- What a byte gives at the start of a character. -/
def start (b : Nat) : List Char × Option Partial :=
  if b < 0x80 then ([Char.ofNat b], none)
  else if 0xC2 ≤ b ∧ b ≤ 0xDF then ([], some ⟨b - 0xC0, 1, 0x80, 0xBF⟩)
  else if b = 0xE0 then ([], some ⟨0, 2, 0xA0, 0xBF⟩)
  else if b = 0xED then ([], some ⟨0xD, 2, 0x80, 0x9F⟩)
  else if 0xE1 ≤ b ∧ b ≤ 0xEF then ([], some ⟨b - 0xE0, 2, 0x80, 0xBF⟩)
  else if b = 0xF0 then ([], some ⟨0, 3, 0x90, 0xBF⟩)
  else if 0xF1 ≤ b ∧ b ≤ 0xF3 then ([], some ⟨b - 0xF0, 3, 0x80, 0xBF⟩)
  else if b = 0xF4 then ([], some ⟨4, 3, 0x80, 0x8F⟩)
  else ([replacement], none)

/-- What a byte gives inside a character. A byte out of bounds ends the character and starts the
next one. -/
def Partial.next (p : Partial) (b : Nat) : List Char × Option Partial :=
  if p.lower ≤ b ∧ b ≤ p.upper then
    let bits := p.bits * 64 + (b - 0x80)
    if p.missing = 1 then ([Char.ofNat bits], none)
    else ([], some ⟨bits, p.missing - 1, 0x80, 0xBF⟩)
  else
    let (cs, state) := start b
    (replacement :: cs, state)

/-- The characters of bytes, given the character under way. -/
def decodeFrom : Option Partial → List UInt8 → List Char
  | none, [] => []
  | some _, [] => [replacement]
  | none, b :: rest => let (cs, state) := start b.toNat; cs ++ decodeFrom state rest
  | some p, b :: rest => let (cs, state) := p.next b.toNat; cs ++ decodeFrom state rest

/-- The characters of bytes. -/
def decode (bytes : List UInt8) : List Char := decodeFrom none bytes

end Utf8

end Draft6
