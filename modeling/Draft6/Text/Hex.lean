/-!
# Hexadecimal digits
-/

namespace Draft6

namespace Hex

/-- The value of a hexadecimal digit of either case. -/
def value? (c : Char) : Option Nat :=
  if '0' ≤ c ∧ c ≤ '9' then some (c.toNat - '0'.toNat)
  else if 'a' ≤ c ∧ c ≤ 'f' then some (c.toNat - 'a'.toNat + 10)
  else if 'A' ≤ c ∧ c ≤ 'F' then some (c.toNat - 'A'.toNat + 10)
  else none

/-- Whether the character is a hexadecimal digit. -/
def isDigit (c : Char) : Bool := (value? c).isSome

/-- The number that hexadecimal digits denote, if all of them are digits. -/
def number? (digits : List Char) : Option Nat :=
  digits.foldl (fun n c => do return 16 * (← n) + (← value? c)) (some 0)

/-- The lower case digit of a nibble. -/
def lower (nibble : Nat) : Char := (Nat.toDigits 16 (nibble % 16)).headD '0'

/-- The upper case digit of a nibble. -/
def upper (nibble : Nat) : Char := (lower nibble).toUpper

/-- The two upper case digits of a byte. -/
def byte (b : UInt8) : List Char := [upper (b.toNat / 16), upper b.toNat]

end Hex

end Draft6
