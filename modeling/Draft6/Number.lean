import Draft6.Binary64.Decimal

/-!
# JSON numbers

A number written without fraction and exponent is kept as an exact integer when it lies between
`-2 ^ 63` and `2 ^ 64 - 1`; every other number is a binary64 number. Order is decided on exact
values. Equality of two integers is exact too, while an integer is equal to a binary64 number when
it rounds to it.
-/

namespace Draft6

/-- The integers that are kept exactly: from `-2 ^ 63` up to `2 ^ 64 - 1`. -/
def Number.Fits (value : Int) : Prop :=
  -9223372036854775808 ≤ value ∧ value < 18446744073709551616

instance (value : Int) : Decidable (Number.Fits value) := inferInstanceAs (Decidable (_ ∧ _))

/-- A JSON number. -/
inductive Number where
  | integer (value : Int) (fits : Number.Fits value)
  | float (value : Binary64)
deriving DecidableEq

namespace Number

/-- The number zero, as an integer. -/
def zero : Number := .integer 0 (by decide)

instance : Inhabited Number := ⟨zero⟩

/-- An integer as a number, if it is kept exactly. -/
def ofInt? (value : Int) : Option Number := if h : Fits value then some (.integer value h) else none

/-- A word as a number. -/
def ofUInt64 (word : UInt64) : Number :=
  .integer word.toNat ⟨by omega, by have := word.toNat_lt; omega⟩

/-- The number that an integer literal denotes. Negative zero and integers that do not fit are
binary64 numbers. -/
def ofIntegerLiteral? (negative : Bool) (digits : Nat) : Option Number :=
  let value : Int := if negative then -(digits : Int) else digits
  if negative ∧ digits = 0 then (Binary64.ofDecimal? negative digits 0).map .float
  else match ofInt? value with
    | some n => some n
    | none => (Binary64.ofDecimal? negative digits 0).map .float

/-- The exact integer that a number is kept as. -/
def integer? : Number → Option Int
  | .integer value _ => some value
  | .float _ => none

/-- The exact rational value. -/
def toRat : Number → Rat
  | .integer value _ => value
  | .float x => x.toRat

/-- The nearest binary64 number. No integer that is kept exactly is too large for one. -/
def toBinary64 : Number → Binary64
  | .integer value _ => (Binary64.ofInt? value).getD .zero
  | .float x => x

/-- Whether the number has no fractional part. -/
def isWhole : Number → Bool
  | .integer _ _ => true
  | .float x => x.isWhole

/-- The order of two numbers by their exact values. -/
def compare : Number → Number → Ordering
  | .integer a _, .integer b _ => Ord.compare a b
  | .integer a _, .float y => Binary64.compareInt a y
  | .float x, .integer b _ => (Binary64.compareInt b x).swap
  | .float x, .float y => x.compare y

/-- Equality of two numbers. Integers are equal when they are the same; otherwise the nearest
binary64 numbers decide. -/
def equal (a b : Number) : Bool :=
  match a, b with
  | .integer x _, .integer y _ => x = y
  | _, _ => a.toBinary64.compare b.toBinary64 = .eq

/-- Whether two numbers are written alike: an integer never equals a binary64 number, and the two
zeros do not differ. -/
def same : Number → Number → Bool
  | .integer a _, .integer b _ => a = b
  | .float x, .float y => x.compare y = .eq
  | _, _ => false

/-- The JSON text of a number. -/
def text : Number → String
  | .integer value _ => toString value
  | .float x => DecimalStyle.json.text x

end Number

end Draft6
