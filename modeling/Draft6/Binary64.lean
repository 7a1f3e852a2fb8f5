/-!
# Finite binary64 numbers

A finite binary64 number is a sign and a significand below `2 ^ 53` times a power of two. The
exponent is the smallest one that leaves the significand whole, so that equal numbers other than
the two zeros have equal fields.

Every operation that can leave the format computes the exact ratio first and rounds once, to the
nearest number and to the even one of two neighbours. A result too large for the format is `none`.
There is no infinity and no value that is not a number.
-/

namespace Draft6

/-- The significand and exponent of a finite number in its normal form: below `2 ^ 53`, and at least
`2 ^ 52` unless the exponent is already the smallest. -/
def Binary64.Canonical (significand : Nat) (exponent : Int) : Prop :=
  significand < 9007199254740992 ∧ -1074 ≤ exponent ∧ exponent ≤ 971 ∧
    (exponent = -1074 ∨ 4503599627370496 ≤ significand)

instance (significand : Nat) (exponent : Int) :
    Decidable (Binary64.Canonical significand exponent) :=
  inferInstanceAs (Decidable (_ ∧ _ ∧ _ ∧ (_ ∨ _)))

/-- A finite binary64 number, `± significand · 2 ^ exponent`. -/
structure Binary64 where
  negative : Bool
  significand : Nat
  exponent : Int
  canonical : Binary64.Canonical significand exponent
deriving DecidableEq

namespace Binary64

/-- Positive zero. -/
def zero : Binary64 := ⟨false, 0, -1074, by decide⟩

/-- The number one. -/
def one : Binary64 := ⟨false, 4503599627370496, -52, by decide⟩

instance : Inhabited Binary64 := ⟨zero⟩

/-- The significand with the sign of the number. -/
def signed (x : Binary64) : Int :=
  if x.negative then -(x.significand : Int) else x.significand

/-- The numerator of `significand · 2 ^ exponent` over a power of two. -/
def numerator (x : Binary64) : Nat := x.significand * Nat.pow 2 x.exponent.toNat

/-- The denominator that belongs to `numerator`. -/
def denominator (x : Binary64) : Nat := Nat.pow 2 (-x.exponent).toNat

/-- The exact rational value. -/
def toRat (x : Binary64) : Rat :=
  (if x.negative then -1 else 1) * mkRat x.numerator x.denominator

/-- Both zeros are zero. -/
def isZero (x : Binary64) : Bool := x.significand = 0

/-- The same number with a positive sign. -/
def abs (x : Binary64) : Binary64 := { x with negative := false }

/-- Divide and round to the nearest whole number, a half to the even neighbour. -/
def roundHalfEven (numerator denominator : Nat) : Nat :=
  let quotient := numerator / denominator
  let twice := 2 * (numerator % denominator)
  if twice < denominator then quotient
  else if denominator < twice then quotient + 1
  else quotient + quotient % 2

/-- The exponent at which a positive ratio has a significand of 53 bits, or the smallest exponent
of the format when that is larger. -/
def exponentOf (numerator denominator : Nat) : Int :=
  let low := (numerator.log2 : Int) - denominator.log2 - 53
  let fits :=
    numerator * Nat.pow 2 (-low).toNat < Nat.pow 2 53 * (denominator * Nat.pow 2 low.toNat)
  max (if fits then low else low + 1) (-1074)

/-- The number with a significand of at most `2 ^ 53`, unless its exponent is too large. -/
def ofParts? (negative : Bool) (significand : Nat) (exponent : Int) : Option Binary64 :=
  if h : Canonical significand exponent then some ⟨negative, significand, exponent, h⟩
  else if h : significand = 9007199254740992 ∧ Canonical 4503599627370496 (exponent + 1) then
    some ⟨negative, 4503599627370496, exponent + 1, h.2⟩
  else none

/-- Round a ratio of natural numbers to the nearest number with the given sign. -/
def ofRatio? (negative : Bool) (numerator denominator : Nat) : Option Binary64 :=
  if numerator = 0 then some { zero with negative }
  else
    let exponent := exponentOf numerator denominator
    let significand := roundHalfEven (numerator * Nat.pow 2 (-exponent).toNat)
      (denominator * Nat.pow 2 exponent.toNat)
    ofParts? negative significand exponent

/-- Round an integer to the nearest number. -/
def ofInt? (i : Int) : Option Binary64 := ofRatio? (i < 0) i.natAbs 1

/-- Round a product to the nearest number. -/
def mul? (x y : Binary64) : Option Binary64 :=
  ofRatio? (x.negative != y.negative) (x.numerator * y.numerator) (x.denominator * y.denominator)

/-- Round a quotient to the nearest number. There is none for a divisor of zero. -/
def div? (x y : Binary64) : Option Binary64 :=
  if y.isZero then none
  else ofRatio? (x.negative != y.negative) (x.numerator * y.denominator)
    (x.denominator * y.numerator)

/-- Whether there is no fractional part. -/
def isWhole (x : Binary64) : Bool := x.numerator % x.denominator = 0

/-- The largest integer that is not above the number. -/
def floor (x : Binary64) : Int :=
  (x.signed * Nat.pow 2 x.exponent.toNat).fdiv x.denominator

/-- The integer that a whole number denotes. -/
def toInt? (x : Binary64) : Option Int := if x.isWhole then some x.floor else none

/-- The nearest integer, a half away from zero. -/
def roundHalfAway (x : Binary64) : Int :=
  let magnitude := (2 * x.numerator + x.denominator) / (2 * x.denominator)
  if x.negative then -(magnitude : Int) else magnitude

/-- The order of two numbers, found on their significands at the smaller exponent. The two zeros
are equal. -/
def compare (x y : Binary64) : Ordering :=
  let shared := min x.exponent y.exponent
  Ord.compare (x.signed * Nat.pow 2 (x.exponent - shared).toNat)
    (y.signed * Nat.pow 2 (y.exponent - shared).toNat)

/-- The number nearest to `17 · 10 ^ 37`. Integers of 64 bits lie well inside it, and whole numbers
below it have fewer than 128 bits. -/
def integerBound : Binary64 := ⟨false, 8999725064576941, 74, by decide⟩

/-- The order of an integer and a number. A number beyond the bound lies beyond the integer. Any other
is compared on the whole part and then on the fraction. -/
def compareInt (i : Int) (x : Binary64) : Ordering :=
  if x.compare integerBound ≠ .lt then .lt
  else if x.compare { integerBound with negative := true } ≠ .gt then .gt
  else match Ord.compare i x.floor with
  | .eq => if x.isWhole then .eq else .lt
  | order => order

/-- Read `± significand · 10 ^ exponent`, rounded to the nearest number.

The two tests only keep powers of ten within reason: `10 ^ n` lies above `2 ^ (3 * n)`, so the
first one refuses numbers of at least `2 ^ 1024` and the second one takes numbers below `2 ^ -1080`
for zero. -/
def ofDecimal? (negative : Bool) (significand : Nat) (exponent : Int) : Option Binary64 :=
  let bits : Int := significand.log2
  if significand = 0 ∨ (exponent < 0 ∧ bits + 1 + 3 * exponent < -1080) then
    some { zero with negative }
  else if 0 < exponent ∧ 1024 ≤ bits + 3 * exponent then none
  else ofRatio? negative (significand * Nat.pow 10 exponent.toNat)
    (Nat.pow 10 (-exponent).toNat)

end Binary64

end Draft6
