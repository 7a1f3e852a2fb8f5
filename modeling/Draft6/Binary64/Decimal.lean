import Draft6.Binary64

/-!
# The fewest digits that read back

The decimal text of a binary64 number uses the fewest digits that still round to the number, and
among those the digits nearest to it. `Binary64.shortest` finds them in exact arithmetic: on each
decimal grid, coarse to fine, it tests the two neighbours of the number against the interval of
reals that round to it. What a text does with the digits is a `DecimalStyle`.
-/

namespace Draft6

/-- The decimal number `digits · 10 ^ exponent`. -/
structure Decimal where
  digits : Nat
  exponent : Int
deriving DecidableEq, Repr

/-- Which of two equally near decimals is taken. -/
inductive Tie where
  | toEven
  | up
deriving DecidableEq, Repr

namespace Decimal

/-- Move trailing zeros of the digits into the exponent, at most `fuel` of them. -/
def stripZeros : (fuel : Nat) → Decimal → Decimal
  | 0, d => d
  | fuel + 1, d =>
    if d.digits ≠ 0 ∧ d.digits % 10 = 0 then stripZeros fuel ⟨d.digits / 10, d.exponent + 1⟩ else d

end Decimal

namespace Binary64

/-- Ends of the interval of reals that round to a positive number, and the number itself, as
numerators over one denominator. -/
structure Interval where
  lower : Nat
  value : Nat
  upper : Nat
  denominator : Nat
  /-- The ends belong to the interval when the significand is even. -/
  closed : Bool

/-- The interval of a positive number: half a step to both sides, a quarter below a power of
two. -/
def interval (x : Binary64) : Interval :=
  let unit := Nat.pow 2 x.exponent.toNat
  let below := if x.significand = 4503599627370496 ∧ x.exponent ≠ -1074 then 1 else 2
  { lower := (4 * x.significand - below) * unit
    value := 4 * x.significand * unit
    upper := (4 * x.significand + 2) * unit
    denominator := 4 * x.denominator
    closed := x.significand % 2 = 0 }

/-- Whether the decimal `digits · 10 ^ exponent` rounds to the number of the interval. -/
def Interval.contains (i : Interval) (d : Decimal) : Bool :=
  let scaled := d.digits * Nat.pow 10 d.exponent.toNat * i.denominator
  let power := Nat.pow 10 (-d.exponent).toNat
  if i.closed then i.lower * power ≤ scaled ∧ scaled ≤ i.upper * power
  else i.lower * power < scaled ∧ scaled < i.upper * power

/-- The decimal exponent of the leading digit of a positive ratio. -/
def leadingExponent (numerator denominator : Nat) : Int :=
  if denominator ≤ numerator then
    (Nat.toDigits 10 (numerator / denominator)).length - 1
  else
    -(Nat.toDigits 10 ((denominator - 1) / numerator)).length

/-- The best decimal of the interval on the grid of one power of ten. -/
def Interval.onGrid? (i : Interval) (tie : Tie) (exponent : Int) : Option Decimal :=
  let numerator := i.value * Nat.pow 10 (-exponent).toNat
  let denominator := i.denominator * Nat.pow 10 exponent.toNat
  let below := numerator / denominator
  let low : Decimal := ⟨below, exponent⟩
  let high : Decimal := ⟨below + 1, exponent⟩
  let twice := 2 * (numerator % denominator)
  let nearer :=
    if twice < denominator then low
    else if denominator < twice then high
    else match tie with
      | .up => high
      | .toEven => if below % 2 = 0 then low else high
  let other := if nearer = low then high else low
  if i.contains nearer ∧ nearer.digits ≠ 0 then some nearer
  else if i.contains other ∧ other.digits ≠ 0 then some other
  else none

/-- Try grids from coarse to fine, starting at the leading digit; the last one is always fine
enough for 17 digits. -/
def Interval.search (i : Interval) (tie : Tie) : (grids : Nat) → (exponent : Int) → Decimal
  | 0, exponent =>
    ⟨i.value * Nat.pow 10 (-exponent).toNat / (i.denominator * Nat.pow 10 exponent.toNat), exponent⟩
  | grids + 1, exponent =>
    match i.onGrid? tie exponent with
    | some d => d
    | none => i.search tie grids (exponent - 1)

/-- The shortest decimal that rounds to the magnitude of the number, without trailing zeros. -/
def shortest (x : Binary64) (tie : Tie) : Decimal :=
  if x.isZero then ⟨0, 0⟩
  else
    let i := x.interval
    (i.search tie 17 (leadingExponent i.value i.denominator)).stripZeros 20

end Binary64

/-- How the digits of a number are laid out. -/
structure DecimalStyle where
  tie : Tie
  /-- Numbers whose leading digit stands for `10 ^ e` are positional for `e` in this range; without
  a range all numbers are. -/
  positional : Option (Int × Int)
  /-- What follows a positional number without a fraction. -/
  wholeSuffix : String

namespace DecimalStyle

/-- JSON text: positional from `0.00001` up to sixteen digits before the point, always with a
point, else an exponent with its sign. -/
def json : DecimalStyle := ⟨.toEven, some (-5, 15), ".0"⟩

/-- Plain text: never an exponent, and no point in whole numbers. -/
def plain : DecimalStyle := ⟨.up, none, ""⟩

/-- Digits with the point placed by the exponent. -/
def positionalText (style : DecimalStyle) (d : Decimal) : String :=
  let digits := toString d.digits
  if 0 ≤ d.exponent then
    digits ++ String.ofList (List.replicate d.exponent.toNat '0') ++ style.wholeSuffix
  else
    let places := (-d.exponent).toNat
    let padded := List.replicate (places + 1 - digits.length) '0' ++ digits.toList
    let whole := padded.length - places
    String.ofList (padded.take whole ++ '.' :: padded.drop whole)

/-- One digit before the point, and the exponent with its sign. -/
def scientificText (d : Decimal) (leading : Int) : String :=
  let sign := if leading < 0 then "-" else "+"
  let mantissa := match (toString d.digits).toList with
    | [] => []
    | [c] => [c]
    | c :: rest => c :: '.' :: rest
  String.ofList mantissa ++ "e" ++ sign ++ toString leading.natAbs

/-- The text of a number. -/
def text (style : DecimalStyle) (x : Binary64) : String :=
  let d := x.shortest style.tie
  let leading := d.exponent + (toString d.digits).length - 1
  let body := match style.positional with
    | none => style.positionalText d
    | some (low, high) =>
      if low ≤ leading ∧ leading ≤ high then style.positionalText d else scientificText d leading
  if x.negative then "-" ++ body else body

end DecimalStyle

end Draft6
