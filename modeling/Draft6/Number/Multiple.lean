import Draft6.Number

/-!
# Multiples

An integer is a multiple of a whole divisor when the remainder is zero. Any other quotient is
rounded once to binary64 and accepted when it lies within a relative tolerance of a whole number,
which absorbs the error of writing decimal fractions in binary.
-/

namespace Draft6

namespace Number

/-- The binary64 number nearest to `10 ^ -12`. -/
def multipleTolerance : Binary64 := ⟨false, 4951760157141521, -92, by decide⟩

/-- Divisors of at least this size, `2 ^ 63`, are never compared by remainder. -/
def remainderBound : Int := 9223372036854775808

/-- Whether a quotient is close enough to a whole number. A quotient that rounds to zero passes
only for a value that is zero. -/
def nearWhole (value quotient : Binary64) : Bool :=
  let nearest := quotient.roundHalfAway
  if nearest = 0 then value.isZero
  else
    let distance := (quotient.toRat - nearest).abs
    let magnitude := if quotient.abs.compare .one = .lt then .one else quotient.abs
    match multipleTolerance.mul? magnitude with
    | some allowed => distance ≤ allowed.toRat
    | none => true

/-- Whether a number is a multiple of a divisor. Nothing is a multiple of zero, and nothing whose
quotient is too large for binary64 is a multiple. -/
def isMultipleOf (value : Number) (divisor : Binary64) : Bool :=
  match value.integer?, divisor.toInt? with
  | some v, some d =>
    if d.natAbs < remainderBound then d ≠ 0 ∧ v.natAbs % d.natAbs = 0
    else byQuotient
  | _, _ => byQuotient
where
  byQuotient : Bool :=
    match value.toBinary64.div? divisor with
    | some quotient => nearWhole value.toBinary64 quotient
    | none => false

end Number

end Draft6
