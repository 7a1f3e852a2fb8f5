import Draft6.Proofs.IntegerDivisors

/-!
# Multiples and the spelling of numbers

A whole number may be written as an integer or as a binary64 number. By a whole divisor below `2 ^ 63` an
integer is divided exactly, while the quotient of a binary64 number is rounded and may miss a whole number
by a part in `10 ^ 12`. No multiple is refused for that. Beyond `10 ^ 12`, though, a quotient that is near a
whole number need not be one, and then the two spellings are told apart.
-/

namespace Draft6

namespace Binary64

/-- The size of a number, or one if that is larger. -/
def atLeastOne (x : Binary64) : Binary64 := if x.abs.compare .one = .lt then .one else x.abs

/-- The exact value of the size, or one. -/
theorem toRat_atLeastOne (x : Binary64) : x.atLeastOne.toRat = max 1 |x.toRat| := by
  have hlt : x.abs.compare .one = .lt ↔ |x.toRat| < 1 := by
    rw [compare_eq, cmp_eq_lt_iff, toRat_one, toRat_abs]
  rw [atLeastOne]
  split
  · next h => rw [toRat_one, max_eq_left (hlt.mp h).le]
  · next h => rw [toRat_abs, max_eq_right (not_lt.mp (mt hlt.mpr h))]

/-- Whether the rounded quotient by a divisor misses some whole number other than zero by no more than the
tolerance allows at its size. -/
def NearMultiple (x divisor : Binary64) : Prop :=
  ∃ quotient ∈ x.div? divisor, ∃ allowed ∈ Number.multipleTolerance.mul? quotient.atLeastOne,
    ∃ whole : ℤ, whole ≠ 0 ∧ |quotient.toRat - whole| ≤ allowed.toRat

/-- A number is near to a multiple when its rounded quotient is near to a whole number. -/
theorem nearMultiple_iff {x divisor quotient allowed : Binary64}
    (hquotient : x.div? divisor = some quotient)
    (hallowed : Number.multipleTolerance.mul? quotient.atLeastOne = some allowed) :
    x.NearMultiple divisor ↔ ∃ whole : ℤ, whole ≠ 0 ∧ |quotient.toRat - whole| ≤ allowed.toRat := by
  simp [NearMultiple, hquotient, hallowed]

/-- Only the zeros have the value zero. -/
theorem isZero_iff (x : Binary64) : x.isZero = true ↔ x.toRat = 0 := by
  have hpower : (2 : ℚ) ^ x.exponent ≠ 0 := zpow_ne_zero _ two_ne_zero
  rw [isZero, decide_eq_true_iff, toRat_eq, mul_eq_zero, or_iff_left hpower, Int.cast_eq_zero, signed]
  cases x.negative <;> simp

end Binary64

namespace Number

/-- What is allowed at a size is about a part in `10 ^ 12` of it. -/
theorem exists_allowed {quotient : Binary64} (h : |quotient.toRat| < 2 ^ 65) :
    ∃ allowed, multipleTolerance.mul? quotient.atLeastOne = some allowed ∧
      999 / 10 ^ 15 * max 1 |quotient.toRat| ≤ allowed.toRat ∧
      allowed.toRat ≤ 1001 / 10 ^ 15 * max 1 |quotient.toRat| := by
  have htolerance : multipleTolerance.toRat = 4951760157141521 / 2 ^ 92 := by
    rw [Binary64.toRat_eq]
    norm_num [multipleTolerance, Binary64.signed]
  have hsize : (1 : ℚ) ≤ max 1 |quotient.toRat| := le_max_left _ _
  have hbound : max 1 |quotient.toRat| < 2 ^ 65 := max_lt (by norm_num) h
  generalize hm : max 1 |quotient.toRat| = size at *
  have hproduct : |multipleTolerance.toRat * quotient.atLeastOne.toRat| =
      4951760157141521 / 2 ^ 92 * size := by
    rw [htolerance, Binary64.toRat_atLeastOne, hm, abs_of_pos (by positivity)]
  have hlow : (2 : ℚ) ^ (-1000 : ℤ) ≤ |multipleTolerance.toRat * quotient.atLeastOne.toRat| := by
    rw [hproduct]
    calc (2 : ℚ) ^ (-1000 : ℤ) ≤ 2 ^ (-92 : ℤ) := zpow_le_zpow_right₀ one_le_two (by decide)
      _ ≤ 4951760157141521 / 2 ^ 92 * size := by
        norm_num
        linarith
  have hhigh : |multipleTolerance.toRat * quotient.atLeastOne.toRat| < 2 ^ (1000 : ℤ) := by
    rw [hproduct]
    calc 4951760157141521 / 2 ^ 92 * size < (2 : ℚ) ^ (65 : ℤ) := by
          norm_num at hbound ⊢
          linarith
      _ ≤ 2 ^ (1000 : ℤ) := zpow_le_zpow_right₀ one_le_two (by decide)
  obtain ⟨allowed, hallowed, hnear⟩ := Binary64.exists_mul? hlow hhigh
  rw [hproduct, htolerance, Binary64.toRat_atLeastOne, hm] at hnear
  obtain ⟨hbelow, habove⟩ := abs_le.mp hnear
  refine ⟨allowed, hallowed, ?_, ?_⟩
  · norm_num at hbelow ⊢
    linarith
  · norm_num at habove ⊢
    linarith

/-- The two ways to take the size of a rational number agree. -/
theorem rat_abs_eq (r : ℚ) : r.abs = |r| := by
  rcases le_total 0 r with h | h
  · rw [Rat.abs_of_nonneg h, abs_of_nonneg h]
  · rw [Rat.abs_of_nonpos h, abs_of_nonpos h]

/-- A value other than zero is close enough when its quotient misses a whole number other than zero by no
more than what is allowed. -/
theorem nearWhole_iff {value quotient allowed : Binary64} (hvalue : value.isZero = false)
    (hallowed : multipleTolerance.mul? quotient.atLeastOne = some allowed)
    (hsmall : |quotient.toRat| < 1 / 2 → allowed.toRat < 1 / 2) :
    nearWhole value quotient = true ↔
      ∃ whole : ℤ, whole ≠ 0 ∧ |quotient.toRat - whole| ≤ allowed.toRat := by
  rw [nearWhole]
  dsimp only
  split
  · next hzero =>
    rw [Binary64.roundHalfAway_eq_zero_iff] at hzero
    refine iff_of_false (Bool.eq_false_iff.mp hvalue) ?_
    rintro ⟨whole, hwhole, hnear⟩
    have hone : (1 : ℚ) ≤ |(whole : ℚ)| := by exact_mod_cast Int.one_le_abs hwhole
    have htriangle := abs_sub_abs_le_abs_sub (whole : ℚ) quotient.toRat
    rw [abs_sub_comm] at htriangle
    linarith [hsmall hzero]
  · next hne =>
    change multipleTolerance.mul? (if quotient.abs.compare .one = .lt then .one else quotient.abs) =
      some allowed at hallowed
    rw [hallowed]
    simp only [rat_abs_eq, decide_eq_true_iff]
    constructor
    · exact fun hnear => ⟨_, hne, hnear⟩
    · rintro ⟨whole, -, hnear⟩
      exact (quotient.abs_sub_roundHalfAway_le_abs_sub whole).trans hnear

/-- A binary64 number is a multiple when its rounded quotient is near to a whole number. -/
theorem isMultipleOf_float_eq {x divisor quotient : Binary64} (h : x.div? divisor = some quotient) :
    (float x).isMultipleOf divisor = nearWhole x quotient := by
  change (float x).toBinary64.div? divisor = some quotient at h
  change isMultipleOf.byQuotient (float x) divisor = nearWhole x quotient
  rw [isMultipleOf.byQuotient, h]
  rfl

section

variable {v n : ℤ} {x divisor : Binary64} (hx : x.toRat = v) (hdivisor : divisor.toRat = n)
  (hne : v ≠ 0) (hsize : |v| < 2 ^ 64) (hpos : 0 < n) (hbound : n < 2 ^ 63)

include hx hdivisor hne hsize hpos hbound

/-- The quotient of a whole number by a divisor is rounded by at most one part in `2 ^ 53`, and what is
allowed for it is about a part in `10 ^ 12`. -/
theorem exists_quotient : ∃ quotient allowed, x.div? divisor = some quotient ∧
    multipleTolerance.mul? quotient.atLeastOne = some allowed ∧
    |quotient.toRat - (v : ℚ) / n| ≤ |(v : ℚ) / n| / 2 ^ 53 ∧
    (∀ i : ℤ, |i| < 2 ^ 53 → (v : ℚ) / n = i → quotient.toRat = i) ∧
    999 / 10 ^ 15 * max 1 |quotient.toRat| ≤ allowed.toRat ∧
    allowed.toRat ≤ 1001 / 10 ^ 15 * max 1 |quotient.toRat| := by
  have hn : (1 : ℚ) ≤ n := by exact_mod_cast hpos
  have hnBound : (n : ℚ) < 2 ^ 63 := by exact_mod_cast hbound
  have hv : (1 : ℚ) ≤ |(v : ℚ)| := by exact_mod_cast Int.one_le_abs hne
  have hvBound : |(v : ℚ)| < 2 ^ 64 := by exact_mod_cast hsize
  have hratio : |(v : ℚ) / n| = |(v : ℚ)| / n := by
    rw [abs_div, abs_of_pos (zero_lt_one.trans_le hn)]
  have hlower : 1 / 2 ^ 63 ≤ |(v : ℚ) / n| := by
    rw [hratio]
    exact div_le_div₀ (abs_nonneg _) hv (zero_lt_one.trans_le hn) hnBound.le
  have hupper : |(v : ℚ) / n| < 2 ^ 64 := by
    rw [hratio]
    exact (div_le_self (abs_nonneg _) hn).trans_lt hvBound
  have hlow : (2 : ℚ) ^ (-1000 : ℤ) ≤ |x.toRat / divisor.toRat| := by
    rw [hx, hdivisor]
    calc (2 : ℚ) ^ (-1000 : ℤ) ≤ 2 ^ (-63 : ℤ) := zpow_le_zpow_right₀ one_le_two (by decide)
      _ ≤ |(v : ℚ) / n| := by
        rw [zpow_neg, ← one_div]
        exact hlower
  have hhigh : |x.toRat / divisor.toRat| < 2 ^ (1000 : ℤ) := by
    rw [hx, hdivisor]
    calc |(v : ℚ) / n| < 2 ^ (64 : ℤ) := hupper
      _ ≤ 2 ^ (1000 : ℤ) := zpow_le_zpow_right₀ one_le_two (by decide)
  obtain ⟨quotient, hquotient, hnear, hexact⟩ := Binary64.exists_div? hlow hhigh
  rw [hx, hdivisor] at hnear hexact
  have hwithin : |quotient.toRat| < 2 ^ 65 := by
    have htriangle := abs_sub_abs_le_abs_sub quotient.toRat ((v : ℚ) / n)
    linarith
  obtain ⟨allowed, hallowed, hmin, hmax⟩ := exists_allowed hwithin
  exact ⟨quotient, allowed, hquotient, hallowed, hnear, hexact, hmin, hmax⟩

/-- A binary64 number other than zero passes when it is near to a multiple. -/
theorem isMultipleOf_float_iff_of_ne :
    (float x).isMultipleOf divisor = true ↔ x.NearMultiple divisor := by
  obtain ⟨quotient, allowed, hquotient, hallowed, -, -, -, hmax⟩ :=
    exists_quotient hx hdivisor hne hsize hpos hbound
  have hzero : x.isZero = false := by
    rw [Bool.eq_false_iff, ne_eq, x.isZero_iff, hx, Int.cast_eq_zero]
    exact hne
  have hsmall (h : |quotient.toRat| < 1 / 2) : allowed.toRat < 1 / 2 := by
    rw [max_eq_left (by linarith)] at hmax
    linarith
  rw [Binary64.nearMultiple_iff hquotient hallowed, ← nearWhole_iff hzero hallowed hsmall,
    isMultipleOf_float_eq hquotient]

/-- A multiple is near to a multiple. -/
theorem nearMultiple_of_dvd (hdvd : n ∣ v) : x.NearMultiple divisor := by
  obtain ⟨quotient, allowed, hquotient, hallowed, hnear, hexact, hmin, -⟩ :=
    exists_quotient hx hdivisor hne hsize hpos hbound
  obtain ⟨factor, rfl⟩ := hdvd
  have hfactor : factor ≠ 0 := right_ne_zero_of_mul hne
  have hratio : ((n * factor : ℤ) : ℚ) / n = factor := by
    rw [Int.cast_mul, mul_div_cancel_left₀ _ (Int.cast_ne_zero.mpr hpos.ne')]
  rw [hratio] at hnear hexact
  have hallow : 0 ≤ allowed.toRat := le_trans (by positivity) hmin
  -- Either way the rounded quotient is whole.
  obtain ⟨whole, hwhole, hvalue⟩ : ∃ whole : ℤ, whole ≠ 0 ∧ quotient.toRat = whole := by
    rcases lt_or_ge |factor| (2 ^ 53) with hbits | hbits
    · exact ⟨factor, hfactor, hexact factor hbits rfl⟩
    · have hcast : (2 ^ 53 : ℚ) ≤ |(factor : ℚ)| := by exact_mod_cast hbits
      have htriangle := abs_sub_abs_le_abs_sub (factor : ℚ) quotient.toRat
      rw [abs_sub_comm] at htriangle
      have hlarge : 2 ^ 52 ≤ |quotient.toRat| := by linarith
      obtain ⟨whole, hvalue⟩ := Binary64.exists_toRat_eq_intCast hlarge
      refine ⟨whole, ?_, hvalue⟩
      rintro rfl
      rw [hvalue, Int.cast_zero, abs_zero] at hlarge
      exact absurd hlarge (by norm_num)
  refine (Binary64.nearMultiple_iff hquotient hallowed).mpr ⟨whole, hwhole, ?_⟩
  rw [hvalue, sub_self, abs_zero]
  exact hallow

/-- Everything is near to a multiple once the quotient is so large that one half is allowed. -/
theorem nearMultiple_of_le (hlarge : 600000000000 * n ≤ |v|) : x.NearMultiple divisor := by
  obtain ⟨quotient, allowed, hquotient, hallowed, hnear, -, hmin, -⟩ :=
    exists_quotient hx hdivisor hne hsize hpos hbound
  have hn : (0 : ℚ) < n := Int.cast_pos.mpr hpos
  have hratio : 600000000000 ≤ |(v : ℚ) / n| := by
    rw [abs_div, abs_of_pos hn, le_div_iff₀ hn]
    exact_mod_cast hlarge
  have htriangle := abs_sub_abs_le_abs_sub ((v : ℚ) / n) quotient.toRat
  rw [abs_sub_comm] at htriangle
  have hquotientLarge : 599000000000 ≤ |quotient.toRat| := by linarith
  have hhalf := quotient.abs_sub_roundHalfAway_le
  have hmax : |quotient.toRat| ≤ max 1 |quotient.toRat| := le_max_right _ _
  refine (Binary64.nearMultiple_iff hquotient hallowed).mpr ⟨quotient.roundHalfAway, ?_, by linarith⟩
  rw [ne_eq, Binary64.roundHalfAway_eq_zero_iff]
  linarith

/-- How far a number lies from the multiple that it is near to. -/
theorem exists_abs_sub_mul_le (h : x.NearMultiple divisor) : ∃ whole : ℤ, whole ≠ 0 ∧
    |(v : ℚ) - n * whole| ≤ |(v : ℚ)| / 2 ^ 53 +
      1001 / 10 ^ 15 * max (n : ℚ) (|(v : ℚ)| * (1 + 1 / 2 ^ 53)) := by
  obtain ⟨quotient, allowed, hquotient, hallowed, hnear, -, -, hmax⟩ :=
    exists_quotient hx hdivisor hne hsize hpos hbound
  obtain ⟨whole, hwhole, hwithin⟩ := (Binary64.nearMultiple_iff hquotient hallowed).mp h
  have hn : (0 : ℚ) < n := Int.cast_pos.mpr hpos
  refine ⟨whole, hwhole, ?_⟩
  have hvalue : (v : ℚ) = n * ((v : ℚ) / n) := (mul_div_cancel₀ _ hn.ne').symm
  have hvalueAbs : |(v : ℚ)| = n * |(v : ℚ) / n| := by
    rw [← abs_of_pos hn, ← abs_mul, abs_of_pos hn, ← hvalue]
  generalize (v : ℚ) / n = ratio at *
  have htriangle := abs_sub_abs_le_abs_sub quotient.toRat ratio
  have hsum := abs_sub_le ratio quotient.toRat whole
  rw [abs_sub_comm ratio quotient.toRat] at hsum
  have hlargest : max 1 |quotient.toRat| ≤ max 1 (|ratio| * (1 + 1 / 2 ^ 53)) :=
    max_le_max_left 1 (by linarith)
  have hscaled : n * max 1 (|ratio| * (1 + 1 / 2 ^ 53)) = max (n : ℚ) (|(v : ℚ)| * (1 + 1 / 2 ^ 53)) := by
    rw [mul_max_of_nonneg _ _ hn.le, mul_one, ← mul_assoc, hvalueAbs]
  calc |(v : ℚ) - n * whole| = n * |ratio - whole| := by
        rw [hvalue, ← mul_sub, abs_mul, abs_of_pos hn]
    _ ≤ n * (|ratio| / 2 ^ 53 + 1001 / 10 ^ 15 * max 1 (|ratio| * (1 + 1 / 2 ^ 53))) :=
        mul_le_mul_of_nonneg_left (by linarith) hn.le
    _ = |(v : ℚ)| / 2 ^ 53 + 1001 / 10 ^ 15 * max (n : ℚ) (|(v : ℚ)| * (1 + 1 / 2 ^ 53)) := by
        rw [← hscaled, hvalueAbs]
        ring

/-- A number of at most `9 · 10 ^ 11` in size is near to no multiple unless it is one. -/
theorem dvd_of_nearMultiple (hsmall : |v| ≤ 900000000000) (h : x.NearMultiple divisor) : n ∣ v := by
  obtain ⟨whole, hwhole, hnear⟩ := exists_abs_sub_mul_le hx hdivisor hne hsize hpos hbound h
  have hv : |(v : ℚ)| ≤ 900000000000 := by exact_mod_cast hsmall
  have hn : (0 : ℚ) < n := Int.cast_pos.mpr hpos
  have hlt : |(v : ℚ) - n * whole| < 1 := by
    rcases le_total (n : ℚ) (|(v : ℚ)| * (1 + 1 / 2 ^ 53)) with hle | hle
    · rw [max_eq_right hle] at hnear
      linarith
    · -- The divisor cannot be much larger, since the nearest multiple is not zero.
      rw [max_eq_left hle] at hnear
      have hone : (1 : ℚ) ≤ |(whole : ℚ)| := by exact_mod_cast Int.one_le_abs hwhole
      have hmultiple : n * 1 ≤ |(n : ℚ) * whole| := by
        rw [abs_mul, abs_of_pos hn]
        exact mul_le_mul_of_nonneg_left hone hn.le
      have htriangle := abs_sub_abs_le_abs_sub ((n : ℚ) * whole) v
      rw [abs_sub_comm] at htriangle
      linarith
  have hzero : v - n * whole = 0 := by
    rw [← Int.abs_lt_one_iff, ← Int.cast_lt (R := ℚ)]
    push_cast
    exact hlt
  exact ⟨whole, sub_eq_zero.mp hzero⟩

end

/-- Zero passes for a multiple of everything but zero. -/
theorem isMultipleOf_float_zero {x divisor : Binary64} (hx : x.toRat = 0) (hdivisor : divisor.toRat ≠ 0) :
    (float x).isMultipleOf divisor = true := by
  have hzero : x.isZero = true := x.isZero_iff.mpr hx
  have hnumerator : x.numerator = 0 := by
    rw [Binary64.numerator, of_decide_eq_true hzero, Nat.zero_mul]
  have hnonzero : divisor.isZero = false := by
    rw [Bool.eq_false_iff, ne_eq, divisor.isZero_iff]
    exact hdivisor
  have hquotient : x.div? divisor =
      some { Binary64.zero with negative := x.negative != divisor.negative } := by
    rw [Binary64.div?, hnonzero, hnumerator, Nat.zero_mul]
    rfl
  rw [isMultipleOf_float_eq hquotient]
  refine (if_pos ?_).trans hzero
  rw [Binary64.roundHalfAway_eq_zero_iff, (Binary64.isZero_iff _).mp rfl]
  norm_num

section

variable {v n : ℤ} (hv : Fits v) {x divisor : Binary64} (hx : x.toRat = v) (hdivisor : divisor.toRat = n)
  (hpos : 0 < n) (hbound : n < 2 ^ 63)

include hx hdivisor hpos hbound

/-- A whole binary64 number passes when it is zero or near to a multiple. -/
theorem isMultipleOf_float_iff (hsize : |v| < 2 ^ 64) :
    (float x).isMultipleOf divisor = true ↔ v = 0 ∨ x.NearMultiple divisor := by
  by_cases hne : v = 0
  · have hzero : x.toRat = 0 := by rw [hx, hne, Int.cast_zero]
    have hnonzero : divisor.toRat ≠ 0 := by
      rw [hdivisor]
      exact Int.cast_ne_zero.mpr hpos.ne'
    exact iff_of_true (isMultipleOf_float_zero hzero hnonzero) (.inl hne)
  · rw [isMultipleOf_float_iff_of_ne hx hdivisor hne hsize hpos hbound, or_iff_right hne]

/-- A whole number that is written as an integer is a multiple of a whole divisor below `2 ^ 63` exactly
when there is no remainder; one that is written as a binary64 number also when the rounded quotient is near
to a whole number other than zero. So the spelling never makes a multiple refused, and it makes no
difference exactly when only multiples are near to one. This is so up to `9 · 10 ^ 11`. From a quotient of
`6 · 10 ^ 11` on, every binary64 number passes. -/
theorem multiples_by_spelling :
    ((integer v hv).isMultipleOf divisor = true ↔ n ∣ v) ∧
      ((float x).isMultipleOf divisor = true ↔ v = 0 ∨ x.NearMultiple divisor) ∧
      ((integer v hv).isMultipleOf divisor = true → (float x).isMultipleOf divisor = true) ∧
      ((integer v hv).isMultipleOf divisor = (float x).isMultipleOf divisor ↔
        (x.NearMultiple divisor → n ∣ v)) ∧
      (|v| ≤ 900000000000 →
        (integer v hv).isMultipleOf divisor = (float x).isMultipleOf divisor) ∧
      (600000000000 * n ≤ |v| → (float x).isMultipleOf divisor = true) := by
  have hsize : |v| < 2 ^ 64 := by
    rw [abs_lt]
    exact ⟨by have := hv.1; omega, by have := hv.2; omega⟩
  have hinteger := isMultipleOf_integer_iff hv hdivisor hpos hbound
  have hfloat := isMultipleOf_float_iff hx hdivisor hpos hbound hsize
  have hnear (hdvd : n ∣ v) : v = 0 ∨ x.NearMultiple divisor :=
    or_iff_not_imp_left.mpr fun hne => nearMultiple_of_dvd hx hdivisor hne hsize hpos hbound hdvd
  have hsame : (integer v hv).isMultipleOf divisor = (float x).isMultipleOf divisor ↔
      (x.NearMultiple divisor → n ∣ v) := by
    rw [Bool.eq_iff_iff, hinteger, hfloat]
    constructor
    · exact fun h hmultiple => h.mpr (.inr hmultiple)
    · intro h
      refine ⟨hnear, ?_⟩
      rintro (rfl | hmultiple)
      · exact dvd_zero n
      · exact h hmultiple
  refine ⟨hinteger, hfloat, fun h => hfloat.mpr (hnear (hinteger.mp h)), hsame, fun hsmall => ?_,
    fun hlarge => hfloat.mpr (or_iff_not_imp_left.mpr fun hne => ?_)⟩
  · rw [hsame]
    intro hmultiple
    by_cases hne : v = 0
    · exact hne ▸ dvd_zero n
    · exact dvd_of_nearMultiple hx hdivisor hne hsize hpos hbound hsmall hmultiple
  · exact nearMultiple_of_le hx hdivisor hne hsize hpos hbound hlarge

end

/-- Ten is a multiple of two however it is written, and nine is not. -/
theorem multiples_by_spelling_ten_nine :
    let two : Binary64 := ⟨false, 4503599627370496, -51, by decide⟩
    let ten : Binary64 := ⟨false, 5629499534213120, -49, by decide⟩
    let nine : Binary64 := ⟨false, 5066549580791808, -49, by decide⟩
    two.toRat = (2 : ℤ) ∧ ten.toRat = (10 : ℤ) ∧ nine.toRat = (9 : ℤ) ∧
      (float ten).isMultipleOf two = true ∧ (float nine).isMultipleOf two = false := by
  intro two ten nine
  have htwo : two.toRat = (2 : ℤ) := by
    rw [Binary64.toRat_eq]
    norm_num [two, Binary64.signed]
  have hten : ten.toRat = (10 : ℤ) := by
    rw [Binary64.toRat_eq]
    norm_num [ten, Binary64.signed]
  have hnine : nine.toRat = (9 : ℤ) := by
    rw [Binary64.toRat_eq]
    norm_num [nine, Binary64.signed]
  have heven := multiples_by_spelling (v := 10) (by decide) hten htwo (by decide) (by decide)
  have hodd := multiples_by_spelling (v := 9) (by decide) hnine htwo (by decide) (by decide)
  refine ⟨htwo, hten, hnine, heven.2.2.1 (heven.1.mpr (by decide)), ?_⟩
  rw [← hodd.2.2.2.2.1 (by decide), Bool.eq_false_iff, ne_eq, hodd.1]
  decide

/-- The odd number behind `10 ^ 12` is a multiple of two when it is written as a binary64 number and not
when it is written as an integer, while a number just below is none either way. -/
theorem odd_number_passes_for_even :
    let two : Binary64 := ⟨false, 4503599627370496, -51, by decide⟩
    let odd : Binary64 := ⟨false, 8192000000008192, -13, by decide⟩
    let below : Binary64 := ⟨false, 8191999999991808, -13, by decide⟩
    two.toRat = (2 : ℤ) ∧ odd.toRat = (1000000000001 : ℤ) ∧ below.toRat = (999999999999 : ℤ) ∧
      (float odd).isMultipleOf two = true ∧
      (integer 1000000000001 (by decide)).isMultipleOf two = false ∧
      (float below).isMultipleOf two = false := by
  with_unfolding_all decide

end Number

end Draft6
