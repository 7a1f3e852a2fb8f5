import Draft6.Proofs.NumberEquality
import Draft6.Proofs.Rounding

/-!
# Rounded quotients and products

A quotient or product far from the ends of the format is rounded with a relative error of one part in
`2 ^ 53`, and not at all when it is a whole number of at most 53 bits. The nearest whole number of a
number is at most one half away, and so no whole number is nearer.
-/

namespace Draft6

namespace Binary64

/-- The sign of a product. -/
theorem sign_bne (a b : Bool) : sign (a != b) = sign a * sign b := by
  cases a <;> cases b <;> simp [sign]

/-- The sign of a quotient. -/
theorem sign_div (a b : Bool) : sign a / sign b = sign (a != b) := by
  cases a <;> cases b <;> simp [sign]

/-- A sign changes no size. -/
theorem abs_sign_mul (negative : Bool) (r : ℚ) : |sign negative * r| = |r| := by
  cases negative <;> simp [sign]

/-- A ratio with a sign, far from the ends of the format, is moved by at most one part in `2 ^ 53`, and
not at all when it is an integer of at most 53 bits. -/
theorem exists_ofRatio?_sign (negative : Bool) {numerator denominator : ℕ} {r : ℚ}
    (hr : r = sign negative * (numerator / denominator)) (hdenominator : 0 < denominator)
    (hlow : (2 : ℚ) ^ (-1000 : ℤ) ≤ |r|) (hhigh : |r| < 2 ^ (1000 : ℤ)) :
    ∃ x, ofRatio? negative numerator denominator = some x ∧ |x.toRat - r| ≤ |r| / 2 ^ 53 ∧
      ∀ i : ℤ, |i| < 2 ^ 53 → r = i → x.toRat = i := by
  have hnonneg : (0 : ℚ) ≤ numerator / denominator := div_nonneg (Nat.cast_nonneg _) (Nat.cast_nonneg _)
  have hsize : |r| = (numerator : ℚ) / denominator := by rw [hr, abs_sign_mul, abs_of_nonneg hnonneg]
  rw [hsize] at hlow hhigh
  obtain ⟨x, hx, hnear, hexact⟩ := exists_ofRatio?_near negative hdenominator hlow hhigh
  have hvalue : x.toRat = sign negative * |x.toRat| := by
    rw [← negative_of_ofRatio? hx]
    exact x.toRat_eq_sign_mul
  refine ⟨x, hx, ?_, fun i hi hwhole => ?_⟩
  · rw [hvalue, hr, ← mul_sub, abs_sign_mul, ← hr, hsize]
    exact hnear
  · have hnat : (numerator : ℚ) / denominator = (i.natAbs : ℕ) := by
      rw [← hsize, hwhole, Nat.cast_natAbs, Int.cast_abs]
    have hbits : i.natAbs < 2 ^ 53 := by
      rw [Int.abs_eq_natAbs] at hi
      exact_mod_cast hi
    rw [hvalue, hexact i.natAbs hbits hnat, ← hnat, ← hr, hwhole]

/-- A quotient is rounded with a relative error of one part in `2 ^ 53`, and not at all when it is an
integer of at most 53 bits. -/
theorem exists_div? {x y : Binary64} (hlow : (2 : ℚ) ^ (-1000 : ℤ) ≤ |x.toRat / y.toRat|)
    (hhigh : |x.toRat / y.toRat| < 2 ^ (1000 : ℤ)) :
    ∃ quotient, x.div? y = some quotient ∧
      |quotient.toRat - x.toRat / y.toRat| ≤ |x.toRat / y.toRat| / 2 ^ 53 ∧
        ∀ i : ℤ, |i| < 2 ^ 53 → x.toRat / y.toRat = i → quotient.toRat = i := by
  have hne : y.toRat ≠ 0 := by
    intro hzero
    rw [hzero, div_zero, abs_zero] at hlow
    exact absurd hlow (not_le.mpr (zpow_pos two_pos _))
  have hpos := significand_pos_of_toRat_ne hne
  have hratio : x.toRat / y.toRat = sign (x.negative != y.negative) *
      ((x.numerator * y.denominator : ℕ) / (x.denominator * y.numerator : ℕ)) := by
    rw [toRat_eq_sign_mul x, toRat_eq_sign_mul y, mul_div_mul_comm, sign_div,
      ← numerator_div_denominator, ← numerator_div_denominator, div_div_div_eq]
    push_cast
    rfl
  rw [div?, isZero, decide_eq_false hpos.ne']
  exact exists_ofRatio?_sign _ hratio
    (Nat.mul_pos x.denominator_pos (Nat.mul_pos hpos (Nat.two_pow_pos _))) hlow hhigh

/-- A product is rounded with a relative error of one part in `2 ^ 53`. -/
theorem exists_mul? {x y : Binary64} (hlow : (2 : ℚ) ^ (-1000 : ℤ) ≤ |x.toRat * y.toRat|)
    (hhigh : |x.toRat * y.toRat| < 2 ^ (1000 : ℤ)) :
    ∃ product, x.mul? y = some product ∧
      |product.toRat - x.toRat * y.toRat| ≤ |x.toRat * y.toRat| / 2 ^ 53 := by
  have hratio : x.toRat * y.toRat = sign (x.negative != y.negative) *
      ((x.numerator * y.numerator : ℕ) / (x.denominator * y.denominator : ℕ)) := by
    rw [toRat_eq_sign_mul x, toRat_eq_sign_mul y, mul_mul_mul_comm, ← sign_bne,
      ← numerator_div_denominator, ← numerator_div_denominator, div_mul_div_comm]
    push_cast
    rfl
  obtain ⟨product, hproduct, hnear, -⟩ := exists_ofRatio?_sign _ hratio
    (Nat.mul_pos x.denominator_pos y.denominator_pos) hlow hhigh
  exact ⟨product, hproduct, hnear⟩

/-- A number that is not zero goes into itself once. -/
theorem div?_self {x : Binary64} (h : x.toRat ≠ 0) : x.div? x = some one := by
  have hratio : x.toRat / x.toRat = (1 : ℤ) := by rw [div_self h, Int.cast_one]
  have hsize : |x.toRat / x.toRat| = 1 := by rw [hratio, Int.cast_one, abs_one]
  obtain ⟨quotient, hquotient, -, hexact⟩ := exists_div? (x := x) (y := x)
    (by rw [hsize]; exact zpow_le_one_of_nonpos₀ one_le_two (by decide))
    (by rw [hsize]; exact one_lt_zpow₀ one_lt_two (by decide))
  -- Only one number denotes one.
  have hone : some one = some quotient :=
    (show some one = ofInt? 1 by decide).trans
      (ofInt?_of_toRat_pos one_pos (hexact 1 (by norm_num) hratio))
  rw [hquotient, hone]

/-! ## The nearest whole number -/

/-- The nearest whole number is found from the number without its sign. -/
theorem roundHalfAway_eq (x : Binary64) :
    (x.roundHalfAway : ℚ) = sign x.negative * (⌊|x.toRat| + 1 / 2⌋ : ℤ) := by
  have hd : (x.denominator : ℚ) ≠ 0 := Nat.cast_ne_zero.mpr x.denominator_pos.ne'
  have hhalf : |x.toRat| + 1 / 2 =
      ((2 * x.numerator + x.denominator : ℕ) : ℤ) / (2 * x.denominator : ℕ) := by
    rw [← numerator_div_denominator]
    push_cast
    field_simp
  rw [hhalf, Rat.floor_intCast_div_natCast, roundHalfAway, sign]
  cases x.negative <;> simp

/-- The nearest whole number is at most one half away. -/
theorem abs_sub_roundHalfAway_le (x : Binary64) : |x.toRat - x.roundHalfAway| ≤ 1 / 2 := by
  have hbelow := Int.floor_le (|x.toRat| + 1 / 2)
  have habove := Int.lt_floor_add_one (|x.toRat| + 1 / 2)
  rw [roundHalfAway_eq]
  nth_rewrite 1 [x.toRat_eq_sign_mul]
  rw [← mul_sub, abs_sign_mul, abs_le]
  constructor <;> linarith

/-- No whole number is nearer than the nearest. -/
theorem abs_sub_roundHalfAway_le_abs_sub (x : Binary64) (whole : ℤ) :
    |x.toRat - x.roundHalfAway| ≤ |x.toRat - whole| := by
  by_cases hsame : x.roundHalfAway = whole
  · rw [hsame]
  · have hnear := x.abs_sub_roundHalfAway_le
    have happart : (1 : ℚ) ≤ |(whole : ℚ) - x.roundHalfAway| := by
      exact_mod_cast Int.one_le_abs (sub_ne_zero.mpr (Ne.symm hsame))
    have htriangle := abs_sub_le (whole : ℚ) x.toRat x.roundHalfAway
    rw [abs_sub_comm (whole : ℚ) x.toRat] at htriangle
    linarith

/-- The nearest whole number is zero below one half. -/
theorem roundHalfAway_eq_zero_iff (x : Binary64) : x.roundHalfAway = 0 ↔ |x.toRat| < 1 / 2 := by
  have hnonneg := abs_nonneg x.toRat
  have hfloor : ⌊|x.toRat| + 1 / 2⌋ = 0 ↔ |x.toRat| < 1 / 2 := by
    rw [Int.floor_eq_zero_iff, Set.mem_Ico]
    constructor
    · intro h
      linarith [h.2]
    · intro h
      constructor <;> linarith
  rw [← hfloor, ← Int.cast_eq_zero (α := ℚ), roundHalfAway_eq, mul_eq_zero, Int.cast_eq_zero]
  refine or_iff_right ?_
  cases x.negative <;> simp [sign]

end Binary64

end Draft6
