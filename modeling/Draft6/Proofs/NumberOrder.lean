import Draft6.Number
import Mathlib.Algebra.Order.Field.Rat
import Mathlib.Data.Rat.Floor
import Mathlib.Order.Compare
import Mathlib.Tactic.FieldSimp
import Mathlib.Tactic.Positivity
import Mathlib.Tactic.Ring

/-!
# The order of numbers

Numbers are compared on significands, whole parts and fractions, without rounding. The order so found
is the order of their exact rational values, also between an exact integer and a binary64 number.
-/

namespace Draft6

namespace Binary64

/-- The exact value is the signed significand times its power of two. -/
theorem toRat_eq (x : Binary64) : x.toRat = x.signed * (2 : ℚ) ^ x.exponent := by
  have hpower : (2 : ℚ) ^ x.exponent.toNat / 2 ^ (-x.exponent).toNat = 2 ^ x.exponent := by
    rw [← zpow_natCast, ← zpow_natCast, ← zpow_sub₀ two_ne_zero]
    congr 1
    omega
  rw [toRat, Rat.mkRat_eq_div, numerator, denominator, ← hpower, signed]
  cases x.negative <;> simp <;> ring

/-- The exact value of one. -/
theorem toRat_one : one.toRat = 1 := by
  rw [toRat_eq]
  norm_num [one, signed]

/-- The significand at a smaller exponent is the exact value over that power of two. -/
theorem signed_mul_pow (x : Binary64) (shared : ℤ) (h : shared ≤ x.exponent) :
    ((x.signed * Nat.pow 2 (x.exponent - shared).toNat : ℤ) : ℚ) = x.toRat * 2 ^ (-shared) := by
  rw [toRat_eq, mul_assoc, ← zpow_add₀ two_ne_zero, Nat.pow_eq]
  push_cast
  rw [← zpow_natCast, Int.toNat_of_nonneg (by omega), sub_eq_add_neg]

/-- Two binary64 numbers are compared by their exact values. -/
theorem compare_eq (x y : Binary64) : x.compare y = cmp x.toRat y.toRat := by
  have hpos : (0 : ℚ) < 2 ^ (-min x.exponent y.exponent) := zpow_pos two_pos _
  rw [compare, ← cmp_eq_compare, ← Int.cast_strictMono.cmp_map_eq (β := ℚ),
    signed_mul_pow x _ (min_le_left _ _), signed_mul_pow y _ (min_le_right _ _),
    cmp_mul_pos_right hpos]

/-- Two binary64 numbers compare as equal exactly when their exact values are. -/
theorem compare_eq_eq_iff (x y : Binary64) : x.compare y = .eq ↔ x.toRat = y.toRat := by
  rw [compare_eq, cmp_eq_eq_iff]

/-- The exact value is a quotient of whole numbers. -/
theorem toRat_eq_div (x : Binary64) :
    x.toRat = ((x.signed * Nat.pow 2 x.exponent.toNat : ℤ) : ℚ) / (x.denominator : ℕ) := by
  rw [toRat, Rat.mkRat_eq_div, numerator, signed]
  cases x.negative
  · simp
  · simp
    ring

/-- The denominator is a power of two. -/
theorem denominator_pos (x : Binary64) : 0 < x.denominator := Nat.pow_pos two_pos

/-- The largest integer that is not above a number is the floor of its exact value. -/
theorem floor_eq (x : Binary64) : x.floor = ⌊x.toRat⌋ := by
  rw [toRat_eq_div, Rat.floor_intCast_div_natCast, floor,
    Int.fdiv_eq_ediv_of_nonneg _ (Int.natCast_nonneg _)]

/-- A number has no fractional part exactly when it is the largest integer below itself. -/
theorem isWhole_iff (x : Binary64) : x.isWhole = true ↔ (x.floor : ℚ) = x.toRat := by
  have hd : ((x.denominator : ℕ) : ℚ) ≠ 0 := Nat.cast_ne_zero.mpr x.denominator_pos.ne'
  have habs : (x.signed * Nat.pow 2 x.exponent.toNat).natAbs = x.numerator := by
    rw [Int.natAbs_mul, Int.natAbs_natCast, numerator, signed]
    cases x.negative <;> simp
  have hwhole : x.isWhole = true ↔
      (x.denominator : ℤ) ∣ x.signed * Nat.pow 2 x.exponent.toNat := by
    rw [isWhole, decide_eq_true_eq, ← Nat.dvd_iff_mod_eq_zero, ← habs, Int.natCast_dvd]
  rw [hwhole, toRat_eq_div, eq_div_iff hd, floor,
    Int.fdiv_eq_ediv_of_nonneg _ (Int.natCast_nonneg _)]
  constructor
  · intro h
    exact_mod_cast Int.ediv_mul_cancel h
  · intro h
    exact Dvd.intro_left _ (by exact_mod_cast h)

/-- A number denotes an integer exactly when this is its exact value. -/
theorem toInt?_eq_some_iff {x : Binary64} {i : ℤ} : x.toInt? = some i ↔ x.toRat = i := by
  rw [toInt?]
  constructor
  · intro h
    split at h
    · next hwhole =>
      rw [← (isWhole_iff x).mp hwhole, Option.some.inj h]
    · cases h
  · intro h
    have hfloor : x.floor = i := by rw [floor_eq, h, Int.floor_intCast]
    rw [if_pos ((isWhole_iff x).mpr (by rw [hfloor, h])), hfloor]

/-- The other sign makes the exact value its opposite. -/
theorem toRat_negative {x : Binary64} (h : x.negative = false) :
    ({ x with negative := true } : Binary64).toRat = -x.toRat := by
  rw [toRat_eq, toRat_eq, signed, signed, h]
  simp

/-- An integer that is kept exactly lies inside the bound. -/
theorem lt_integerBound {i : ℤ} (hi : Number.Fits i) :
    -integerBound.toRat < i ∧ (i : ℚ) < integerBound.toRat := by
  have hbound : integerBound.toRat = 169999999999999998061923293023115935744 := by
    rw [toRat_eq]
    norm_num [integerBound, signed, zpow_natCast]
  obtain ⟨hlow, hhigh⟩ := hi
  rw [hbound]
  constructor
  · exact_mod_cast (by omega : -169999999999999998061923293023115935744 < i)
  · exact_mod_cast (by omega : i < 169999999999999998061923293023115935744)

/-- An integer is compared on the whole part and on the fraction of a number as on its exact value. -/
theorem compareInt_of_floor (i : ℤ) (x : Binary64) :
    (match Ord.compare i x.floor with
      | .eq => if x.isWhole then .eq else .lt
      | order => order) = cmp (i : ℚ) x.toRat := by
  have hle : (x.floor : ℚ) ≤ x.toRat := floor_eq x ▸ Int.floor_le _
  have hlt : x.toRat < x.floor + 1 := floor_eq x ▸ Int.lt_floor_add_one _
  rcases lt_trichotomy i x.floor with h | h | h
  · have hcast : (i : ℚ) < x.floor := by exact_mod_cast h
    rw [← cmp_eq_compare, (cmp_eq_lt_iff _ _).mpr h,
      (cmp_eq_lt_iff _ _).mpr (hcast.trans_le hle)]
  · subst h
    rw [← cmp_eq_compare, cmp_self_eq_eq]
    by_cases hwhole : x.isWhole = true
    · exact (if_pos hwhole).trans ((cmp_eq_eq_iff _ _).mpr ((isWhole_iff x).mp hwhole)).symm
    · have hne : (x.floor : ℚ) ≠ x.toRat := fun heq => hwhole ((isWhole_iff x).mpr heq)
      exact (if_neg hwhole).trans ((cmp_eq_lt_iff _ _).mpr (lt_of_le_of_ne hle hne)).symm
  · have hcast : (x.floor : ℚ) + 1 ≤ i := by exact_mod_cast h
    rw [← cmp_eq_compare, (cmp_eq_gt_iff _ _).mpr h,
      (cmp_eq_gt_iff _ _).mpr (hlt.trans_le hcast)]

/-- An integer that is kept exactly is compared with a binary64 number by their exact values. -/
theorem compareInt_eq {i : ℤ} (hi : Number.Fits i) (x : Binary64) :
    compareInt i x = cmp (i : ℚ) x.toRat := by
  obtain ⟨hlow, hhigh⟩ := lt_integerBound hi
  rw [compareInt]
  by_cases habove : x.compare integerBound ≠ .lt
  · rw [if_pos habove]
    rw [compare_eq, ne_eq, cmp_eq_lt_iff, not_lt] at habove
    exact ((cmp_eq_lt_iff _ _).mpr (hhigh.trans_le habove)).symm
  rw [if_neg habove]
  by_cases hbelow : x.compare { integerBound with negative := true } ≠ .gt
  · rw [if_pos hbelow]
    rw [compare_eq, toRat_negative rfl, ne_eq, cmp_eq_gt_iff, not_lt] at hbelow
    exact ((cmp_eq_gt_iff _ _).mpr (hbelow.trans_lt hlow)).symm
  · rw [if_neg hbelow]
    exact compareInt_of_floor i x

end Binary64

namespace Number

/-- Numbers are compared by their exact values. -/
theorem compare_eq (a b : Number) : a.compare b = cmp a.toRat b.toRat := by
  cases a with
  | integer i hi =>
    cases b with
    | integer j _ => rw [compare, ← cmp_eq_compare]; exact (Int.cast_strictMono.cmp_map_eq i j).symm
    | float y => exact Binary64.compareInt_eq hi y
  | float x =>
    cases b with
    | integer j hj =>
      rw [compare, Binary64.compareInt_eq hj, cmp_swap]
      rfl
    | float y => exact Binary64.compare_eq x y

/-- One number compares below another exactly when its exact value is smaller. -/
theorem compare_eq_lt_iff (a b : Number) : a.compare b = .lt ↔ a.toRat < b.toRat := by
  rw [compare_eq, cmp_eq_lt_iff]

/-- Two numbers compare as equal exactly when their exact values are. -/
theorem compare_eq_eq_iff (a b : Number) : a.compare b = .eq ↔ a.toRat = b.toRat := by
  rw [compare_eq, cmp_eq_eq_iff]

/-- One number compares above another exactly when its exact value is larger. -/
theorem compare_eq_gt_iff (a b : Number) : a.compare b = .gt ↔ b.toRat < a.toRat := by
  rw [compare_eq, cmp_eq_gt_iff]

end Number

end Draft6
