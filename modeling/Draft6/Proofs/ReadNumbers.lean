import Draft6.Proofs.Rounding
import Draft6.Schema.Decode

/-!
# Numbers that a schema may hold

A size is read from every whole number between zero and `2 ^ 64`, however it is written. A divisor is
read from every positive number: the sign of an integer survives rounding, and a positive integer that
is kept exactly rounds to a number that is neither too large nor zero.
-/

namespace Draft6

namespace Binary64

/-- A positive integer that is kept exactly rounds to a number that is not zero. -/
theorem exists_ofInt?_of_pos (n : Nat) (hpos : 0 < n) (hfits : n < 2 ^ 64) :
    ∃ x, ofInt? n = some x ∧ 0 < x.significand := by
  have hone : (1 : ℚ) ≤ n := Nat.one_le_cast.mpr hpos
  have hlow : (2 : ℚ) ^ (-1000 : ℤ) ≤ (n : ℚ) / (1 : ℕ) := by
    rw [Nat.cast_one, div_one]
    exact (zpow_le_one_of_nonpos₀ one_le_two (by decide)).trans hone
  have hhigh : (n : ℚ) / (1 : ℕ) < 2 ^ (1000 : ℤ) := by
    rw [Nat.cast_one, div_one]
    refine lt_trans (b := (2 : ℚ) ^ (64 : ℤ)) ?_ (zpow_lt_zpow_right₀ one_lt_two (by decide))
    exact_mod_cast hfits
  obtain ⟨x, hx, hnear, -⟩ := exists_ofRatio?_near false Nat.one_pos hlow hhigh
  rw [Nat.cast_one, div_one] at hnear
  refine ⟨x, ?_, significand_pos_of_toRat_ne fun hzero => ?_⟩
  · rw [ofInt?, decide_eq_false (by omega), Int.natAbs_natCast]
    exact hx
  · rw [hzero, abs_zero, zero_sub, abs_neg, abs_of_pos (by linarith)] at hnear
    linarith

/-- Rounding keeps the sign. -/
theorem negative_of_ofRatio? {negative : Bool} {numerator denominator : Nat} {x : Binary64}
    (h : ofRatio? negative numerator denominator = some x) : x.negative = negative := by
  rw [ofRatio?] at h
  split at h
  · cases h
    rfl
  · dsimp only [ofParts?] at h
    split at h
    · cases h
      rfl
    · split at h
      · cases h
        rfl
      · cases h

/-- A number is above zero when its exact value is. -/
theorem compare_zero_eq_gt_iff (x : Binary64) : x.compare zero = .gt ↔ 0 < x.toRat := by
  rw [compare_eq, cmp_eq_gt_iff, toRat_eq zero, show zero.signed = 0 from rfl, Int.cast_zero, zero_mul]

end Binary64

namespace Number

/-- The nearest binary64 number to a number is above zero exactly when the number is. -/
theorem toBinary64_pos_iff (n : Number) : n.toBinary64.compare .zero = .gt ↔ 0 < n.toRat := by
  cases n with
  | float x => exact x.compare_zero_eq_gt_iff
  | integer value hfits =>
    change ((Binary64.ofInt? value).getD .zero).compare .zero = .gt ↔ 0 < (value : ℚ)
    rw [Int.cast_pos]
    constructor
    · intro h
      cases hx : Binary64.ofInt? value with
      | none =>
        rw [hx] at h
        cases h
      | some x =>
        rw [hx] at h
        obtain ⟨hsign, hpos⟩ := x.pos_of_compare_zero h
        have hnegative := Binary64.negative_of_ofRatio? hx
        rw [hsign, eq_comm, decide_eq_false_iff_not] at hnegative
        refine lt_of_le_of_ne (not_lt.mp hnegative) fun hzero => ?_
        subst hzero
        cases hx
        cases hpos
    · intro hpos
      obtain ⟨m, rfl⟩ : ∃ m : Nat, value = m := ⟨value.toNat, by omega⟩
      obtain ⟨x, hx, hsignificand⟩ :=
        Binary64.exists_ofInt?_of_pos m (by omega) (by have := hfits.2; omega)
      have hnegative := Binary64.negative_of_ofRatio? hx
      rw [decide_eq_false (by omega)] at hnegative
      rw [hx, Option.getD_some, Binary64.compare_zero_eq_gt_iff, Binary64.toRat_eq,
        Binary64.signed, hnegative]
      have hcast : (0 : ℚ) < x.significand := Nat.cast_pos.mpr hsignificand
      simpa using mul_pos hcast (zpow_pos two_pos x.exponent)

end Number

namespace Json

/-- The largest number that is read as a size. -/
def sizeBound : ℚ := 18446744073709551616

/-- A size is read from the whole numbers from zero up to the bound. -/
theorem size?_isSome_iff (n : Number) :
    (size? n).isSome = true ↔ n.isWhole = true ∧ 0 ≤ n.toRat ∧ n.toRat ≤ sizeBound := by
  cases n with
  | integer value hfits =>
    have hbound : (value : ℚ) ≤ sizeBound := by
      have hlt := hfits.2
      rw [sizeBound]
      exact_mod_cast hlt.le
    have hcast : (0 : ℚ) ≤ value ↔ 0 ≤ value := Int.cast_nonneg_iff
    simp only [size?, Number.isWhole, Number.toRat, hcast, hbound, and_true, true_and]
    split <;> simp_all
  | float x =>
    simp only [size?, Number.isWhole, Number.toRat, Binary64.toInt?]
    split
    · next hwhole =>
      rw [← (Binary64.isWhole_iff x).mp hwhole, sizeBound, Option.bind_some]
      have hcast : ((x.floor : ℚ) ≤ 18446744073709551616) ↔ x.floor ≤ 18446744073709551616 := by
        exact_mod_cast Iff.rfl
      rw [Int.cast_nonneg_iff, hcast]
      split <;> simp_all
    · next hwhole => simp [hwhole]

end Json

end Draft6
