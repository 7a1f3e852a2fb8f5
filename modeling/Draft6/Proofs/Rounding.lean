import Draft6.Proofs.NumberOrder
import Draft6.Proofs.WholeNumber
import Mathlib.Algebra.Order.Archimedean.Basic
import Mathlib.Tactic.Linarith

/-!
# Rounding a ratio to binary64

A positive ratio lies between two neighbouring powers of two, and the exponent of the number that it is
rounded to is found from them. At this exponent the significand is a whole number at most one half away
from the exact one. So a ratio that needs no rounding is not changed, and any other one by at most one
part in `2 ^ 53`.
-/

namespace Draft6

namespace Binary64

/-- Without its sign a number is its significand times its power of two. -/
theorem abs_toRat (x : Binary64) : |x.toRat| = x.significand * (2 : ℚ) ^ x.exponent := by
  have hpower : (0 : ℚ) < 2 ^ x.exponent := zpow_pos two_pos _
  rw [toRat_eq, abs_mul, abs_of_pos hpower, signed]
  cases x.negative <;> simp

/-- A quotient is rounded to a whole number that is at most one half away. -/
theorem abs_roundHalfEven_sub_le (numerator denominator : ℕ) (h : 0 < denominator) :
    |(roundHalfEven numerator denominator : ℚ) - numerator / denominator| ≤ 1 / 2 := by
  have hcast : (0 : ℚ) < denominator := Nat.cast_pos.mpr h
  have hsplit : (numerator : ℚ) =
      denominator * (numerator / denominator : ℕ) + (numerator % denominator : ℕ) := by
    exact_mod_cast (Nat.div_add_mod numerator denominator).symm
  have hmod : ((numerator % denominator : ℕ) : ℚ) < denominator :=
    Nat.cast_lt.mpr (Nat.mod_lt numerator h)
  have hquotient : (numerator : ℚ) / denominator =
      (numerator / denominator : ℕ) + (numerator % denominator : ℕ) / denominator := by
    rw [eq_comm, ← mul_left_inj' hcast.ne', add_mul, div_mul_cancel₀ _ hcast.ne',
      div_mul_cancel₀ _ hcast.ne', mul_comm, ← hsplit]
  have hnonneg : (0 : ℚ) ≤ (numerator % denominator : ℕ) / denominator := by positivity
  rw [hquotient, abs_le]
  generalize hq : numerator / denominator = quotient at *
  generalize hr : numerator % denominator = rest at *
  have hbelow (h : 2 * rest ≤ denominator) : (rest : ℚ) / denominator ≤ 1 / 2 := by
    rw [div_le_iff₀ hcast]
    have : (2 * rest : ℚ) ≤ denominator := by exact_mod_cast h
    linarith
  have habove (h : denominator ≤ 2 * rest) : (1 : ℚ) / 2 ≤ rest / denominator := by
    rw [le_div_iff₀ hcast]
    have : (denominator : ℚ) ≤ 2 * rest := by exact_mod_cast h
    linarith
  have hone : (rest : ℚ) / denominator < 1 := (div_lt_one hcast).mpr hmod
  simp only [roundHalfEven, hq, hr]
  split
  · next hlt =>
    have := hbelow hlt.le
    constructor <;> linarith
  · split
    · next hlt =>
      have := habove hlt.le
      push_cast
      constructor <;> linarith
    · -- In the middle both neighbours are one half away.
      next hge hle =>
      have hhalf := (hbelow (by omega)).antisymm (habove (by omega))
      rcases Nat.mod_two_eq_zero_or_one quotient with h | h <;> rw [h] <;> push_cast <;>
        constructor <;> linarith

/-- A ratio is compared in natural numbers with a significand of 54 bits at some exponent. -/
theorem mul_pow_lt_iff {numerator denominator : ℕ} (hdenominator : 0 < denominator) (exponent : ℤ) :
    numerator * Nat.pow 2 (-exponent).toNat <
        Nat.pow 2 53 * (denominator * Nat.pow 2 exponent.toNat) ↔
      (numerator : ℚ) / denominator < 2 ^ (53 + exponent) := by
  have hd : (0 : ℚ) < denominator := Nat.cast_pos.mpr hdenominator
  have hpos : (0 : ℚ) < 2 ^ (-exponent).toNat := pow_pos two_pos _
  have hpower : (2 : ℚ) ^ exponent.toNat = 2 ^ exponent * 2 ^ (-exponent).toNat := by
    rw [← zpow_natCast, ← zpow_natCast, ← zpow_add₀ two_ne_zero]
    congr 1
    omega
  have hscaled : (9007199254740992 : ℚ) * (denominator * 2 ^ exponent.toNat) =
      2 ^ (53 + exponent) * denominator * 2 ^ (-exponent).toNat := by
    rw [hpower, zpow_add₀ two_ne_zero, show (2 : ℚ) ^ (53 : ℤ) = 9007199254740992 by norm_num]
    ring
  rw [div_lt_iff₀ hd, ← Nat.cast_lt (α := ℚ)]
  push_cast [Nat.pow_eq]
  rw [hscaled]
  exact mul_lt_mul_iff_left₀ hpos

/-- The exponent of a ratio is found from the powers of two that it lies between. -/
theorem exponentOf_eq {numerator denominator : ℕ} (hdenominator : 0 < denominator) {exponent : ℤ}
    (hlow : (2 : ℚ) ^ (52 + exponent) ≤ numerator / denominator)
    (hhigh : (numerator : ℚ) / denominator < 2 ^ (53 + exponent)) :
    exponentOf numerator denominator = max exponent (-1074) := by
  have hd : (0 : ℚ) < denominator := Nat.cast_pos.mpr hdenominator
  have hn : (0 : ℚ) < numerator :=
    (div_pos_iff_of_pos_right hd).mp ((zpow_pos two_pos _).trans_le hlow)
  have hnumerator : numerator ≠ 0 := (Nat.cast_pos.mp hn).ne'
  have hbits (n : ℕ) (hn : n ≠ 0) :
      (2 : ℚ) ^ (n.log2 : ℤ) ≤ n ∧ (n : ℚ) < 2 ^ ((n.log2 : ℤ) + 1) := by
    rw [← Nat.cast_add_one, zpow_natCast, zpow_natCast]
    exact ⟨by exact_mod_cast Nat.log2_self_le hn, by exact_mod_cast Nat.lt_log2_self⟩
  obtain ⟨hnLow, hnHigh⟩ := hbits numerator hnumerator
  obtain ⟨hdLow, hdHigh⟩ := hbits denominator hdenominator.ne'
  set a : ℤ := (numerator.log2 : ℤ) with ha
  set b : ℤ := (denominator.log2 : ℤ) with hb
  -- The numbers of bits leave two exponents.
  have hupper : 52 + exponent < a + 1 - b := by
    rw [← zpow_lt_zpow_iff_right₀ (one_lt_two (α := ℚ))]
    refine hlow.trans_lt ?_
    rw [zpow_sub₀ two_ne_zero]
    exact div_lt_div₀ hnHigh hdLow (zpow_pos two_pos _).le (zpow_pos two_pos _)
  have hlower : a - (b + 1) < 53 + exponent := by
    rw [← zpow_lt_zpow_iff_right₀ (one_lt_two (α := ℚ))]
    refine lt_trans ?_ hhigh
    rw [zpow_sub₀ two_ne_zero]
    exact div_lt_div₀' hnLow hdHigh hn hd
  rw [exponentOf]
  simp only [← ha, ← hb, mul_pow_lt_iff hdenominator]
  rcases (by omega : exponent = a - b - 53 ∨ exponent = a - b - 53 + 1) with h | h
  · rw [if_pos (h ▸ hhigh), h]
  · rw [if_neg (not_lt.mpr ?_), h]
    rwa [show 53 + (a - b - 53) = 52 + exponent by omega]

/-- A significand of 53 bits, or the one that rounding up leads to, makes a number of that value. -/
theorem exists_ofParts?_toRat (negative : Bool) {significand : ℕ} {exponent : ℤ}
    (hlow : 2 ^ 52 ≤ significand) (hhigh : significand ≤ 2 ^ 53) (hsmall : -1074 ≤ exponent)
    (hlarge : exponent < 971) :
    ∃ x, ofParts? negative significand exponent = some x ∧
      |x.toRat| = significand * (2 : ℚ) ^ exponent := by
  rw [ofParts?]
  split
  · exact ⟨_, rfl, abs_toRat _⟩
  · next hcanonical =>
    have hcarry : significand = 9007199254740992 ∧ Canonical 4503599627370496 (exponent + 1) := by
      unfold Canonical at hcanonical ⊢
      omega
    rw [dif_pos hcarry]
    refine ⟨_, rfl, ?_⟩
    have hsignificand : (significand : ℚ) = 4503599627370496 * 2 := by
      rw [hcarry.1]
      norm_num
    rw [abs_toRat, hsignificand, zpow_add_one₀ two_ne_zero]
    push_cast
    ring

/-- A ratio between two neighbouring powers of two is rounded to a significand at most one half away from
the exact one. -/
theorem exists_ofRatio? (negative : Bool) {numerator denominator : ℕ} (hdenominator : 0 < denominator)
    {exponent : ℤ} (hsmall : -1074 ≤ exponent) (hlarge : exponent < 971)
    (hlow : (2 : ℚ) ^ (52 + exponent) ≤ numerator / denominator)
    (hhigh : (numerator : ℚ) / denominator < 2 ^ (53 + exponent)) :
    ∃ x, ∃ significand : ℕ, ofRatio? negative numerator denominator = some x ∧
      |x.toRat| = significand * (2 : ℚ) ^ exponent ∧
        |significand - (numerator : ℚ) / denominator * 2 ^ (-exponent)| ≤ 1 / 2 := by
  have hnumerator : numerator ≠ 0 := by
    rintro rfl
    rw [Nat.cast_zero, zero_div] at hlow
    exact absurd hlow (not_le.mpr (zpow_pos two_pos _))
  have hfound : exponentOf numerator denominator = exponent := by
    rw [exponentOf_eq hdenominator hlow hhigh, max_eq_left hsmall]
  set n := numerator * Nat.pow 2 (-exponent).toNat with hn
  set d := denominator * Nat.pow 2 exponent.toNat with hd
  have hdpos : 0 < d := Nat.mul_pos hdenominator (Nat.two_pow_pos _)
  have hratio : (n : ℚ) / d = numerator / denominator * 2 ^ (-exponent) := by
    have hpower : (2 : ℚ) ^ (-exponent).toNat / 2 ^ exponent.toNat = 2 ^ (-exponent) := by
      rw [← zpow_natCast, ← zpow_natCast, ← zpow_sub₀ two_ne_zero]
      congr 1
      omega
    rw [hn, hd, ← hpower]
    simp only [Nat.pow_eq]
    push_cast
    rw [mul_div_mul_comm]
  have hnear := abs_roundHalfEven_sub_le n d hdpos
  rw [hratio] at hnear
  have hscale : (2 : ℚ) ^ 52 ≤ numerator / denominator * 2 ^ (-exponent) ∧
      (numerator : ℚ) / denominator * 2 ^ (-exponent) < 2 ^ 53 := by
    have hpos : (0 : ℚ) < 2 ^ exponent := zpow_pos two_pos _
    rw [zpow_add₀ two_ne_zero] at hlow hhigh
    rw [zpow_neg, ← div_eq_mul_inv, le_div_iff₀ hpos, div_lt_iff₀ hpos]
    exact ⟨hlow, hhigh⟩
  -- Both bounds are whole, so the rounded significand stays within them.
  have hwithin : 2 ^ 52 ≤ roundHalfEven n d ∧ roundHalfEven n d ≤ 2 ^ 53 := by
    obtain ⟨hbelow, habove⟩ := abs_le.mp hnear
    have hmin : ((2 ^ 52 : ℕ) : ℚ) < (roundHalfEven n d : ℕ) + 1 := by
      push_cast
      linarith [hscale.1]
    have hmax : ((roundHalfEven n d : ℕ) : ℚ) < (2 ^ 53 : ℕ) + 1 := by
      push_cast
      linarith [hscale.2]
    exact ⟨Nat.lt_add_one_iff.mp (by exact_mod_cast hmin),
      Nat.lt_add_one_iff.mp (by exact_mod_cast hmax)⟩
  obtain ⟨x, hx, hvalue⟩ := exists_ofParts?_toRat negative hwithin.1 hwithin.2 hsmall hlarge
  refine ⟨x, roundHalfEven n d, ?_, hvalue, hnear⟩
  rw [ofRatio?, if_neg hnumerator]
  simp only [hfound]
  exact hx

/-- The sign of a number as a factor. -/
def sign (negative : Bool) : ℚ := if negative then -1 else 1

/-- A number is its size with its sign. -/
theorem toRat_eq_sign_mul (x : Binary64) : x.toRat = sign x.negative * |x.toRat| := by
  rw [abs_toRat, toRat_eq, signed, sign]
  cases x.negative <;> simp

/-- A number other than zero has a significand. -/
theorem significand_pos_of_toRat_ne {x : Binary64} (h : x.toRat ≠ 0) : 0 < x.significand := by
  refine Nat.pos_of_ne_zero fun hzero => h ?_
  rw [toRat_eq, signed, hzero]
  simp

/-- A number of `2 ^ 52` or more in size is whole. -/
theorem exists_toRat_eq_intCast {x : Binary64} (h : 2 ^ 52 ≤ |x.toRat|) : ∃ i : ℤ, x.toRat = i := by
  have hexponent : 0 ≤ x.exponent := by
    by_contra hnegative
    have hbelow : |x.toRat| < 2 ^ 53 * 2 ^ (-1 : ℤ) := by
      rw [abs_toRat]
      calc (x.significand : ℚ) * 2 ^ x.exponent < 2 ^ 53 * 2 ^ x.exponent :=
            mul_lt_mul_of_pos_right (by exact_mod_cast x.canonical.1) (zpow_pos two_pos _)
        _ ≤ 2 ^ 53 * 2 ^ (-1 : ℤ) := mul_le_mul_of_nonneg_left
            (zpow_le_zpow_right₀ one_le_two (by omega)) (by positivity)
    norm_num at h hbelow
    exact absurd hbelow (not_lt.mpr h)
  refine ⟨x.signed * 2 ^ x.exponent.toNat, ?_⟩
  push_cast
  rw [toRat_eq, ← zpow_natCast, Int.toNat_of_nonneg hexponent]

/-- The numerator over the denominator is the size of a number. -/
theorem numerator_div_denominator (x : Binary64) :
    (x.numerator : ℚ) / x.denominator = |x.toRat| := by
  rw [toRat, Rat.mkRat_eq_div]
  push_cast
  rw [abs_mul, abs_of_nonneg (by positivity : (0 : ℚ) ≤ x.numerator / x.denominator)]
  cases x.negative <;> simp

/-- A ratio that is far from the ends of the format is moved by at most one part in `2 ^ 53`, and not at
all when it is a natural number of at most 53 bits. -/
theorem exists_ofRatio?_near (negative : Bool) {numerator denominator : ℕ}
    (hdenominator : 0 < denominator) (hlow : (2 : ℚ) ^ (-1000 : ℤ) ≤ numerator / denominator)
    (hhigh : (numerator : ℚ) / denominator < 2 ^ (1000 : ℤ)) :
    ∃ x, ofRatio? negative numerator denominator = some x ∧
      |(|x.toRat|) - (numerator : ℚ) / denominator| ≤ numerator / denominator / 2 ^ 53 ∧
        ∀ n : ℕ, n < 2 ^ 53 → (numerator : ℚ) / denominator = n → |x.toRat| = n := by
  set ratio := (numerator : ℚ) / denominator with hratio
  have hpos : 0 < ratio := (zpow_pos two_pos _).trans_le hlow
  obtain ⟨bits, hbelow, habove⟩ := exists_mem_Ico_zpow hpos (one_lt_two (α := ℚ))
  have hsmall : -1000 < bits + 1 :=
    (zpow_lt_zpow_iff_right₀ (one_lt_two (α := ℚ))).mp (hlow.trans_lt habove)
  have hlarge : bits < 1000 :=
    (zpow_lt_zpow_iff_right₀ (one_lt_two (α := ℚ))).mp (hbelow.trans_lt hhigh)
  rw [hratio, ← add_sub_cancel 52 bits] at hbelow
  rw [hratio, show bits + 1 = 53 + (bits - 52) by ring] at habove
  obtain ⟨x, significand, hx, hvalue, hnear⟩ :=
    exists_ofRatio? negative hdenominator (by omega) (by omega) hbelow habove
  rw [← hratio, add_sub_cancel] at hbelow
  have hpower : (0 : ℚ) < 2 ^ (bits - 52) := zpow_pos two_pos _
  rw [← hratio, zpow_neg] at hnear
  refine ⟨x, hx, ?_, fun n hn hwhole => ?_⟩
  · have hdistance : |(|x.toRat|) - ratio| =
        |significand - ratio * (2 ^ (bits - 52))⁻¹| * 2 ^ (bits - 52) := by
      rw [← abs_of_pos hpower, ← abs_mul, abs_of_pos hpower, sub_mul,
        inv_mul_cancel_right₀ hpower.ne', hvalue]
    have hhalf : (1 : ℚ) / 2 * 2 ^ (bits - 52) = 2 ^ bits / 2 ^ 53 := by
      rw [zpow_sub₀ two_ne_zero]
      norm_num
      ring
    calc |(|x.toRat|) - ratio| ≤ 1 / 2 * 2 ^ (bits - 52) := by
          rw [hdistance]
          exact mul_le_mul_of_nonneg_right hnear hpower.le
      _ = 2 ^ bits / 2 ^ 53 := hhalf
      _ ≤ ratio / 2 ^ 53 := div_le_div_of_nonneg_right hbelow (by positivity)
  · -- The exact significand is whole, so the rounded one is the same.
    have hbits : bits < 53 := by
      rw [← zpow_lt_zpow_iff_right₀ (one_lt_two (α := ℚ))]
      refine hbelow.trans_lt ?_
      rw [hwhole]
      exact_mod_cast hn
    obtain ⟨shift, hshift⟩ : ∃ shift : ℕ, bits - 52 = -(shift : ℤ) := ⟨(52 - bits).toNat, by omega⟩
    rw [hshift, zpow_neg, inv_inv, zpow_natCast, hwhole] at hnear
    have hsame : significand = n * 2 ^ shift := by
      have hlt : |((significand : ℤ) - (n * 2 ^ shift : ℕ) : ℤ)| < 1 := by
        rw [← Int.cast_lt (R := ℚ)]
        push_cast
        linarith
      have := Int.abs_lt_one_iff.mp hlt
      omega
    rw [hvalue, hshift, zpow_neg, zpow_natCast, hsame]
    push_cast
    rw [mul_inv_cancel_right₀ (pow_ne_zero _ two_ne_zero)]

end Binary64

end Draft6
