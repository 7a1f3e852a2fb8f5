import Draft6.Schema.Encode
import Mathlib.Algebra.Order.Ring.Int
import Mathlib.Data.Nat.Log
import Mathlib.Tactic.Ring

/-!
# Whole binary64 numbers as integers

A positive whole binary64 number has a significand of 53 bits, since a smaller one would have the
smallest exponent and so a fraction. Rounding the integer that it denotes therefore finds the same
exponent and significand again. So a divisor that is written as an integer reads as the same divisor.
-/

namespace Draft6

namespace Binary64

/-- A quotient without remainder is not rounded. -/
theorem roundHalfEven_mul (significand denominator : Nat) (h : 0 < denominator) :
    roundHalfEven (significand * denominator) denominator = significand := by
  simp [roundHalfEven, Nat.mul_mod_left, Nat.mul_div_cancel _ h, h]

/-- The exponent for a natural number of a given number of bits. -/
theorem exponentOf_one (n bits : Nat) (hlow : 2 ^ bits ≤ n) (hhigh : n < 2 ^ (bits + 1)) :
    exponentOf n 1 = (bits : Int) - 52 := by
  have hn : n ≠ 0 := by
    have := Nat.two_pow_pos bits
    omega
  have hlog : n.log2 = bits := (Nat.log2_eq_iff hn).mpr ⟨hlow, hhigh⟩
  have hfits : ¬ n * Nat.pow 2 (-((bits : Int) - (1 : Nat).log2 - 53)).toNat <
      Nat.pow 2 53 * (1 * Nat.pow 2 ((bits : Int) - (1 : Nat).log2 - 53).toNat) := by
    simp only [show (1 : Nat).log2 = 0 from rfl, Nat.pow_eq, one_mul, ← Nat.pow_add, not_lt]
    rcases Nat.lt_or_ge bits 53 with h | h
    · rw [show ((bits : Int) - (0 : Nat) - 53).toNat = 0 by omega,
        show (-((bits : Int) - (0 : Nat) - 53)).toNat = 53 - bits by omega]
      calc 2 ^ (53 + 0) = 2 ^ bits * 2 ^ (53 - bits) := by rw [← Nat.pow_add]; congr 1; omega
        _ ≤ n * 2 ^ (53 - bits) := Nat.mul_le_mul_right _ hlow
    · rw [show (-((bits : Int) - (0 : Nat) - 53)).toNat = 0 by omega,
        show 53 + ((bits : Int) - (0 : Nat) - 53).toNat = bits by omega]
      simpa using hlow
  rw [exponentOf, hlog]
  simp only [hfits, if_false]
  rw [show (1 : Nat).log2 = 0 from rfl]
  omega

/-- A positive whole number has a significand of 53 bits. -/
theorem significand_of_isWhole (x : Binary64) (hwhole : x.isWhole = true)
    (hpos : 0 < x.significand) : 4503599627370496 ≤ x.significand := by
  rcases x.canonical.2.2.2 with hexponent | hnormal
  · have hnumerator : x.numerator = x.significand := by
      simp [numerator, hexponent]
    have hdvd : x.denominator ∣ x.significand :=
      hnumerator ▸ Nat.dvd_of_mod_eq_zero (of_decide_eq_true hwhole)
    have hpower : 2 ^ 53 ∣ x.denominator := Nat.pow_dvd_pow 2 (by omega)
    have hle := Nat.le_of_dvd hpos (hpower.trans hdvd)
    have hbound := x.canonical.1
    omega
  · exact hnormal

/-- A positive whole number denotes a natural number that is its numerator over its denominator. -/
theorem natAbs_mul_denominator (x : Binary64) (i : Int) (hi : x.toInt? = some i)
    (hsign : x.negative = false) : 0 ≤ i ∧ i.natAbs * x.denominator = x.numerator := by
  rw [toInt?] at hi
  split at hi
  · next hwhole =>
    have hfloor : i = ((x.numerator / x.denominator : Nat) : Int) := by
      rw [← Option.some.inj hi, floor, signed, hsign, numerator,
        Int.fdiv_eq_ediv_of_nonneg _ (Int.natCast_nonneg _)]
      push_cast
      rfl
    have hmod : x.numerator % x.denominator = 0 := of_decide_eq_true hwhole
    refine ⟨hfloor ▸ Int.natCast_nonneg _, ?_⟩
    rw [hfloor, Int.natAbs_natCast, Nat.div_mul_cancel (Nat.dvd_of_mod_eq_zero hmod)]
  · cases hi

/-- A natural number of 53 bits or fewer is rounded by giving it the zeros that it lacks. -/
theorem ofRatio?_of_shift (n shift : Nat) (hlow : 2 ^ 52 ≤ n * 2 ^ shift)
    (hhigh : n * 2 ^ shift < 2 ^ 53) :
    ofRatio? false n 1 = ofParts? false (n * 2 ^ shift) (-(shift : Int)) := by
  have hpos : 0 < n := by
    by_contra hzero
    rw [show n = 0 by omega, Nat.zero_mul] at hlow
    omega
  have hshift : shift ≤ 52 := by
    by_contra hlarge
    have hle : 2 ^ 53 ≤ 2 ^ shift := Nat.pow_le_pow_right (by decide) (by omega)
    have := Nat.le_mul_of_pos_left (2 ^ shift) hpos
    omega
  have hbits : 2 ^ (52 - shift) ≤ n ∧ n < 2 ^ (52 - shift + 1) := by
    constructor
    · refine Nat.le_of_mul_le_mul_right ?_ (Nat.two_pow_pos shift)
      rw [← Nat.pow_add, Nat.sub_add_cancel hshift]
      exact hlow
    · refine Nat.lt_of_mul_lt_mul_right (a := 2 ^ shift) ?_
      rw [← Nat.pow_add, show 52 - shift + 1 + shift = 53 by omega]
      exact hhigh
  have hfound : exponentOf n 1 = -(shift : Int) := by
    rw [exponentOf_one _ _ hbits.1 hbits.2]
    omega
  rw [ofRatio?, if_neg hpos.ne']
  simp only [hfound, neg_neg, Int.toNat_natCast, Int.toNat_neg_natCast, Nat.pow_eq, pow_zero,
    mul_one]
  rw [← Nat.mul_one (n * 2 ^ shift), roundHalfEven_mul _ 1 Nat.one_pos, Nat.mul_one]

/-- A natural number of 53 bits or more is rounded at the bits behind the first 53. -/
theorem ofRatio?_of_bits (n extra : Nat) (hlow : 2 ^ (52 + extra) ≤ n)
    (hhigh : n < 2 ^ (52 + extra + 1)) :
    ofRatio? false n 1 = ofParts? false (roundHalfEven n (2 ^ extra)) extra := by
  have hpos : 0 < n := (Nat.two_pow_pos _).trans_le hlow
  have hfound : exponentOf n 1 = (extra : Int) := by
    rw [exponentOf_one _ _ hlow hhigh]
    omega
  rw [ofRatio?, if_neg hpos.ne']
  simp only [hfound, Int.toNat_neg_natCast, Int.toNat_natCast, Nat.pow_eq, pow_zero, mul_one,
    one_mul]

/-- A natural number of 53 bits with zeros behind them is rounded by taking the zeros away. -/
theorem ofRatio?_of_zeros (significand shift : Nat) (hlow : 2 ^ 52 ≤ significand)
    (hhigh : significand < 2 ^ 53) :
    ofRatio? false (significand * 2 ^ shift) 1 = ofParts? false significand shift := by
  rw [ofRatio?_of_bits, roundHalfEven_mul _ _ (Nat.two_pow_pos shift)]
  · rw [Nat.pow_add]
    exact Nat.mul_le_mul_right _ hlow
  · rw [show 52 + shift + 1 = 53 + shift by omega, Nat.pow_add]
    exact Nat.mul_lt_mul_of_pos_right hhigh (Nat.two_pow_pos shift)

/-- The integer that a positive whole number denotes rounds to the number. -/
theorem ofInt?_of_toInt? (x : Binary64) (i : Int) (hi : x.toInt? = some i)
    (hsign : x.negative = false) (hpos : 0 < x.significand) : ofInt? i = some x := by
  have hwhole : x.isWhole = true := by
    by_contra h
    rw [toInt?, if_neg h] at hi
    cases hi
  have hlow := x.significand_of_isWhole hwhole hpos
  have hhigh := x.canonical.1
  obtain ⟨hnonneg, hvalue⟩ := x.natAbs_mul_denominator i hi hsign
  obtain ⟨negative, significand, exponent, canonical⟩ := x
  simp only [numerator, denominator, Nat.pow_eq] at *
  subst hsign
  have hparts : ofParts? false significand exponent = some ⟨false, significand, exponent, canonical⟩ :=
    dif_pos canonical
  rw [ofInt?, decide_eq_false (by omega)]
  rcases lt_or_ge exponent 0 with hexponent | hexponent
  · obtain ⟨shift, rfl⟩ : ∃ shift : Nat, exponent = -(shift : Int) := ⟨exponent.natAbs, by omega⟩
    simp only [Int.toNat_neg_natCast, neg_neg, Int.toNat_natCast, pow_zero, mul_one] at hvalue
    rw [ofRatio?_of_shift _ shift (hvalue ▸ hlow) (hvalue ▸ hhigh), hvalue, hparts]
  · obtain ⟨shift, rfl⟩ : ∃ shift : Nat, exponent = (shift : Int) := ⟨exponent.toNat, by omega⟩
    simp only [Int.toNat_neg_natCast, Int.toNat_natCast, pow_zero, mul_one] at hvalue
    rw [hvalue, ofRatio?_of_zeros significand shift hlow hhigh, hparts]

/-- A number above zero has a positive sign and a significand that is not zero. -/
theorem pos_of_compare_zero (x : Binary64) (h : x.compare zero = .gt) :
    x.negative = false ∧ 0 < x.significand := by
  have hgt := Int.compare_eq_gt.mp h
  rw [show zero.signed = 0 from rfl, Int.zero_mul] at hgt
  have hsigned : 0 < x.signed := pos_of_mul_pos_left hgt (Int.natCast_nonneg _)
  rw [signed] at hsigned
  cases hn : x.negative
  · simp only [hn, Bool.false_eq_true, if_false] at hsigned
    exact ⟨rfl, by omega⟩
  · simp only [hn, if_true] at hsigned
    omega

end Binary64

namespace Number

/-- A positive divisor is written as a number that reads as the divisor. -/
theorem toBinary64_ofDivisor (x : Binary64) (h : x.compare .zero = .gt) :
    (ofDivisor x).toBinary64 = x := by
  obtain ⟨hsign, hpos⟩ := x.pos_of_compare_zero h
  rw [ofDivisor]
  cases hi : x.toInt? with
  | none => rfl
  | some i =>
    dsimp only
    split
    · next hbound =>
      have hfits : Fits i := by
        unfold Fits
        omega
      rw [ofInt?, dif_pos hfits, Option.getD_some, toBinary64,
        x.ofInt?_of_toInt? i hi hsign hpos, Option.getD_some]
    · rfl

end Number

end Draft6
