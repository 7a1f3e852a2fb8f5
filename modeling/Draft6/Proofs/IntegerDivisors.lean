import Draft6.Number.Multiple
import Draft6.Proofs.Quotients

/-!
# Divisors that are written as integers

A divisor is kept as a binary64 number, while an integer that it is tried on is kept exactly. So an
integer divisor is the nearest binary64 number to what was written, and below `2 ^ 63` an integer is
divided by that number and not by the written one. Larger divisors are divided through rounded quotients,
which cannot tell an integer from its neighbour.
-/

namespace Draft6

namespace Binary64

/-- One of the two neighbours of a number is rounded like the number itself when eight or more numbers
share a quotient. -/
theorem exists_roundHalfEven_eq (n eighth : ℕ) (h : 0 < eighth) :
    ∃ m, (m = n + 1 ∨ m + 1 = n) ∧ m / (8 * eighth) = n / (8 * eighth) ∧
      roundHalfEven m (8 * eighth) = roundHalfEven n (8 * eighth) := by
  have hpos : 0 < 8 * eighth := by omega
  have hsplit := Nat.div_add_mod n (8 * eighth)
  have hmod := Nat.mod_lt n hpos
  generalize hd : 8 * eighth = d at *
  generalize hq : n / d = quotient at *
  generalize hr : n % d = rest at *
  have hparity := Nat.mod_two_eq_zero_or_one quotient
  -- The neighbour has the same quotient and a remainder on the same side of the middle.
  obtain ⟨other, hother, hstep, hside⟩ : ∃ other, other < d ∧ (other = rest + 1 ∨ other + 1 = rest) ∧
      (if 2 * other < d then quotient else if d < 2 * other then quotient + 1
        else quotient + quotient % 2) =
      if 2 * rest < d then quotient else if d < 2 * rest then quotient + 1
        else quotient + quotient % 2 := by
    by_cases hup : rest + 1 < d ∧ (2 * rest + 2 < d ∨ d < 2 * rest ∨ d = 2 * rest ∧ quotient % 2 = 1)
    · exact ⟨rest + 1, hup.1, .inl rfl, by split_ifs <;> omega⟩
    · exact ⟨rest - 1, by omega, .inr (by omega), by split_ifs <;> omega⟩
  have hquotient : (d * quotient + other) / d = quotient := by
    rw [Nat.mul_add_div hpos, Nat.div_eq_of_lt hother, Nat.add_zero]
  have hrest : (d * quotient + other) % d = other := by
    rw [Nat.mul_add_mod, Nat.mod_eq_of_lt hother]
  refine ⟨d * quotient + other, by omega, hquotient, ?_⟩
  simp only [roundHalfEven, hquotient, hrest, hq, hr]
  exact hside

/-- From `2 ^ 62` on an integer that is kept exactly has a neighbour that rounds to the same number. -/
theorem exists_neighbour {n : ℕ} (hlow : 2 ^ 62 ≤ n) (hhigh : n < 2 ^ 64) :
    ∃ m : ℕ, (m = n + 1 ∨ m + 1 = n) ∧ m < 2 ^ 64 ∧ ofInt? m = ofInt? n := by
  have hround (k : ℕ) : ofInt? k = ofRatio? false k 1 := by
    rw [ofInt?, decide_eq_false (by omega), Int.natAbs_natCast]
  simp only [hround]
  rcases lt_or_ge n (2 ^ 63) with hbits | hbits
  · obtain ⟨m, hm, hquotient, hsame⟩ := exists_roundHalfEven_eq n (2 ^ 7) (by decide)
    refine ⟨m, hm, by omega, ?_⟩
    rw [ofRatio?_of_bits m 10 (by omega) (by omega), ofRatio?_of_bits n 10 hlow hbits]
    exact congrArg (ofParts? false · _) hsame
  · obtain ⟨m, hm, hquotient, hsame⟩ := exists_roundHalfEven_eq n (2 ^ 8) (by decide)
    refine ⟨m, hm, by omega, ?_⟩
    rw [ofRatio?_of_bits m 11 (by omega) (by omega), ofRatio?_of_bits n 11 hbits hhigh]
    exact congrArg (ofParts? false · _) hsame

end Binary64

namespace Number

/-- A positive integer rounds to a positive whole number that is less than twice as large. -/
theorem exists_toRat_toBinary64 {n : ℤ} (hfits : Fits n) (hpos : 0 < n) :
    ∃ divisor : ℤ, (integer n hfits).toBinary64.toRat = divisor ∧ 0 < divisor ∧ divisor < 2 * n := by
  obtain ⟨m, rfl⟩ := Int.eq_ofNat_of_zero_le hpos.le
  have hm : 0 < m := Int.natCast_pos.mp hpos
  have hbound : m < 2 ^ 64 := by have := hfits.2; omega
  have hcast : (0 : ℚ) < m := Nat.cast_pos.mpr hm
  have hsize : |(m : ℚ)| = m := abs_of_pos hcast
  have hlow : (2 : ℚ) ^ (-1000 : ℤ) ≤ |(m : ℚ)| := by
    rw [hsize]
    exact (zpow_le_one_of_nonpos₀ one_le_two (by decide)).trans (by exact_mod_cast hm)
  have hhigh : |(m : ℚ)| < 2 ^ (1000 : ℤ) := by
    rw [hsize]
    calc (m : ℚ) < 2 ^ (64 : ℤ) := by exact_mod_cast hbound
      _ ≤ 2 ^ (1000 : ℤ) := zpow_le_zpow_right₀ one_le_two (by decide)
  have hratio : (m : ℚ) = Binary64.sign false * (m / (1 : ℕ)) := by simp [Binary64.sign]
  obtain ⟨x, hx, hnear, hexact⟩ := Binary64.exists_ofRatio?_sign false hratio Nat.one_pos hlow hhigh
  have hround : (integer m hfits).toBinary64 = x := by
    rw [toBinary64, Binary64.ofInt?, decide_eq_false (by omega), Int.natAbs_natCast, hx,
      Option.getD_some]
  rw [hround]
  rw [hsize] at hnear
  obtain ⟨hbelow, habove⟩ := abs_le.mp hnear
  obtain ⟨divisor, hdivisor⟩ : ∃ divisor : ℤ, x.toRat = divisor := by
    rcases lt_or_ge m (2 ^ 53) with hsmall | hlarge
    · exact ⟨m, hexact m (by rw [Nat.abs_cast]; exact_mod_cast hsmall) (Int.cast_natCast m).symm⟩
    · have hlarge : (2 ^ 53 : ℚ) ≤ m := by exact_mod_cast hlarge
      exact Binary64.exists_toRat_eq_intCast (le_abs.mpr (.inl (by linarith)))
  rw [hdivisor] at hbelow habove
  refine ⟨divisor, hdivisor, ?_, ?_⟩
  · have : (0 : ℚ) < divisor := by linarith
    exact_mod_cast this
  · have : (divisor : ℚ) < 2 * m := by linarith
    exact_mod_cast this

/-- Below `2 ^ 63` a whole divisor divides an integer exactly when there is no remainder. -/
theorem isMultipleOf_integer_iff {v d : ℤ} (hv : Fits v) {x : Binary64} (hx : x.toRat = d) (hpos : 0 < d)
    (hbound : d < 2 ^ 63) : (integer v hv).isMultipleOf x = true ↔ d ∣ v := by
  have hsmall : (d.natAbs : ℤ) < remainderBound := by
    rw [remainderBound]
    omega
  rw [isMultipleOf, integer?, Binary64.toInt?_eq_some_iff.mpr hx]
  simp only [hsmall, if_true, decide_eq_true_eq]
  rw [and_iff_right hpos.ne', ← Nat.dvd_iff_mod_eq_zero, Int.natAbs_dvd_natAbs]

/-- A quotient of one is close to a whole number. -/
theorem nearWhole_one (value : Binary64) : nearWhole value .one = true := by
  have hnearest : Binary64.one.roundHalfAway = 1 := by decide
  simp only [nearWhole, hnearest, Binary64.toRat_one, one_ne_zero, if_false]
  with_unfolding_all decide

/-- A larger divisor divides every integer that rounds to it. -/
theorem isMultipleOf_toBinary64 {v d : ℤ} (hv : Fits v) (hd : 2 ^ 63 ≤ d)
    (hx : (integer v hv).toBinary64.toRat = d) :
    (integer v hv).isMultipleOf (integer v hv).toBinary64 = true := by
  have hlarge : ¬(d.natAbs : ℤ) < remainderBound := by
    rw [remainderBound]
    omega
  have hne : (integer v hv).toBinary64.toRat ≠ 0 := by
    rw [hx]
    exact Int.cast_ne_zero.mpr (by omega)
  rw [isMultipleOf, integer?, Binary64.toInt?_eq_some_iff.mpr hx]
  simp only [hlarge, if_false]
  rw [isMultipleOf.byQuotient, Binary64.div?_self hne]
  exact nearWhole_one _

end Number

/-! ## Divisors in schema documents -/

/-- The schema document that demands multiples of a number. -/
def Json.multiplesOf (n : Number) : Json := .object [("multipleOf", .number n)]

/-- The schema that demands multiples of a divisor. -/
def Schema.multiplesOf (divisor : Binary64) : Schema :=
  .object { numbers := { multipleOf := some divisor } }

/-- A positive divisor is read as the nearest binary64 number. -/
theorem Schema.decode_multiplesOf (limits : Limits) {n : Number} (h : 0 < n.toRat) :
    decode limits (.multiplesOf n) = .ok (.multiplesOf n.toBinary64) := by
  have hdivisor : (Json.number n).asDivisor = .ok n.toBinary64 := by
    change (if n.toBinary64.compare .zero = .gt then _ else _) = _
    rw [if_pos (n.toBinary64_pos_iff.mpr h)]
    rfl
  have hkeyword : Keyword.ofName? "multipleOf" = some .multipleOf := by decide
  have hid : ObjectSchema.olderId? [("multipleOf", .number n)] = none := rfl
  rw [decode, Json.multiplesOf, decodeWithin, ObjectSchema.decode, List.foldlM_cons, hid]
  simp only [ObjectSchema.decodeMember, hkeyword, ObjectSchema.decodeKeyword, hdivisor]
  rfl

/-- A divisor accepts its multiples. -/
theorem Pool.accepts_multiplesOf (pool : Pool) (limits : Limits) (place : Place) (divisor : Binary64)
    (v : Number) :
    pool.accepts limits ⟨place, .multiplesOf divisor⟩ (.number v) = v.isMultipleOf divisor := by
  rw [Bool.eq_iff_iff, Schema.multiplesOf, accepts_numbers]
  constructor
  · intro h
    exact h.multipleOf divisor rfl
  · intro h
    constructor <;> simp [h]

namespace Number

variable {n : ℤ} (hfits : Fits n) (hpos : 0 < n)

include hpos

/-- An integer divisor that is not changed by rounding and lies below `2 ^ 63` accepts exactly its
multiples, and no other integer divisor does. -/
theorem isMultipleOf_iff_dvd_iff :
    (∀ v (hv : Fits v), (integer v hv).isMultipleOf (integer n hfits).toBinary64 = true ↔ n ∣ v) ↔
      (∃ x : Binary64, x.toRat = n) ∧ n < 2 ^ 63 := by
  obtain ⟨divisor, hdivisor, hpositive, htwice⟩ := exists_toRat_toBinary64 hfits hpos
  constructor
  · intro h
    rcases lt_or_ge divisor (2 ^ 63) with hsmall | hlarge
    · -- The divisor and what it is rounded to divide each other.
      have hfitsDivisor : Fits divisor := ⟨by omega, by omega⟩
      have hself := (isMultipleOf_integer_iff hfits hdivisor hpositive hsmall).mp
        ((h n hfits).mpr dvd_rfl)
      have hrounded := (h divisor hfitsDivisor).mp
        ((isMultipleOf_integer_iff hfitsDivisor hdivisor hpositive hsmall).mpr dvd_rfl)
      have hsame : divisor = n := Int.dvd_antisymm hpositive.le hpos.le hself hrounded
      exact ⟨⟨_, hsame ▸ hdivisor⟩, hsame ▸ hsmall⟩
    · -- A neighbour that rounds to the same divisor is accepted too.
      obtain ⟨m, rfl⟩ := Int.eq_ofNat_of_zero_le hpos.le
      obtain ⟨other, hstep, hbound, hround⟩ :=
        Binary64.exists_neighbour (n := m) (by omega) (by have := hfits.2; omega)
      have hfitsOther : Fits other := ⟨by omega, by omega⟩
      have hsame : (integer other hfitsOther).toBinary64 = (integer m hfits).toBinary64 := by
        rw [toBinary64, toBinary64, hround]
      have haccepted := isMultipleOf_toBinary64 hfitsOther hlarge (hsame ▸ hdivisor)
      have hdvd := (h other hfitsOther).mp (hsame ▸ haccepted)
      have hone : (m : ℤ) ∣ 1 := by
        rcases hstep with rfl | rfl
        · exact (Int.dvd_add_right dvd_rfl).mp (by exact_mod_cast hdvd)
        · exact (Int.dvd_add_right hdvd).mp (by push_cast; exact dvd_rfl)
      have := Int.le_of_dvd one_pos hone
      omega
  · rintro ⟨⟨x, hx⟩, hbound⟩ v hv
    obtain ⟨y, hy, hvalue⟩ := Binary64.toRat_ofInt?_of_toRat hx
    refine isMultipleOf_integer_iff hv ?_ hpos hbound
    rw [toBinary64, hy, Option.getD_some, hvalue]

/-- A schema document with an integer divisor is read, and accepts exactly the multiples of the divisor if
that needs no rounding and lies below `2 ^ 63`. No integer up to `2 ^ 53` needs rounding. For every other
divisor some integer is judged wrongly: below `2 ^ 63` it is the multiples of the rounded divisor that are
accepted. -/
theorem integer_divisors (limits : Limits) :
    ∃ s, Schema.decode limits (.multiplesOf (.integer n hfits)) = .ok s ∧
      (∀ (pool : Pool) (limits : Limits) (place : Place),
        (∀ v (hv : Fits v), pool.accepts limits ⟨place, s⟩ (.number (.integer v hv)) = true ↔ n ∣ v) ↔
          (∃ x : Binary64, x.toRat = n) ∧ n < 2 ^ 63) ∧
      (n ≤ 2 ^ 53 → ∃ x : Binary64, x.toRat = n) ∧
      ∃ rounded : ℤ, (integer n hfits).toBinary64.toRat = rounded ∧
        (rounded < 2 ^ 63 → ∀ (pool : Pool) (limits : Limits) (place : Place) (v : ℤ) (hv : Fits v),
          pool.accepts limits ⟨place, s⟩ (.number (.integer v hv)) = true ↔ rounded ∣ v) := by
  obtain ⟨rounded, hrounded, hpositive, -⟩ := exists_toRat_toBinary64 hfits hpos
  refine ⟨_, Schema.decode_multiplesOf limits (Int.cast_pos.mpr hpos), fun pool limits place => ?_,
    fun hsmall => ?_, rounded, hrounded, fun hbound pool limits place v hv => ?_⟩
  · simp only [Pool.accepts_multiplesOf]
    exact isMultipleOf_iff_dvd_iff hfits hpos
  · obtain ⟨m, rfl⟩ := Int.eq_ofNat_of_zero_le hpos.le
    exact Binary64.exists_toRat_eq_natCast (by omega)
  · rw [Pool.accepts_multiplesOf]
    exact isMultipleOf_integer_iff hv hrounded hpositive hbound

omit hpos

/-- The largest number below which binary64 skips no integer accepts its multiples and nothing else. -/
theorem integer_divisors_unrounded :
    (0 : ℤ) < 9007199254740992 ∧
      ∃ s, Schema.decode Limits.default (.multiplesOf (.integer 9007199254740992 (by decide))) = .ok s ∧
        ∀ (v : ℤ) (hv : Fits v), (Pool.ofDocument s).accepts Limits.default (Node.root .main s)
          (.number (.integer v hv)) = true ↔ 9007199254740992 ∣ v := by
  have hfits : Fits 9007199254740992 := by decide
  have hpos : (0 : ℤ) < 9007199254740992 := by decide
  obtain ⟨s, hread, hexact, hsmall, -⟩ := integer_divisors hfits hpos Limits.default
  exact ⟨hpos, s, hread, (hexact _ _ _).mpr ⟨hsmall (by norm_num), by norm_num⟩⟩

/-- The first integer that binary64 skips is refused by itself as a divisor, which is even after rounding.
The first divisor that remainders are not taken of accepts the integer behind it. -/
theorem skipped_divisor_refuses_itself :
    let skipped : Number := .integer 9007199254740993 (by decide)
    let large : Number := .integer 9223372036854775808 (by decide)
    let behind : Number := .integer 9223372036854775809 (by decide)
    let accepts (s : Schema) (v : Number) : Bool :=
      (Pool.ofDocument s).accepts Limits.default (Node.root .main s) (.number v)
    (∃ s, Schema.decode Limits.default (.multiplesOf skipped) = .ok s ∧ accepts s skipped = false) ∧
      (∃ s, Schema.decode Limits.default (.multiplesOf large) = .ok s ∧ accepts s behind = true) ∧
      (9007199254740993 : ℤ) ∣ 9007199254740993 ∧ ¬(9223372036854775808 : ℤ) ∣ 9223372036854775809 := by
  intro skipped large behind accepts
  have hskipped : 0 < skipped.toRat := by decide
  have hlarge : 0 < large.toRat := by decide
  exact ⟨⟨_, Schema.decode_multiplesOf _ hskipped, by decide⟩,
    ⟨_, Schema.decode_multiplesOf _ hlarge, by with_unfolding_all decide⟩, dvd_rfl, by decide⟩

end Number

end Draft6
