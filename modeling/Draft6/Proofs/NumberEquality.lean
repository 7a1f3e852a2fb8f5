import Draft6.Proofs.DeepEquality
import Draft6.Proofs.ReadNumbers
import Draft6.Proofs.Verdict

/-!
# Equality against order

Two numbers compare as equal when their exact values are the same. Equality agrees wherever both numbers
are kept as integers or both are binary64 numbers. Between an integer and a binary64 number it asks
whether the integer rounds to the other one, so beyond `2 ^ 53` it also holds of numbers that differ.
Those are the only exceptions, and everything that fails for equality fails because of them.
-/

namespace Draft6

namespace Binary64

/-- Rounding a negative ratio is rounding the positive one. -/
theorem ofRatio?_true (numerator denominator : Nat) : ofRatio? true numerator denominator =
    (ofRatio? false numerator denominator).map fun x => { x with negative := true } := by
  simp only [ofRatio?, ofParts?]
  split
  · rfl
  · split
    · rfl
    · split <;> rfl

/-- A number above zero rounds to itself when it is whole. -/
theorem ofInt?_of_toRat_pos {x : Binary64} {i : ℤ} (hi : 0 < i) (h : x.toRat = i) :
    ofInt? i = some x := by
  have hpos : x.compare zero = .gt := (compare_zero_eq_gt_iff x).mpr (h ▸ Int.cast_pos.mpr hi)
  obtain ⟨hsign, hsignificand⟩ := x.pos_of_compare_zero hpos
  exact x.ofInt?_of_toInt? i (toInt?_eq_some_iff.mpr h) hsign hsignificand

/-- The exact value of a number without its sign. -/
theorem toRat_abs (x : Binary64) : x.abs.toRat = |x.toRat| := by
  have hpower : (0 : ℚ) < 2 ^ x.exponent := zpow_pos two_pos _
  rw [toRat_eq, toRat_eq, abs_mul, abs_of_pos hpower, signed, signed, abs]
  cases x.negative <;> simp

/-- An integer that some number has as its exact value is not changed by rounding. -/
theorem toRat_ofInt?_of_toRat {x : Binary64} {i : ℤ} (h : x.toRat = i) :
    ∃ y, ofInt? i = some y ∧ y.toRat = i := by
  rcases lt_trichotomy i 0 with hi | rfl | hi
  · have hopposite : x.abs.toRat = (-i : ℤ) := by
      rw [toRat_abs, h, abs_of_neg (Int.cast_lt_zero.mpr hi), Int.cast_neg]
    have hround := ofInt?_of_toRat_pos (by omega) hopposite
    rw [ofInt?, Int.natAbs_neg, decide_eq_false (by omega)] at hround
    refine ⟨{ x.abs with negative := true }, ?_, ?_⟩
    · rw [ofInt?, decide_eq_true hi, ofRatio?_true, hround, Option.map_some]
    · rw [toRat_negative rfl, hopposite, Int.cast_neg, neg_neg]
  · exact ⟨zero, rfl, by rw [toRat_eq]; simp [zero, signed]⟩
  · exact ⟨x, ofInt?_of_toRat_pos hi h, h⟩

/-- A natural number of at most 53 bits, and the first one of 54, is the exact value of some number. -/
theorem exists_toRat_eq_natCast {n : ℕ} (hn : n ≤ 2 ^ 53) : ∃ x : Binary64, x.toRat = n := by
  rcases Nat.eq_zero_or_pos n with rfl | hpos
  · exact ⟨zero, by rw [toRat_eq]; simp [zero, signed]⟩
  rcases hn.eq_or_lt with rfl | hlt
  · exact ⟨⟨false, 4503599627370496, 1, by decide⟩, by rw [toRat_eq]; norm_num [signed]⟩
  -- The significand has 53 bits once the number has been given the zeros that it lacks.
  have hlow : 2 ^ n.log2 ≤ n := Nat.log2_self_le hpos.ne'
  have hhigh : n < 2 ^ (n.log2 + 1) := Nat.lt_log2_self
  have hbits : n.log2 < 53 := (Nat.pow_lt_pow_iff_right (by decide)).mp (hlow.trans_lt hlt)
  obtain ⟨shift, hshift⟩ := Nat.exists_eq_add_of_le (Nat.le_of_lt_succ hbits)
  have hbelow : 2 ^ 52 ≤ n * 2 ^ shift := by
    rw [hshift, Nat.pow_add]
    exact Nat.mul_le_mul_right _ hlow
  have habove : n * 2 ^ shift < 2 ^ 53 := by
    rw [show 2 ^ 53 = 2 ^ (n.log2 + 1 + shift) by congr 1; omega, Nat.pow_add]
    exact Nat.mul_lt_mul_of_pos_right hhigh (Nat.two_pow_pos _)
  refine ⟨⟨false, n * 2 ^ shift, -shift, habove, by omega, by omega, .inr hbelow⟩, ?_⟩
  rw [toRat_eq, signed, zpow_neg, zpow_natCast]
  simp

/-- An integer between `-2 ^ 53` and `2 ^ 53` is not changed by rounding. -/
theorem toRat_ofInt?_of_natAbs_le {i : ℤ} (hi : i.natAbs ≤ 2 ^ 53) :
    ∃ y, ofInt? i = some y ∧ y.toRat = i := by
  obtain ⟨x, hx⟩ := exists_toRat_eq_natCast hi
  rcases le_total 0 i with hsign | hsign
  · refine toRat_ofInt?_of_toRat (x := x) ?_
    rw [hx, Nat.cast_natAbs, abs_of_nonneg hsign]
  · refine toRat_ofInt?_of_toRat (x := { x.abs with negative := true }) ?_
    rw [toRat_negative rfl, toRat_abs, hx, Nat.abs_cast, Nat.cast_natAbs, abs_of_nonpos hsign,
      Int.cast_neg, neg_neg]

end Binary64

namespace Number

/-! ## Numbers that rounding confuses -/

/-- Whether a number is kept as an exact integer. -/
def isInteger (a : Number) : Bool := a.integer?.isSome

/-- Whether two numbers differ although the nearest binary64 number is the same. -/
def Confused (a b : Number) : Prop :=
  a.toRat ≠ b.toRat ∧ a.toBinary64.toRat = b.toBinary64.toRat

variable {a b c : Number}

/-- Numbers of one exact value have one nearest binary64 number. An integer that is the value of a
binary64 number rounds to that value. -/
theorem toRat_toBinary64_eq (h : a.toRat = b.toRat) :
    a.toBinary64.toRat = b.toBinary64.toRat := by
  have hrounded {i : ℤ} {x : Binary64} (h : x.toRat = i) :
      ((Binary64.ofInt? i).getD .zero).toRat = x.toRat := by
    obtain ⟨y, hy, hvalue⟩ := Binary64.toRat_ofInt?_of_toRat h
    rw [hy, Option.getD_some, hvalue, h]
  cases a with
  | integer i _ =>
    cases b with
    | integer j _ => rw [toBinary64, toBinary64, Int.cast_injective h]
    | float y => exact hrounded h.symm
  | float x =>
    cases b with
    | integer j _ => exact (hrounded h).symm
    | float y => exact h

/-- Numbers of at most `2 ^ 53` in size are their own nearest binary64 numbers. -/
theorem toRat_toBinary64_of_abs_le (h : |a.toRat| ≤ 2 ^ 53) :
    a.toBinary64.toRat = a.toRat := by
  cases a with
  | float => rfl
  | integer i _ =>
    have hi : i.natAbs ≤ 2 ^ 53 := by
      rw [toRat, ← Int.cast_abs, Int.abs_eq_natAbs] at h
      exact_mod_cast h
    obtain ⟨y, hy, hvalue⟩ := Binary64.toRat_ofInt?_of_natAbs_le hi
    rw [toBinary64, hy, Option.getD_some, hvalue, toRat]

/-- Rounding confuses no two numbers of at most `2 ^ 53` in size. -/
theorem Confused.large (h : a.Confused b) :
    2 ^ 53 < |a.toRat| ∨ 2 ^ 53 < |b.toRat| := by
  by_contra hsmall
  rw [not_or, not_lt, not_lt] at hsmall
  exact h.1 (toRat_toBinary64_of_abs_le hsmall.1 ▸ toRat_toBinary64_of_abs_le hsmall.2 ▸ h.2)

/-- Two integers are equal when their exact values are. -/
theorem equal_iff_of_isInteger (ha : a.isInteger = true) (hb : b.isInteger = true) :
    a.equal b = true ↔ a.toRat = b.toRat := by
  cases a with
  | float => cases ha
  | integer i _ =>
    cases b with
    | float => cases hb
    | integer j _ => exact decide_eq_true_iff.trans Int.cast_inj.symm

/-- Two numbers that are not both integers are equal when their nearest binary64 numbers are. -/
theorem equal_iff_of_not_isInteger (h : ¬(a.isInteger = true ∧ b.isInteger = true)) :
    a.equal b = true ↔ a.toBinary64.toRat = b.toBinary64.toRat := by
  have hnearest : decide (a.toBinary64.compare b.toBinary64 = .eq) = true ↔
      a.toBinary64.toRat = b.toBinary64.toRat :=
    decide_eq_true_iff.trans (Binary64.compare_eq_eq_iff _ _)
  cases a with
  | float => exact hnearest
  | integer =>
    cases b with
    | float => exact hnearest
    | integer => exact absurd ⟨rfl, rfl⟩ h

/-- Equality holds of numbers of one value, and of those that rounding confuses unless both are
integers. -/
theorem equal_iff : a.equal b = true ↔
    a.toRat = b.toRat ∨ a.Confused b ∧ ¬(a.isInteger = true ∧ b.isInteger = true) := by
  by_cases h : a.isInteger = true ∧ b.isInteger = true
  · rw [equal_iff_of_isInteger h.1 h.2]
    exact ⟨.inl, fun hor => hor.resolve_right fun hconfused => hconfused.2 h⟩
  · rw [equal_iff_of_not_isInteger h]
    constructor
    · exact fun hround => or_iff_not_imp_left.mpr fun hne => ⟨⟨hne, hround⟩, h⟩
    · rintro (hvalue | hconfused)
      · exact toRat_toBinary64_eq hvalue
      · exact hconfused.1.2

/-- Equal numbers have one nearest binary64 number. -/
theorem toRat_toBinary64_of_equal (h : a.equal b = true) :
    a.toBinary64.toRat = b.toBinary64.toRat :=
  (equal_iff.mp h).elim toRat_toBinary64_eq fun hconfused => hconfused.1.2

/-- Whether two numbers are taken for equal although they differ: one is a binary64 number, and the other
one is an integer that rounds to it. -/
def MixedUp (a b : Number) : Prop := a.Confused b ∧ ¬(a.isInteger = true ∧ b.isInteger = true)

/-- Equality says what order says except about numbers that are mixed up. -/
theorem equal_iff_compare_iff (a b : Number) :
    (a.equal b = true ↔ a.compare b = .eq) ↔ ¬a.MixedUp b := by
  rw [equal_iff, compare_eq_eq_iff]
  constructor
  · exact fun h hmixed => hmixed.1.1 (h.mp (.inr hmixed))
  · exact fun h => ⟨fun hor => hor.resolve_right h, .inl⟩

/-- Equality is transitive between two numbers except where both are integers that rounding confuses.
The binary64 number that they round to equals both of them. -/
theorem equal_trans_iff (a c : Number) :
    (∀ b : Number, a.equal b = true → b.equal c = true → a.equal c = true) ↔
      ¬(a.Confused c ∧ a.isInteger = true ∧ c.isInteger = true) := by
  constructor
  · rintro h ⟨⟨hne, hround⟩, ha, hc⟩
    have hleft : a.equal (.float a.toBinary64) = true :=
      (equal_iff_of_not_isInteger (nofun ∘ And.right)).mpr rfl
    have hright : (Number.float a.toBinary64).equal c = true :=
      (equal_iff_of_not_isInteger (nofun ∘ And.left)).mpr hround
    exact hne ((equal_iff_of_isInteger ha hc).mp (h _ hleft hright))
  · intro h b hab hbc
    have hround : a.toBinary64.toRat = c.toBinary64.toRat :=
      (toRat_toBinary64_of_equal hab).trans (toRat_toBinary64_of_equal hbc)
    by_cases hboth : a.isInteger = true ∧ c.isInteger = true
    · rw [equal_iff_of_isInteger hboth.1 hboth.2]
      by_contra hne
      exact h ⟨⟨hne, hround⟩, hboth⟩
    · exact (equal_iff_of_not_isInteger hboth).mpr hround

end Number

namespace Json

/-- Whether two values hold no two integers that rounding confuses. -/
def Unconfused (u w : Json) : Prop :=
  ∀ m n, u.HasNumber m → w.HasNumber n → ¬(m.Confused n ∧ m.isInteger = true ∧ n.isInteger = true)

/-- Equality of values is transitive between values that hold no confused integers. -/
theorem equal_trans {u v w : Json} (h : u.Unconfused w) (huv : u.equal v = true)
    (hvw : v.equal w = true) : u.equal w = true :=
  equalBy_trans (fun _ _ _ hfirst hlast hab hbc =>
    (Number.equal_trans_iff _ _).mpr (h _ _ hfirst hlast) _ hab hbc) huv hvw

end Json

/-! ## A constant against two bounds -/

/-- The schema that demands one number as a constant. -/
def Schema.constant (n : Number) : Schema := .object { const := some (.number n) }

/-- The schema that bounds a number from both sides by the same number. -/
def Schema.bounded (n : Number) : Schema :=
  .object { numbers := { minimum := some n, maximum := some n } }

namespace Pool

variable (pool : Pool) (limits : Limits) (place : Place) (n v : Number)

/-- A constant accepts the numbers that equal it. -/
theorem accepts_constant :
    pool.accepts limits ⟨place, .constant n⟩ (.number v) = n.equal v := by
  change List.isEmpty ([] ++ [] ++ (if n.equal v then [] else [_]) ++ [] ++ [] ++ [] ++ [] ++ []) = _
  simp only [List.nil_append, List.append_nil]
  cases n.equal v <;> rfl

/-- Rules for numbers accept the numbers that they admit. -/
theorem accepts_numbers (rules : NumberRules) :
    pool.accepts limits ⟨place, .object { numbers := rules }⟩ (.number v) = true ↔ rules.Admits v := by
  change List.isEmpty ([] ++ [] ++ [] ++ (rules.broken v).map _ ++ [] ++ [] ++ [] ++ []) = _ ↔ _
  simp only [List.nil_append, List.append_nil, List.isEmpty_map]
  rw [List.isEmpty_iff, rules.broken_eq_nil_iff]

/-- Two bounds at one number accept the numbers that compare as equal to it. -/
theorem accepts_bounded :
    pool.accepts limits ⟨place, .bounded n⟩ (.number v) = decide (n.compare v = .eq) := by
  rw [Bool.eq_iff_iff, decide_eq_true_iff, Number.compare_eq_eq_iff, Schema.bounded, accepts_numbers]
  constructor
  · intro h
    exact le_antisymm (h.minimum n rfl) (h.maximum n rfl)
  · intro h
    constructor <;> simp [h]

end Pool

namespace Number

/-- Equality of two numbers agrees with their order exactly when they are not mixed up, and so does a
constant with two bounds. Equality is transitive between them exactly when they are not integers that
rounding confuses, and so between values that hold no such integers. Rounding confuses no two numbers of
at most `2 ^ 53` in size. -/
theorem equality_against_order (a b : Number) :
    ((a.equal b = true ↔ a.compare b = .eq) ↔ ¬a.MixedUp b) ∧
      (∀ (pool : Pool) (limits : Limits) (place : Place),
        (pool.accepts limits ⟨place, .constant a⟩ (.number b) =
          pool.accepts limits ⟨place, .bounded a⟩ (.number b)) ↔ ¬a.MixedUp b) ∧
      ((∀ between : Number, a.equal between = true → between.equal b = true → a.equal b = true) ↔
        ¬(a.Confused b ∧ a.isInteger = true ∧ b.isInteger = true)) ∧
      (∀ u v w : Json, u.Unconfused w → u.equal v = true → v.equal w = true → u.equal w = true) ∧
      (a.Confused b → 2 ^ 53 < |a.toRat| ∨ 2 ^ 53 < |b.toRat|) := by
  refine ⟨equal_iff_compare_iff a b, fun pool limits place => ?_, equal_trans_iff a b,
    fun u v w h => Json.equal_trans h, fun h => h.large⟩
  rw [pool.accepts_constant, pool.accepts_bounded, ← equal_iff_compare_iff, Bool.eq_iff_iff,
    decide_eq_true_iff]

/-- The largest number below which binary64 skips no integer equals itself through another spelling. -/
theorem equality_against_order_whole :
    let n : Number := .integer 9007199254740992 (by decide)
    let whole : Json := .array [.number n]
    let rounded : Json := .array [.number (.float ⟨false, 4503599627370496, 1, by decide⟩)]
    whole.Unconfused whole ∧ whole.equal rounded = true ∧ rounded.equal whole = true ∧
      whole.equal whole = true := by
  intro n whole rounded
  have hnumber {m : Number} (h : Json.HasNumber m (.array [.number n])) : m = n := by
    cases h with
    | element hitem h =>
      cases List.mem_singleton.mp hitem
      cases h
      rfl
  have hunconfused : whole.Unconfused whole := fun m m' hm hm' hconfused =>
    hconfused.1.1 (by rw [hnumber hm, hnumber hm'])
  have hleft : whole.equal rounded = true := by decide
  have hright : rounded.equal whole = true := by decide
  exact ⟨hunconfused, hleft, hright,
    (equality_against_order n n).2.2.2.1 whole rounded whole hunconfused hleft hright⟩

/-- The first integer that binary64 skips equals the number that it rounds to. It is above it, it is not
within its bounds, and it does not equal the integer of the same value. -/
theorem skipped_integer_equals_rounded :
    let skipped : Number := .integer 9007199254740993 (by decide)
    let rounded : Number := .float ⟨false, 4503599627370496, 1, by decide⟩
    let whole : Number := .integer 9007199254740992 (by decide)
    let accepts (s : Schema) (v : Number) : Bool :=
      (Pool.ofDocument s).accepts Limits.default (Node.root .main s) (.number v)
    skipped.equal rounded = true ∧ skipped.compare rounded = .gt ∧
      rounded.equal whole = true ∧ skipped.equal whole = false ∧
      accepts (.constant skipped) rounded = true ∧ accepts (.bounded skipped) rounded = false := by
  decide

end Number

end Draft6
