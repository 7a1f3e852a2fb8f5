import Draft6.Proofs.NumberOrder
import Draft6.Proofs.Origins

/-!
# Bounds of numbers

A bound is broken by the exact value of a number, whatever the representations of the two. What is
reported is said here rule by rule in terms of rational numbers alone, apart from divisors.
-/

namespace Draft6

/-- The causes that a number gives to report: one for each rule that its exact value does not meet, with
the bound as the rule has it. -/
inductive NumberRules.Breaks (r : NumberRules) (n : Number) : Cause → Prop
  | multipleOf (divisor : Binary64) (hrule : r.multipleOf = some divisor)
      (hbroken : n.isMultipleOf divisor = false) : Breaks r n (.notMultipleOf divisor n.toBinary64)
  | maximum (bound : Number) (hrule : r.maximum = some bound) (hbroken : bound.toRat < n.toRat) :
      Breaks r n (.aboveMaximum bound n)
  | exclusiveMaximum (bound : Number) (hrule : r.exclusiveMaximum = some bound)
      (hbroken : ¬ n.toRat < bound.toRat) : Breaks r n (.notBelow bound n)
  | minimum (bound : Number) (hrule : r.minimum = some bound) (hbroken : n.toRat < bound.toRat) :
      Breaks r n (.belowMinimum bound n)
  | exclusiveMinimum (bound : Number) (hrule : r.exclusiveMinimum = some bound)
      (hbroken : ¬ bound.toRat < n.toRat) : Breaks r n (.notAbove bound n)

/-- The causes that are reported are those of the rules that the exact value breaks. -/
theorem NumberRules.mem_broken_iff {r : NumberRules} {n : Number} {cause : Cause} :
    cause ∈ r.broken n ↔ r.Breaks n cause := by
  simp only [broken, List.mem_append, mem_brokenBy, Bool.not_eq_true', decide_eq_true_eq, ne_eq,
    Number.compare_eq_gt_iff, Number.compare_eq_lt_iff]
  constructor
  · rintro ((((⟨divisor, hrule, h, rfl⟩ | ⟨bound, hrule, h, rfl⟩) | ⟨bound, hrule, h, rfl⟩) |
      ⟨bound, hrule, h, rfl⟩) | ⟨bound, hrule, h, rfl⟩)
    · exact .multipleOf divisor hrule h
    · exact .maximum bound hrule h
    · exact .exclusiveMaximum bound hrule h
    · exact .minimum bound hrule h
    · exact .exclusiveMinimum bound hrule h
  · rintro (⟨divisor, hrule, h⟩ | ⟨bound, hrule, h⟩ | ⟨bound, hrule, h⟩ | ⟨bound, hrule, h⟩ |
      ⟨bound, hrule, h⟩)
    · exact .inl (.inl (.inl (.inl ⟨divisor, hrule, h, rfl⟩)))
    · exact .inl (.inl (.inl (.inr ⟨bound, hrule, h, rfl⟩)))
    · exact .inl (.inl (.inr ⟨bound, hrule, h, rfl⟩))
    · exact .inl (.inr ⟨bound, hrule, h, rfl⟩)
    · exact .inr ⟨bound, hrule, h, rfl⟩

namespace Number

/-- Numbers compare below or equal when their exact values are so ordered. -/
theorem isLE_compare_iff (a b : Number) : (a.compare b).isLE = true ↔ a.toRat ≤ b.toRat :=
  Ordering.ne_gt_iff_isLE.symm.trans ((not_congr (compare_eq_gt_iff a b)).trans not_lt)

/-- The order of numbers is a total preorder: numbers of one exact value are told apart by nothing. -/
instance : Std.TransCmp Number.compare where
  eq_swap {a b} := by rw [compare_eq, compare_eq, cmp_swap]
  isLE_trans {a b c} hab hbc := by
    rw [isLE_compare_iff] at hab hbc ⊢
    exact hab.trans hbc

/-- Bounds are decided on exact values. Comparing two numbers finds the order of their exact values,
which makes it a total preorder, and a number is reported for the bounds that its exact value breaks and
for no others. -/
theorem bounds_exact :
    (∀ a b : Number, a.compare b = cmp a.toRat b.toRat) ∧ Std.TransCmp Number.compare ∧
      ∀ (r : NumberRules) (n : Number) (cause : Cause), cause ∈ r.broken n ↔ r.Breaks n cause :=
  ⟨compare_eq, inferInstance, fun _ _ _ => NumberRules.mem_broken_iff⟩

/-- The first whole number that binary64 skips lies above the number that it would be rounded to. -/
example : (integer 9007199254740993 (by decide)).compare
    (float ⟨false, 4503599627370496, 1, by decide⟩) = .gt := by decide

end Number

end Draft6
