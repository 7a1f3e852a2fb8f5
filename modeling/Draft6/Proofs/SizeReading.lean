import Draft6.Proofs.Demands
import Draft6.Proofs.ReadNumbers
import Draft6.Proofs.SingleKeywords

/-!
# The size that a number is read as

The keywords that bound a length or a count take a size of 64 bits. A number is read as a size when its
exact value is one, whether it is written as an integer or not, and it is read as that value. There is
one more number that is read: `2 ^ 64`, to which the largest size rounds. It is read as the largest size
itself, which is one less.
-/

namespace Draft6

namespace Json

variable {n : Number} {size : UInt64}

/-- The bound is no size. -/
theorem size_ne_bound (size : UInt64) : (size.toNat : ℚ) ≠ 2 ^ 64 := by
  have := size.toNat_lt
  exact_mod_cast this.ne

/-- The size of a number that denotes an integer from zero up to the bound. -/
theorem size?_of_toRat {i : ℕ} (h : n.toRat = i) (hi : i ≤ 2 ^ 64) :
    size? n = some (UInt64.ofNat (min i (2 ^ 64 - 1))) := by
  cases n with
  | integer value hfits =>
    obtain rfl : value = i := by
      rw [Number.toRat] at h
      exact_mod_cast h
    have hlt : i < 2 ^ 64 := by
      have := hfits.2
      omega
    rw [size?, if_pos (Int.natCast_nonneg i), Int.toNat_natCast, min_eq_left (Nat.le_sub_one_of_lt hlt)]
  | float x =>
    have hx : x.toInt? = some (i : ℤ) := Binary64.toInt?_eq_some_iff.mpr (by exact_mod_cast h)
    rw [size?, hx, Option.bind_some, if_pos ⟨Int.natCast_nonneg i, by omega⟩, Int.toNat_natCast]
    rfl

/-- A number that is read as a size denotes an integer from zero up to the bound. -/
theorem exists_toRat_of_size? (h : size? n = some size) : ∃ i : ℕ, n.toRat = i ∧ i ≤ 2 ^ 64 := by
  cases n with
  | integer value hfits =>
    rw [size?] at h
    split at h
    · next hpos =>
      obtain ⟨i, rfl⟩ := Int.eq_ofNat_of_zero_le hpos
      have := hfits.2
      exact ⟨i, rfl, by omega⟩
    · cases h
  | float x =>
    obtain ⟨i, hi, h⟩ := Option.bind_eq_some_iff.mp h
    split at h
    · next hrange =>
      obtain ⟨m, rfl⟩ := Int.eq_ofNat_of_zero_le hrange.1
      exact ⟨m, Binary64.toInt?_eq_some_iff.mp hi, by omega⟩
    · cases h

/-- A number is read as the size that is its exact value. The bound itself, which is no size, is read as
the largest one. -/
theorem size?_eq_some_iff :
    size? n = some size ↔ n.toRat = size.toNat ∨ n.toRat = 2 ^ 64 ∧ size = 18446744073709551615 := by
  have hlt := size.toNat_lt
  constructor
  · intro h
    obtain ⟨i, hvalue, hi⟩ := exists_toRat_of_size? h
    rw [size?_of_toRat hvalue hi, Option.some.injEq] at h
    subst h
    rcases hi.lt_or_eq with hi | rfl
    · rw [min_eq_left (Nat.le_sub_one_of_lt hi), UInt64.toNat_ofNat_of_lt' hi]
      exact .inl hvalue
    · exact .inr ⟨by exact_mod_cast hvalue, rfl⟩
  · rintro (h | ⟨h, rfl⟩)
    · rw [size?_of_toRat h hlt.le, min_eq_left (Nat.le_sub_one_of_lt hlt), UInt64.ofNat_toNat]
    · rw [size?_of_toRat (i := 2 ^ 64) (by exact_mod_cast h) le_rfl]
      rfl

end Json

namespace ObjectSchema

variable {σ : Type} {child : Json → Decoded σ} {k : Keyword}

/-- The schema object with another size under one of the keywords that take one. -/
def withSize (o : ObjectSchema σ) (k : Keyword) (size : UInt64) : ObjectSchema σ :=
  match k with
  | .maxLength => { o with strings := { o.strings with maxLength := some size } }
  | .minLength => { o with strings := { o.strings with minLength := some size } }
  | .maxItems => { o with arrays := { o.arrays with maxItems := some size } }
  | .minItems => { o with arrays := { o.arrays with minItems := some size } }
  | .maxProperties => { o with objects := { o.objects with maxProperties := some size } }
  | .minProperties => { o with objects := { o.objects with minProperties := some size } }
  | _ => o

/-- The value of a keyword that takes a size is read as a size. -/
theorem decodeKeyword_size (hk : k.demand = .size) (o : ObjectSchema σ) (value : Json) :
    decodeKeyword child o k value = o.withSize k <$> value.asSize := by
  cases k
  case maxLength | minLength | maxItems | minItems | maxProperties | minProperties =>
    exact bind_pure_comp _ _
  all_goals cases hk

/-- Taking a keyword from a schema object that has a size under it is setting the size. -/
theorem withKeyword_withSize (hk : k.demand = .size) (o p : ObjectSchema σ) (size : UInt64) :
    o.withKeyword k (p.withSize k size) = o.withSize k size := by
  cases k
  case maxLength | minLength | maxItems | minItems | maxProperties | minProperties => rfl
  all_goals cases hk

end ObjectSchema

namespace Schema

open ObjectSchema (withSize)

variable {maximum levels : Nat} {k : Keyword} {n : Number} {before after : List (String × Json)}
  {o : ObjectSchema Schema}

/-- A schema object with one more keyword that takes a size is read exactly when the number under it is
read as a size, and this size is then under the keyword. -/
theorem decodeWithin_insert_size (hk : k.demand = .size) (hafter : k.name ∉ after.map Prod.fst)
    (hrest : decodeWithin maximum levels (.object (before ++ after)) = .ok (.object o)) (s : Schema) :
    decodeWithin maximum levels (.object (before ++ (k.name, .number n) :: after)) = .ok s ↔
      ∃ size, Json.size? n = some size ∧ s = .object (o.withSize k size) := by
  cases levels with
  | zero => cases hrest
  | succ levels =>
    obtain ⟨o', ho, hsame⟩ := map_eq_ok.mp hrest
    cases hsame
    have hsize (size : UInt64) : Json.asSize (.number n) = .ok size ↔ Json.size? n = some size := by
      rw [Json.asSize]
      cases Json.size? n with
      | none => constructor <;> intro h <;> cases h
      | some size' => rw [Except.ok.injEq, Option.some.injEq]
    change object <$> ObjectSchema.decode _ _ = .ok s ↔ _
    rw [map_eq_ok]
    simp only [ObjectSchema.decode_insert_eq_ok_iff hafter, ObjectSchema.decodeKeyword_size hk,
      map_eq_ok, hsize]
    constructor
    · rintro ⟨q, ⟨p, hp, _, ⟨size, hread, rfl⟩, rfl⟩, rfl⟩
      cases ho.symm.trans hp
      exact ⟨size, hread, by rw [ObjectSchema.withKeyword_withSize hk]⟩
    · rintro ⟨size, hread, rfl⟩
      exact ⟨_, ⟨o, ho, _, ⟨size, hread, rfl⟩, rfl⟩, by rw [ObjectSchema.withKeyword_withSize hk]⟩

/-- A schema object with one more keyword that takes a size is read exactly when the number under it is an
integer that fits into 64 bits, and this integer is then the size, precisely when the number is not
`2 ^ 64`. That number is read too, as the largest size. -/
theorem decodeWithin_size_iff (hk : k.demand = .size) (hafter : k.name ∉ after.map Prod.fst)
    (hrest : decodeWithin maximum levels (.object (before ++ after)) = .ok (.object o)) :
    let decoded := decodeWithin maximum levels (.object (before ++ (k.name, .number n) :: after))
    ((∀ s, decoded = .ok s ↔ ∃ size : UInt64, n.toRat = size.toNat ∧ s = .object (o.withSize k size)) ↔
        n.toRat ≠ 2 ^ 64) ∧
      (n.toRat = 2 ^ 64 → decoded = .ok (.object (o.withSize k 18446744073709551615))) := by
  intro decoded
  have hdecoded (s : Schema) : decoded = .ok s ↔
      ∃ size, Json.size? n = some size ∧ s = .object (o.withSize k size) :=
    decodeWithin_insert_size hk hafter hrest s
  have hbound (h : n.toRat = 2 ^ 64) :
      decoded = .ok (.object (o.withSize k 18446744073709551615)) :=
    (hdecoded _).mpr ⟨_, Json.size?_eq_some_iff.mpr (.inr ⟨h, rfl⟩), rfl⟩
  -- At the bound something is read, and no size is its value.
  refine ⟨⟨fun hexact h => ?_, fun hne s => ?_⟩, hbound⟩
  · obtain ⟨size, hsize, _⟩ := (hexact _).mp (hbound h)
    exact Json.size_ne_bound size (hsize.symm.trans h)
  · rw [hdecoded]
    exact exists_congr fun size => and_congr_left fun _ =>
      Json.size?_eq_some_iff.trans (or_iff_left fun h => hne h.1)

/-- A size that is written with a fraction of zero, before another one. -/
theorem decodeWithin_size_three :
    let three : Number := .float ⟨false, 6755399441055744, -51, by decide⟩
    let shortest : String × Json := ("minLength", .number (.integer 2 (by decide)))
    decodeWithin 8 3 (.object [("maxLength", .number three), shortest]) =
      .ok (.object { strings := { minLength := some 2, maxLength := some 3 } }) := by
  intro three shortest
  have hvalue : three.toRat = 3 := by
    rw [Number.toRat, Binary64.toRat_eq]
    norm_num [Binary64.signed]
  have hrest : decodeWithin 8 3 (.object ([] ++ [shortest])) =
      .ok (.object { strings := { minLength := some 2 } }) := rfl
  have hthree := decodeWithin_size_iff (k := .maxLength) (n := three) rfl (by decide) hrest
  exact (hthree.1.mpr (by norm_num [hvalue]) _).mpr ⟨3, hvalue, rfl⟩

/-- The number above the largest size is no size, but it is read as the largest one. -/
theorem decode_size_above_largest :
    let above : Number := .float ⟨false, 4503599627370496, 12, by decide⟩
    above.toRat = 2 ^ 64 ∧ (∀ size : UInt64, above.toRat ≠ size.toNat) ∧
      decode Limits.default (.object [("maxLength", .number above)]) =
        .ok (.object { strings := { maxLength := some 18446744073709551615 } }) := by
  intro above
  have hvalue : above.toRat = 2 ^ 64 := by
    rw [Number.toRat, Binary64.toRat_eq]
    norm_num [Binary64.signed, zpow_natCast]
  exact ⟨hvalue, fun size h => Json.size_ne_bound size (h.symm.trans hvalue), rfl⟩

end Schema

end Draft6
