import Draft6.Proofs.DeepEquality
import Draft6.Proofs.MemberOrder
import Draft6.Proofs.Verdict

/-!
# Repeated elements

An array is searched for the first element that a later one equals. Elements are only compared with
later ones, and equality looks for the members of one object in the other. Neither direction counts:
where no object repeats a name, nothing is found exactly when no two elements are equal. So the order of
the elements and the order of members in them do not decide whether something is found.
-/

namespace Draft6

namespace Json

/-- Whether a later element equals the one at a position. -/
def RepeatsAt (items : List Json) (i : Nat) : Prop :=
  ∃ j a b, i < j ∧ items[i]? = some a ∧ items[j]? = some b ∧ a.equal b = true

/-- Whether neither of two values equals the other. -/
def Distinct (a b : Json) : Prop := a.equal b = false ∧ b.equal a = false

/-- The first element is repeated when another one equals it. -/
theorem repeatsAt_zero {item : Json} {rest : List Json} :
    RepeatsAt (item :: rest) 0 ↔ ∃ b ∈ rest, item.equal b = true := by
  constructor
  · rintro ⟨j, a, b, hj, ha, hb, hequal⟩
    obtain ⟨j, rfl⟩ := Nat.exists_eq_add_one.mpr hj
    obtain rfl := Option.some.inj ha
    exact ⟨b, List.mem_of_getElem? hb, hequal⟩
  · rintro ⟨b, hb, hequal⟩
    obtain ⟨j, hj⟩ := List.getElem?_of_mem hb
    exact ⟨j + 1, item, b, Nat.succ_pos j, rfl, hj, hequal⟩

/-- Another element than the first is repeated as it is without the first. -/
theorem repeatsAt_succ {item : Json} {rest : List Json} {i : Nat} :
    RepeatsAt (item :: rest) (i + 1) ↔ RepeatsAt rest i := by
  constructor
  · rintro ⟨j, a, b, hj, ha, hb, hequal⟩
    obtain ⟨j, rfl⟩ := Nat.exists_eq_add_one.mpr (Nat.zero_lt_of_lt hj)
    exact ⟨j, a, b, Nat.lt_of_succ_lt_succ hj, ha, hb, hequal⟩
  · rintro ⟨j, a, b, hj, ha, hb, hequal⟩
    exact ⟨j + 1, a, b, Nat.succ_lt_succ hj, ha, hb, hequal⟩

/-- The element that is found is the first one that a later one equals. -/
theorem firstDuplicate?_eq_some_iff {items : List Json} {item : Json} :
    firstDuplicate? items = some item ↔
      ∃ i, items[i]? = some item ∧ RepeatsAt items i ∧ ∀ k < i, ¬ RepeatsAt items k := by
  induction items with
  | nil => simp [firstDuplicate?]
  | cons first rest ih =>
    have hfirst : rest.any first.equal = true ↔ RepeatsAt (first :: rest) 0 := by
      rw [repeatsAt_zero, List.any_eq_true]
    rw [firstDuplicate?]
    split
    · next hany =>
      have hrepeats := hfirst.mp hany
      constructor
      · intro h
        exact ⟨0, h, hrepeats, fun k hk => absurd hk (Nat.not_lt_zero k)⟩
      · rintro ⟨i, hitem, -, hbefore⟩
        cases i with
        | zero => exact hitem
        | succ i => exact absurd hrepeats (hbefore 0 (Nat.succ_pos i))
    · next hany =>
      have hnot : ¬ RepeatsAt (first :: rest) 0 := fun h => hany (hfirst.mpr h)
      rw [ih]
      constructor
      · rintro ⟨i, hitem, hrepeats, hbefore⟩
        refine ⟨i + 1, hitem, repeatsAt_succ.mpr hrepeats, fun k hk => ?_⟩
        cases k with
        | zero => exact hnot
        | succ k => exact fun h => hbefore k (Nat.lt_of_succ_lt_succ hk) (repeatsAt_succ.mp h)
      · rintro ⟨i, hitem, hrepeats, hbefore⟩
        cases i with
        | zero => exact absurd hrepeats hnot
        | succ i =>
          exact ⟨i, hitem, repeatsAt_succ.mp hrepeats,
            fun k hk h => hbefore (k + 1) (Nat.succ_lt_succ hk) (repeatsAt_succ.mpr h)⟩

variable {items : List Json}

/-- Nothing is found exactly when of no two elements one equals the other. -/
theorem firstDuplicate?_eq_none_iff_distinct (hitems : ∀ item ∈ items, item.distinctNames = true) :
    firstDuplicate? items = none ↔ items.Pairwise Distinct := by
  rw [firstDuplicate?_eq_none_iff]
  refine ⟨fun h => h.imp_of_mem fun ha hb hab => ⟨hab, ?_⟩, fun h => h.imp And.left⟩
  exact (equalBy_comm Number.equal_comm _ _ (hitems _ hb) (hitems _ ha)).trans hab

/-- Nothing is found exactly when no two elements at different positions are equal. -/
theorem pairwise_distinct_iff : items.Pairwise Distinct ↔
    ∀ (i j : Nat) (a b : Json), i ≠ j → items[i]? = some a → items[j]? = some b → a.equal b = false := by
  rw [List.pairwise_iff_getElem]
  constructor
  · intro h i j a b hij ha hb
    obtain ⟨hi, rfl⟩ := List.getElem?_eq_some_iff.mp ha
    obtain ⟨hj, rfl⟩ := List.getElem?_eq_some_iff.mp hb
    rcases Nat.lt_or_gt_of_ne hij with hlt | hgt
    · exact (h i j hi hj hlt).1
    · exact (h j i hj hi hgt).2
  · intro h i j hi hj hij
    have ha := List.getElem?_eq_getElem hi
    have hb := List.getElem?_eq_getElem hj
    exact ⟨h i j _ _ (Nat.ne_of_lt hij) ha hb, h j i _ _ (Nat.ne_of_gt hij) hb ha⟩

/-- Whether something is found depends neither on the order of the elements nor on the order of members in
them. -/
theorem firstDuplicate?_eq_none_iff_of_reordered (hitems : ∀ item ∈ items, item.distinctNames = true)
    {shuffled others : List Json} (hshuffled : items.Perm shuffled)
    (hothers : List.Forall₂ Reordered shuffled others) :
    firstDuplicate? others = none ↔ firstDuplicate? items = none := by
  have hnames : ∀ item ∈ shuffled, item.distinctNames = true := fun item hitem =>
    hitems item (hshuffled.mem_iff.mpr hitem)
  have hsymm {a b : Json} (h : Distinct a b) : Distinct b a := ⟨h.2, h.1⟩
  have hfound := ObjectSchema.firstDuplicate?_like (L := .reordering)
    ((List.forall₂_and_left _ _).mpr ⟨hnames, hothers⟩)
  rw [firstDuplicate?_eq_none_iff_distinct hitems, hshuffled.pairwise_iff hsymm,
    ← firstDuplicate?_eq_none_iff_distinct hnames]
  generalize firstDuplicate? shuffled = found, firstDuplicate? others = found' at hfound ⊢
  cases hfound <;> simp

/-- Elements of an array are unique when no two of them at different positions are equal. Otherwise the
first one that a later one equals is found. Neither the order of the elements nor the order of members
in them decides whether there is one, and it is what the rule for unique elements reports. -/
theorem unique_elements (items : List Json) (hitems : ∀ item ∈ items, item.distinctNames = true) :
    (firstDuplicate? items = none ↔ ∀ (i j : Nat) (a b : Json), i ≠ j → items[i]? = some a →
        items[j]? = some b → a.equal b = false) ∧
      (∀ item, firstDuplicate? items = some item ↔
        ∃ i, items[i]? = some item ∧ RepeatsAt items i ∧ ∀ k < i, ¬ RepeatsAt items k) ∧
      (∀ shuffled others, items.Perm shuffled → List.Forall₂ Reordered shuffled others →
        (firstDuplicate? others = none ↔ firstDuplicate? items = none)) ∧
      ∀ (r : ArrayRules) (item : Json), Cause.repeatedItem item ∈ r.broken items ↔
        r.uniqueItems = some true ∧ firstDuplicate? items = some item := by
  refine ⟨?_, fun item => firstDuplicate?_eq_some_iff,
    fun _ _ => firstDuplicate?_eq_none_iff_of_reordered hitems, fun r item => ?_⟩
  · rw [firstDuplicate?_eq_none_iff_distinct hitems, pairwise_distinct_iff]
  · have hother {ρ : Type} (rule? : Option ρ) (broken : ρ → Bool) (cause : ρ → Cause)
        (hcause : ∀ rule, cause rule ≠ .repeatedItem item) :
        .repeatedItem item ∉ brokenBy rule? broken cause := by
      rw [brokenBy.eq_def]
      split
      · split
        · exact fun h => hcause _ (List.mem_singleton.mp h).symm
        · exact List.not_mem_nil
      · exact List.not_mem_nil
    rw [ArrayRules.broken, List.mem_append, List.mem_append, or_iff_right, List.mem_ite_nil_right]
    · simp
    · exact not_or.mpr ⟨hother _ _ _ (by simp), hother _ _ _ (by simp)⟩

/-- Two equal points among three elements, which stay equal when their members and the elements come in
another order. -/
theorem unique_elements_points :
    let zero := Json.number Number.zero
    let point := Json.object [("x", zero), ("y", .null)]
    let point' := Json.object [("y", .null), ("x", zero)]
    let items := [.bool false, point, point']
    let others := [point', .bool false, point']
    (∀ item ∈ items, item.distinctNames = true) ∧ firstDuplicate? items = some point ∧
      (∃ i, items[i]? = some point ∧ RepeatsAt items i ∧ ∀ k < i, ¬ RepeatsAt items k) ∧
      items.Perm [point, .bool false, point'] ∧
      List.Forall₂ Reordered [point, .bool false, point'] others ∧ firstDuplicate? others ≠ none := by
  intro zero point point' items others
  have hitems : ∀ item ∈ items, item.distinctNames = true := by decide
  have hperm : items.Perm [point, .bool false, point'] := .swap _ _ _
  have hothers : List.Forall₂ Reordered [point, .bool false, point'] others :=
    .cons (.shuffle (.swap _ _ _)) (.cons (.refl _) (.cons (.refl _) .nil))
  have hfound : firstDuplicate? items = some point := rfl
  obtain ⟨_, hfirst, hsame, _⟩ := unique_elements items hitems
  refine ⟨hitems, hfound, (hfirst point).mp hfound, hperm, hothers, fun hnone => ?_⟩
  rw [(hsame _ _ hperm hothers).mp hnone] at hfound
  cases hfound

end Json

end Draft6
