import Draft6.Pointer
import Draft6.Proofs.MemberNames

/-!
# Parts of a value

A pointer leads to a part of a value one segment at a time. The decimal text of a position leads to
the element there, and a member name leads to the member when no other member has that name.
-/

namespace Draft6

/-- The digits of a number other than zero begin with another digit than zero. -/
theorem toDigits_ne_zero_cons {i : Nat} (hi : i ≠ 0) (rest : List Char) :
    Nat.toDigits 10 i ≠ '0' :: rest := by
  induction i using Nat.strongRecOn generalizing rest with
  | _ i ih =>
    rw [Nat.toDigits_eq_if (by decide)]
    split
    · intro h
      exact hi (Nat.digitChar_eq_zero.mp (List.cons.inj h).1)
    · next hten =>
      obtain ⟨first, others, hdigits⟩ := List.exists_cons_of_ne_nil (Nat.toDigits_ne_nil
        (n := i / 10) (b := 10))
      rw [hdigits, List.cons_append]
      intro h
      refine ih (i / 10) (by omega) (by omega) others ?_
      rw [hdigits, (List.cons.inj h).1]

namespace Pointer

@[simp] theorem lookup?_root (value : Json) : root.lookup? value = some value := rfl

/-- Segments are followed one list after the other. -/
theorem follow?_append (p q : List String) (value : Json) :
    follow? (p ++ q) value = (follow? p value).bind (follow? q) := by
  induction p generalizing value with
  | nil => rfl
  | cons segment rest ih =>
    rw [List.cons_append, follow?, follow?, Option.bind_assoc]
    exact congrArg (Option.bind _) (funext ih)

/-- One segment is followed to a member or element. -/
theorem follow?_singleton (segment : String) (value : Json) :
    follow? [segment] value = child? segment value := by
  rw [follow?]
  exact Option.bind_fun_some _

/-- One more segment leads to a member or element of the part. -/
theorem lookup?_join (p : Pointer) (segment : String) (value : Json) :
    (p.join segment).lookup? value = (p.lookup? value).bind (child? segment) := by
  rw [lookup?, lookup?, join, follow?_append]
  exact congrArg (Option.bind _) (funext (follow?_singleton segment))

/-- The decimal digits of a position are read as that position. -/
theorem index?_toString (i : Nat) : index? (toString i) = some i := by
  have hchars : (toString i).toList = Nat.toDigits 10 i := by
    rw [Nat.toString_eq_ofList_toDigits, String.toList_ofList]
  have hdigits : ∀ c ∈ Nat.toDigits 10 i, c.isDigit = true := fun c hc =>
    Nat.isDigit_of_mem_toDigits (by decide) (by decide) hc
  rw [index?, hchars]
  split
  · next second rest heq =>
    by_cases hi : i = 0
    · rw [hi] at heq
      cases heq
    · exact absurd heq (toDigits_ne_zero_cons hi _)
  · next rest heq => exact absurd (hdigits '+' (heq ▸ List.mem_cons_self)) (by decide)
  · dsimp only
    rw [if_pos ⟨Nat.toDigits_ne_nil, List.all_eq_true.mpr hdigits⟩, ← Nat.ofDigitChars_eq_foldl,
      Nat.ofDigitChars_ten_toDigits]

/-- The position of an element leads to it. -/
theorem child?_array {items : List Json} {i : Nat} {item : Json} (h : items[i]? = some item) :
    child? (toString i) (.array items) = some item := by
  rw [child?, index?_toString, Option.bind_some, h]

/-- The name of a member leads to it when no other member has that name. -/
theorem child?_object {members : List (String × Json)} {name : String} {value : Json}
    (hnames : (members.map Prod.fst).Nodup) (h : (name, value) ∈ members) :
    child? name (.object members) = some value :=
  (lookup_eq_some_iff_mem hnames).mpr h

/-- The position of an element is followed to it. -/
theorem follow?_element {items : List Json} {i : Nat} {item : Json} (h : items[i]? = some item) :
    follow? [toString i] (.array items) = some item := by
  rw [follow?_singleton, child?_array h]

/-- The name of a member is followed to it when no other member has that name. -/
theorem follow?_member {members : List (String × Json)} {name : String} {value : Json}
    (hnames : (members.map Prod.fst).Nodup) (h : (name, value) ∈ members) :
    follow? [name] (.object members) = some value := by
  rw [follow?_singleton, child?_object hnames h]

/-- What a segment leads to repeats no member name when the whole repeats none. -/
theorem distinctNames_of_child? {segment : String} {value part : Json}
    (h : child? segment value = some part) (hvalue : value.distinctNames = true) :
    part.distinctNames = true := by
  cases value with
  | null | bool | number | string => cases h
  | array items =>
    obtain ⟨i, _, hitem⟩ := Option.bind_eq_some_iff.mp h
    exact Json.distinctNames_array.mp hvalue part (List.mem_of_getElem? hitem)
  | object members =>
    obtain ⟨before, after, hmembers, _⟩ := List.lookup_eq_some_iff.mp h
    exact (Json.distinctNames_object.mp hvalue).2 (segment, part) (by simp [hmembers])

/-- What segments lead to repeats no member name when the whole repeats none. -/
theorem distinctNames_of_follow? {segments : List String} {value part : Json}
    (h : follow? segments value = some part) (hvalue : value.distinctNames = true) :
    part.distinctNames = true := by
  induction segments generalizing value with
  | nil => exact Option.some.inj h ▸ hvalue
  | cons segment rest ih =>
    obtain ⟨below, hbelow, h⟩ := Option.bind_eq_some_iff.mp h
    exact ih h (distinctNames_of_child? hbelow hvalue)

end Pointer

end Draft6
