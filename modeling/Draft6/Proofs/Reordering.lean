import Draft6.Proofs.Likeness
import Draft6.Proofs.PointerParts

/-!
# Members in another order

Two values differ only in the order of members when one becomes the other by shuffling members, in the
value itself or in a part of it, any number of times. Such values answer to each other part by part,
and equality does not tell them apart.

A member name leads to the same member in both, but only where no object repeats a name. The parser
gives no others.
-/

namespace Draft6

namespace Json

/-- Whether a value becomes another one by shuffling the members of objects, at any depth. -/
inductive Reordered : Json → Json → Prop
  | refl (value : Json) : Reordered value value
  | trans {first second third : Json} (h : Reordered first second) (h' : Reordered second third) :
      Reordered first third
  | element (before after : List Json) {item item' : Json} (h : Reordered item item') :
      Reordered (.array (before ++ item :: after)) (.array (before ++ item' :: after))
  | member (before after : List (String × Json)) (name : String) {value value' : Json}
      (h : Reordered value value') :
      Reordered (.object (before ++ (name, value) :: after))
        (.object (before ++ (name, value') :: after))
  | shuffle {members members' : List (String × Json)} (h : members.Perm members') :
      Reordered (.object members) (.object members')

variable {value value' : Json}

/-- No name is repeated after members have been shuffled. -/
theorem Reordered.distinctNames (h : value.Reordered value') (hvalue : value.distinctNames = true) :
    value'.distinctNames = true := by
  induction h with
  | refl => exact hvalue
  | trans _ _ ih ih' => exact ih' (ih hvalue)
  | element before after _ ih =>
    rw [distinctNames_array, List.forall_mem_append, List.forall_mem_cons] at hvalue ⊢
    exact ⟨hvalue.1, ih hvalue.2.1, hvalue.2.2⟩
  | member before after name _ ih =>
    rw [distinctNames_object, List.forall_mem_append, List.forall_mem_cons] at hvalue ⊢
    refine ⟨?_, hvalue.2.1, ih hvalue.2.2.1, hvalue.2.2.2⟩
    simpa only [List.map_append, List.map_cons] using hvalue.1
  | shuffle h =>
    rw [distinctNames_object] at hvalue ⊢
    exact ⟨(h.map Prod.fst).nodup_iff.mp hvalue.1,
      fun member hmember => hvalue.2 member (h.mem_iff.mpr hmember)⟩

/-! ## Part by part -/

/-- Whether two members have one name, and values that differ in the order of members. -/
def MemberReordered (member member' : String × Json) : Prop :=
  member.1 = member'.1 ∧ member.2.Reordered member'.2

/-- What answers to each other step by step does so in one step. -/
theorem forall₂_trans {α β γ : Type} {R : α → β → Prop} {S : β → γ → Prop} {T : α → γ → Prop}
    {xs : List α} {ys : List β} {zs : List γ}
    (htrans : ∀ x ∈ xs, ∀ y, ∀ z ∈ zs, R x y → S y z → T x z) (h : List.Forall₂ R xs ys)
    (h' : List.Forall₂ S ys zs) : List.Forall₂ T xs zs := by
  induction h generalizing zs with
  | nil =>
    cases h'
    exact .nil
  | cons hfirst _ ih =>
    cases h' with
    | cons hfirst' hrest' =>
      refine .cons (htrans _ List.mem_cons_self _ _ List.mem_cons_self hfirst hfirst') (ih ?_ hrest')
      exact fun x hx y z hz =>
        htrans x (List.mem_cons_of_mem _ hx) y z (List.mem_cons_of_mem _ hz)

/-- Values that differ in the order of members answer to each other part by part. -/
theorem Reordered.matches (h : value.Reordered value') : Matches true Reordered value value' := by
  induction h with
  | refl value => exact matches_self .refl true value
  | trans h h' ih ih' =>
    cases ih with
    | scalar => exact ih'
    | array hitems =>
      cases ih' with
      | scalar => exact .array hitems
      | array hitems' => exact .array (forall₂_trans (fun _ _ _ _ _ h h' => h.trans h') hitems hitems')
    | object hmembers =>
      cases ih' with
      | scalar => exact .object hmembers
      | object hmembers' =>
        obtain ⟨middle, hrelated, hshuffled⟩ := hmembers
        obtain ⟨last, hrelated', hshuffled'⟩ := hmembers'
        -- The first shuffle is put off until after the second change of values.
        obtain ⟨next, hnext, hperm⟩ := List.perm_comp_forall₂ hshuffled hrelated'
        have hboth : List.Forall₂ MemberReordered _ next :=
          forall₂_trans (fun _ _ _ _ _ h h' => ⟨h.1.trans h'.1, h.2.trans h'.2⟩) hrelated hnext
        exact .object ⟨next, hboth, hperm.trans hshuffled'⟩
  | element before after h =>
    exact .array (List.rel_append (List.forall₂_same.mpr fun item _ => .refl item)
      (.cons h (List.forall₂_same.mpr fun item _ => .refl item)))
  | member before after name h =>
    have hsame (members : List (String × Json)) : List.Forall₂ MemberReordered members members :=
      List.forall₂_same.mpr fun member _ => ⟨rfl, .refl member.2⟩
    exact .object (alike_of_forall₂ (List.rel_append (hsame before)
      (.cons ⟨rfl, h⟩ (hsame after))))
  | shuffle h => exact .object ⟨_, List.forall₂_same.mpr fun member _ => ⟨rfl, .refl member.2⟩, h⟩

/-- Whether two values repeat no member name and differ in the order of members. -/
def DistinctReordered (value value' : Json) : Prop :=
  value.distinctNames = true ∧ value.Reordered value'

/-- The parts of values that repeat no member name repeat none. -/
theorem DistinctReordered.matches (h : value.DistinctReordered value') :
    Matches true DistinctReordered value value' := by
  obtain ⟨hvalue, hreordered⟩ := h
  cases hreordered.matches with
  | scalar harray hobject => exact .scalar harray hobject
  | array hitems =>
    exact .array ((List.forall₂_and_left _ _).mpr ⟨distinctNames_array.mp hvalue, hitems⟩)
  | object hmembers =>
    obtain ⟨others, hrelated, hshuffled⟩ := hmembers
    have hboth := (List.forall₂_and_left _ _).mpr ⟨(distinctNames_object.mp hvalue).2, hrelated⟩
    exact .object ⟨others, hboth.imp fun _ _ h => ⟨h.2.1, h.1, h.2.2⟩, hshuffled⟩

/-- The order of members is changed back by changing it again. -/
theorem Reordered.symm (h : value.Reordered value') : value'.Reordered value := by
  induction h with
  | refl value => exact .refl value
  | trans _ _ ih ih' => exact ih'.trans ih
  | element before after _ ih => exact .element before after ih
  | member before after name _ ih => exact .member before after name ih
  | shuffle h => exact .shuffle h.symm

/-- Of two values that differ in the order of members neither repeats a member name when one does not. -/
theorem DistinctReordered.symm (h : value.DistinctReordered value') :
    value'.DistinctReordered value :=
  ⟨h.2.distinctNames h.1, h.2.symm⟩

/-! ## Equality -/

variable {numbers : Number → Number → Bool}

/-- Two arrays are equal when their elements are. -/
theorem equalBy_array (items others : List Json) :
    equalBy numbers (.array items) (.array others) = equalItems numbers items others := rfl

/-- Two objects are equal when they have equally many members, and those of the first are found. -/
theorem equalBy_object (members others : List (String × Json)) :
    equalBy numbers (.object members) (.object others) =
      (decide (members.length = others.length) && equalMembers numbers members others) := rfl

/-- Elements are compared one by one. -/
theorem equalItems_cons (item other : Json) (items others : List Json) :
    equalItems numbers (item :: items) (other :: others) =
      (equalBy numbers item other && equalItems numbers items others) := rfl

/-- Equality of members looks for each member of the first object in the second one. -/
theorem equalMembers_eq_all (members others : List (String × Json)) :
    equalMembers numbers members others =
      members.all fun member => (others.lookup member.1).any (equalBy numbers member.2) := by
  induction members with
  | nil => rfl
  | cons member rest ih =>
    rw [equalMembers, ih, List.all_cons]
    cases others.lookup member.1 <;> rfl

/-- An element on the left may be replaced by one that equals the same values. -/
theorem equalItems_replace_left {item item' : Json}
    (h : ∀ other, equalBy numbers item other = equalBy numbers item' other)
    (before after others : List Json) : equalItems numbers (before ++ item :: after) others =
      equalItems numbers (before ++ item' :: after) others := by
  induction before generalizing others with
  | nil =>
    cases others with
    | nil => rfl
    | cons first rest => rw [List.nil_append, List.nil_append, equalItems_cons, equalItems_cons, h]
  | cons head before ih =>
    cases others with
    | nil => rfl
    | cons first rest => rw [List.cons_append, List.cons_append, equalItems_cons, equalItems_cons, ih]

/-- An element on the right may be replaced by one that the same values equal. -/
theorem equalItems_replace_right {item item' : Json}
    (h : ∀ other, equalBy numbers other item = equalBy numbers other item')
    (before after others : List Json) : equalItems numbers others (before ++ item :: after) =
      equalItems numbers others (before ++ item' :: after) := by
  induction before generalizing others with
  | nil =>
    cases others with
    | nil => rfl
    | cons first rest => rw [List.nil_append, List.nil_append, equalItems_cons, equalItems_cons, h]
  | cons head before ih =>
    cases others with
    | nil => rfl
    | cons first rest => rw [List.cons_append, List.cons_append, equalItems_cons, equalItems_cons, ih]

/-- The order of members on the left does not count for equality. -/
theorem Reordered.equalBy_left (h : value.Reordered value') (other : Json) :
    equalBy numbers value other = equalBy numbers value' other := by
  induction h generalizing other with
  | refl => rfl
  | trans _ _ ih ih' => exact (ih other).trans (ih' other)
  | element before after _ ih =>
    cases other with
    | null | bool | number | string | object => rfl
    | array others => rw [equalBy_array, equalBy_array, equalItems_replace_left ih]
  | @member before after name part part' _ ih =>
    have hpart : equalBy numbers part = equalBy numbers part' := funext ih
    cases other with
    | null | bool | number | string | array => rfl
    | object others =>
      rw [equalBy_object, equalBy_object, equalMembers_eq_all, equalMembers_eq_all, List.all_append,
        List.all_append, List.all_cons, List.all_cons]
      simp only [hpart, List.length_append, List.length_cons]
  | shuffle h =>
    cases other with
    | null | bool | number | string | array => rfl
    | object others =>
      rw [equalBy_object, equalBy_object, equalMembers_eq_all, equalMembers_eq_all, h.length_eq, h.all_eq]

/-- A name leads to the same thing after named things have been shuffled. -/
theorem lookup_eq_of_perm {α : Type} {entries entries' : List (String × α)}
    (hnames : (entries.map Prod.fst).Nodup) (h : entries.Perm entries') (name : String) :
    entries.lookup name = entries'.lookup name := by
  have hnames' : (entries'.map Prod.fst).Nodup := (h.map Prod.fst).nodup_iff.mp hnames
  refine Option.ext fun a => ?_
  rw [lookup_eq_some_iff_mem hnames, lookup_eq_some_iff_mem hnames', h.mem_iff]

/-- The order of members on the right does not count for equality where names are not repeated. -/
theorem Reordered.equalBy_right (h : value.Reordered value') (hvalue : value.distinctNames = true)
    (other : Json) : equalBy numbers other value = equalBy numbers other value' := by
  induction h generalizing other with
  | refl => rfl
  | trans h _ ih ih' => exact (ih hvalue other).trans (ih' (h.distinctNames hvalue) other)
  | @element before after item item' _ ih =>
    have hitem : item.distinctNames = true :=
      distinctNames_array.mp hvalue item (List.mem_append_right _ List.mem_cons_self)
    cases other with
    | null | bool | number | string | object => rfl
    | array others => rw [equalBy_array, equalBy_array, equalItems_replace_right (ih hitem)]
  | @member before after name part part' _ ih =>
    have hpart : part.distinctNames = true :=
      (distinctNames_object.mp hvalue).2 (name, part) (List.mem_append_right _ List.mem_cons_self)
    cases other with
    | null | bool | number | string | array => rfl
    | object others =>
      rw [equalBy_object, equalBy_object, equalMembers_eq_all, equalMembers_eq_all]
      have hmember (sought : String × Json) :
          ((before ++ (name, part) :: after).lookup sought.1).any (equalBy numbers sought.2) =
            ((before ++ (name, part') :: after).lookup sought.1).any (equalBy numbers sought.2) := by
        rw [List.lookup_append, List.lookup_append, List.lookup_cons, List.lookup_cons]
        cases before.lookup sought.1 with
        | some found => rfl
        | none =>
          cases sought.1 == name with
          | true => exact ih hpart sought.2
          | false => rfl
      simp only [hmember, List.length_append, List.length_cons]
  | shuffle h =>
    cases other with
    | null | bool | number | string | array => rfl
    | object others =>
      have hlookup := lookup_eq_of_perm (distinctNames_object.mp hvalue).1 h
      rw [equalBy_object, equalBy_object, equalMembers_eq_all, equalMembers_eq_all, h.length_eq]
      simp only [hlookup]

end Json

end Draft6
