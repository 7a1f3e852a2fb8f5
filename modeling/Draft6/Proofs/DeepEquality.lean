import Draft6.Proofs.NumberOrder
import Draft6.Proofs.Reordering
import Mathlib.Data.List.Perm.Subperm

/-!
# Deep equality

Equality of values looks for the members of the first object in the second one, and never the other way
round. The second object has equally many members. Where no object repeats a name, none of its members
is left over, so it does not matter which of the two is searched.
-/

namespace Draft6

namespace Json

/-- What is true of values without parts, and of arrays and objects when it is true of their parts, is
true of every value. -/
theorem induction_on_parts {P : Json → Prop} (null : P .null) (bool : ∀ b, P (.bool b))
    (number : ∀ n, P (.number n)) (string : ∀ s, P (.string s))
    (array : ∀ items, (∀ item ∈ items, P item) → P (.array items))
    (object : ∀ members, (∀ member ∈ members, P member.2) → P (.object members)) (value : Json) :
    P value :=
  @Json.rec P (fun items => ∀ item ∈ items, P item) (fun members => ∀ member ∈ members, P member.2)
    (fun member => P member.2) null bool number string array object nofun
    (fun _ _ hfirst hrest => List.forall_mem_cons.mpr ⟨hfirst, hrest⟩) nofun
    (fun _ _ hfirst hrest => List.forall_mem_cons.mpr ⟨hfirst, hrest⟩) (fun _ _ h => h) value

/-! ## A value equals itself -/

variable {numbers : Number → Number → Bool}

/-- Two arrays are equal exactly when their elements are, one by one. -/
theorem equalItems_iff {items others : List Json} : equalItems numbers items others = true ↔
    List.Forall₂ (fun item other => equalBy numbers item other = true) items others := by
  induction items generalizing others with
  | nil =>
    cases others with
    | nil => exact iff_of_true rfl .nil
    | cons other others => exact iff_of_false Bool.false_ne_true nofun
  | cons item items ih =>
    cases others with
    | nil => exact iff_of_false Bool.false_ne_true nofun
    | cons other others => rw [equalItems_cons, Bool.and_eq_true, ih, List.forall₂_cons]

/-- Two objects of equally many members are equal exactly when every member of the first has an equal one
of its name in the second. -/
theorem equalMembers_iff {members others : List (String × Json)} :
    equalMembers numbers members others = true ↔ ∀ member ∈ members,
      ∃ other, others.lookup member.1 = some other ∧ equalBy numbers member.2 other = true := by
  simp only [equalMembers_eq_all, List.all_eq_true, Option.any_eq_true]

/-- A value equals itself when every number does. -/
theorem equalBy_self (hnumbers : ∀ n, numbers n n = true) (value : Json)
    (hvalue : value.distinctNames = true) : equalBy numbers value value = true := by
  induction value using induction_on_parts with
  | null => rfl
  | bool b => exact decide_eq_true rfl
  | number n => exact hnumbers n
  | string s => exact decide_eq_true rfl
  | array items ih =>
    rw [distinctNames_array] at hvalue
    exact equalItems_iff.mpr (List.forall₂_same.mpr fun item hitem => ih item hitem (hvalue item hitem))
  | object members ih =>
    rw [distinctNames_object] at hvalue
    rw [equalBy_object, decide_eq_true rfl, Bool.true_and, equalMembers_iff]
    exact fun member hmember => ⟨member.2, Pointer.child?_object hvalue.1 hmember,
      ih member hmember (hvalue.2 member hmember)⟩

/-! ## Either value may come first -/

/-- It does not matter which of two arrays comes first when it does not matter for their elements. -/
theorem equalItems_swap {items others : List Json} (hparts : ∀ item ∈ items, ∀ other ∈ others,
      equalBy numbers item other = equalBy numbers other item) :
    equalItems numbers items others = equalItems numbers others items := by
  induction items generalizing others with
  | nil => cases others <;> rfl
  | cons item items ih =>
    cases others with
    | nil => rfl
    | cons other others =>
      rw [equalItems_cons, equalItems_cons, hparts item List.mem_cons_self other List.mem_cons_self,
        ih fun _ hitem _ hother =>
          hparts _ (List.mem_cons_of_mem _ hitem) _ (List.mem_cons_of_mem _ hother)]

/-- Of two lists of names without repetitions and equally long, one that lies in the other has all of its
names. -/
theorem names_subset {members others : List (String × Json)} (hnames : (members.map Prod.fst).Nodup)
    (hlength : members.length = others.length)
    (h : members.map Prod.fst ⊆ others.map Prod.fst) :
    others.map Prod.fst ⊆ members.map Prod.fst := by
  have hperm := (hnames.subperm h).perm_of_length_le (by simp [hlength])
  exact hperm.symm.subset

/-- An object equals a second one whenever the second one equals it. -/
theorem equalMembers_swap {members others : List (String × Json)}
    (hmembers : (members.map Prod.fst).Nodup) (hothers : (others.map Prod.fst).Nodup)
    (hlength : members.length = others.length)
    (hparts : ∀ member ∈ members, ∀ other ∈ others,
      equalBy numbers member.2 other.2 = equalBy numbers other.2 member.2)
    (h : equalMembers numbers members others = true) :
    equalMembers numbers others members = true := by
  rw [equalMembers_iff] at h ⊢
  -- Every name of the first object is one of the second, so by counting also the other way round.
  have hnames : others.map Prod.fst ⊆ members.map Prod.fst := by
    refine names_subset hmembers hlength fun name hname => ?_
    obtain ⟨member, hmember, rfl⟩ := List.mem_map.mp hname
    obtain ⟨other, hlookup, _⟩ := h member hmember
    exact List.mem_map.mpr ⟨(member.1, other), mem_of_lookup hlookup, rfl⟩
  rintro ⟨name, other⟩ hother
  obtain ⟨⟨_, value⟩, hmember, rfl⟩ := List.mem_map.mp (hnames (List.mem_map_of_mem hother))
  obtain ⟨found, hfound, hequal⟩ := h _ hmember
  obtain rfl : other = found :=
    Option.some.inj ((Pointer.child?_object hothers hother).symm.trans hfound)
  exact ⟨value, Pointer.child?_object hmembers hmember, hparts _ hmember _ hother ▸ hequal⟩

/-- It does not matter which of two values comes first when it does not matter for numbers. -/
theorem equalBy_comm (hnumbers : ∀ m n, numbers m n = numbers n m) (value other : Json)
    (hvalue : value.distinctNames = true) (hother : other.distinctNames = true) :
    equalBy numbers value other = equalBy numbers other value := by
  induction value using induction_on_parts generalizing other with
  | null => cases other <;> rfl
  | bool b =>
    cases other with
    | bool c => exact decide_eq_decide.mpr eq_comm
    | null | number | string | array | object => rfl
  | number n =>
    cases other with
    | number m => exact hnumbers n m
    | null | bool | string | array | object => rfl
  | string s =>
    cases other with
    | string t => exact decide_eq_decide.mpr eq_comm
    | null | bool | number | array | object => rfl
  | array items ih =>
    cases other with
    | null | bool | number | string | object => rfl
    | array others =>
      rw [distinctNames_array] at hvalue hother
      rw [equalBy_array, equalBy_array]
      exact equalItems_swap fun item hitem other hmem =>
        ih item hitem other (hvalue item hitem) (hother other hmem)
  | object members ih =>
    cases other with
    | null | bool | number | string | array => rfl
    | object others =>
      rw [distinctNames_object] at hvalue hother
      have hparts : ∀ member ∈ members, ∀ other ∈ others,
          equalBy numbers member.2 other.2 = equalBy numbers other.2 member.2 :=
        fun member hmember other hmem =>
          ih member hmember other.2 (hvalue.2 member hmember) (hother.2 other hmem)
      rw [equalBy_object, equalBy_object, Bool.eq_iff_iff]
      simp only [Bool.and_eq_true, decide_eq_true_eq]
      constructor
      · rintro ⟨hlength, h⟩
        exact ⟨hlength.symm, equalMembers_swap hvalue.1 hother.1 hlength hparts h⟩
      · rintro ⟨hlength, h⟩
        exact ⟨hlength.symm, equalMembers_swap hother.1 hvalue.1 hlength
          (fun member hmember other hmem => (hparts other hmem member hmember).symm) h⟩

/-! ## What equals the same value -/

/-- Whether a number stands in a value. -/
inductive HasNumber (n : Number) : Json → Prop
  | here : HasNumber n (.number n)
  | element {item : Json} {items : List Json} (hitem : item ∈ items) (h : HasNumber n item) :
      HasNumber n (.array items)
  | member {member : String × Json} {members : List (String × Json)} (hmember : member ∈ members)
      (h : HasNumber n member.2) : HasNumber n (.object members)

/-- Equality of values is transitive when it is for the numbers of the first and the last value. -/
theorem equalBy_trans {u v w : Json} (hnumbers : ∀ l m n, u.HasNumber l → w.HasNumber n →
      numbers l m = true → numbers m n = true → numbers l n = true)
    (huv : equalBy numbers u v = true) (hvw : equalBy numbers v w = true) :
    equalBy numbers u w = true := by
  induction u using induction_on_parts generalizing v w with
  | null => cases v <;> first | exact hvw | cases huv
  | bool b =>
    cases v with
    | bool => exact of_decide_eq_true huv ▸ hvw
    | null | number | string | array | object => cases huv
  | number l =>
    cases v with
    | number m =>
      cases w with
      | number n => exact hnumbers l m n .here .here huv hvw
      | null | bool | string | array | object => cases hvw
    | null | bool | string | array | object => cases huv
  | string s =>
    cases v with
    | string => exact of_decide_eq_true huv ▸ hvw
    | null | bool | number | array | object => cases huv
  | array items ih =>
    cases v with
    | array middle =>
      cases w with
      | array others =>
        rw [equalBy_array, equalItems_iff] at huv hvw ⊢
        refine forall₂_trans (fun item hitem _ other hother huv hvw => ?_) huv hvw
        exact ih item hitem (fun l m n hl hn =>
          hnumbers l m n (.element hitem hl) (.element hother hn)) huv hvw
      | null | bool | number | string | object => cases hvw
    | null | bool | number | string | object => cases huv
  | object members ih =>
    cases v with
    | object middle =>
      cases w with
      | object others =>
        rw [equalBy_object, Bool.and_eq_true, decide_eq_true_eq, equalMembers_iff] at huv hvw ⊢
        refine ⟨huv.1.trans hvw.1, fun member hmember => ?_⟩
        obtain ⟨value, hvalue, huv⟩ := huv.2 member hmember
        obtain ⟨other, hother, hvw⟩ := hvw.2 (member.1, value) (mem_of_lookup hvalue)
        exact ⟨other, hother, ih member hmember (fun l m n hl hn =>
          hnumbers l m n (.member hmember hl) (.member (mem_of_lookup hother) hn)) huv hvw⟩
      | null | bool | number | string | array => cases hvw
    | null | bool | number | string | array => cases huv

end Json

namespace Number

/-- Every number equals itself. -/
theorem equal_self (a : Number) : a.equal a = true := by
  cases a with
  | integer i _ => exact decide_eq_true rfl
  | float x => exact decide_eq_true ((Binary64.compare_eq_eq_iff x x).mpr rfl)

/-- It does not matter which of two numbers comes first. -/
theorem equal_comm (a b : Number) : a.equal b = b.equal a := by
  have hnearest : (decide (a.toBinary64.compare b.toBinary64 = .eq)) =
      decide (b.toBinary64.compare a.toBinary64 = .eq) :=
    decide_eq_decide.mpr (by rw [Binary64.compare_eq_eq_iff, Binary64.compare_eq_eq_iff, eq_comm])
  cases a with
  | integer i _ =>
    cases b with
    | integer j _ => exact decide_eq_decide.mpr eq_comm
    | float _ => exact hnearest
  | float _ => cases b <;> exact hnearest

end Number

namespace Json

/-- Values that become each other by shuffling members are equal to the same values. -/
theorem Reordered.equal_eq {value value' other other' : Json} (hother : other.distinctNames = true)
    (h : value.Reordered value') (h' : other.Reordered other') :
    value'.equal other' = value.equal other :=
  (h.equalBy_left other').symm.trans (h'.equalBy_right hother value).symm

/-- Deep equality is reflexive and symmetric, and the order of members counts nowhere in it, in values
that repeat no member name in one object. -/
theorem equal_laws (a b : Json) (ha : a.distinctNames = true) (hb : b.distinctNames = true) :
    a.equal a = true ∧ a.equal b = b.equal a ∧
      ∀ a' b', a.Reordered a' → b.Reordered b' → a'.equal b' = a.equal b :=
  ⟨equalBy_self Number.equal_self a ha, equalBy_comm Number.equal_comm a b ha hb,
    fun _ _ h h' => h.equal_eq hb h'⟩

/-- Members in another order, in the whole and in an element, with a number that is written otherwise. -/
theorem equal_laws_points :
    let one := Json.number (.integer 1 (by decide))
    let point := Json.object [("x", one), ("y", .null)]
    let point' := Json.object [("y", .null), ("x", .number (.float .one))]
    let a := Json.object [("points", .array [point]), ("closed", .bool true)]
    let a' := Json.object [("closed", .bool true), ("points", .array [point])]
    let b := Json.object [("points", .array [point']), ("closed", .bool true)]
    a.distinctNames = true ∧ b.distinctNames = true ∧ a.Reordered a' ∧ a.equal b = true ∧
      b.equal a = true ∧ a'.equal b = true := by
  intro one point point' a a' b
  have ha : a.distinctNames = true := by decide
  have hb : b.distinctNames = true := by decide
  have hreordered : a.Reordered a' := .shuffle (.swap _ _ [])
  have hequal : a.equal b = true := by decide
  obtain ⟨_, hcomm, hblind⟩ := equal_laws a b ha hb
  exact ⟨ha, hb, hreordered, hequal, hcomm ▸ hequal, (hblind a' b hreordered (.refl b)).trans hequal⟩

end Json

end Draft6
