import Draft6.Proofs.Origins
import Mathlib.Data.List.Forall2
import Mathlib.Data.List.Perm.Basic

/-!
# Visits that are alike

Two validations may differ in what does not count: where the document was loaded, or in which order
the members of an object stand. A likeness says which frames, which values and which failures answer
to each other, and whether the order of failures counts.

A schema object reports alike for values that are alike when its sub-schemas do. There is one lemma
for each keyword. Only the emptiness of what a sub-schema reports and the failures that are never
dropped decide about a branch, and these are the same on both sides.
-/

namespace Draft6

/-! ## Lists that are alike -/

/-- Whether two lists are one list, or have the same elements when their order does not count. -/
def Shuffled {α : Type} : (loose : Bool) → List α → List α → Prop
  | true, xs, ys => xs.Perm ys
  | false, xs, ys => xs = ys

/-- Whether two lists answer to each other element by element, perhaps in another order. -/
def Alike {α β : Type} (loose : Bool) (R : α → β → Prop) (xs : List α) (ys : List β) : Prop :=
  ∃ zs, List.Forall₂ R xs zs ∧ Shuffled loose zs ys

section Lists

variable {α β γ δ : Type} {loose : Bool} {R : α → β → Prop} {S : γ → δ → Prop}

/-- A list has its own elements. -/
theorem Shuffled.refl (loose : Bool) (xs : List α) : Shuffled loose xs xs := by
  cases loose with
  | true => exact List.Perm.refl xs
  | false => rfl

/-- Shuffled lists have the same elements. -/
theorem Shuffled.perm {xs ys : List α} (h : Shuffled loose xs ys) : xs.Perm ys := by
  cases loose with
  | true => exact h
  | false => exact List.Perm.of_eq h

/-- Lists are shuffled one behind the other. -/
theorem Shuffled.append {xs ys xs' ys' : List α} (h : Shuffled loose xs ys)
    (h' : Shuffled loose xs' ys') : Shuffled loose (xs ++ xs') (ys ++ ys') := by
  cases loose with
  | true => exact List.Perm.append h h'
  | false => exact congrArg₂ _ h h'

/-- One list shuffled after another is shuffled. -/
theorem Shuffled.trans {xs ys zs : List α} (h : Shuffled loose xs ys) (h' : Shuffled loose ys zs) :
    Shuffled loose xs zs := by
  cases loose with
  | true => exact List.Perm.trans h h'
  | false => exact Eq.trans h h'

/-- The chosen elements of shuffled lists are shuffled. -/
theorem Shuffled.filter {xs ys : List α} (h : Shuffled loose xs ys) (p : α → Bool) :
    Shuffled loose (xs.filter p) (ys.filter p) := by
  cases loose with
  | true => exact List.Perm.filter p h
  | false => exact congrArg (List.filter p) h

/-- What the elements of shuffled lists give is shuffled. -/
theorem Shuffled.flatMap {xs ys : List α} (h : Shuffled loose xs ys) (g : α → List γ) :
    Shuffled loose (xs.flatMap g) (ys.flatMap g) := by
  cases loose with
  | true => exact List.Perm.flatMap_right g h
  | false => exact congrArg (List.flatMap g) h

/-- Lists that answer to each other element by element are alike. -/
theorem alike_of_forall₂ {xs : List α} {ys : List β} (h : List.Forall₂ R xs ys) :
    Alike loose R xs ys := ⟨ys, h, Shuffled.refl loose ys⟩

/-- What one list is turned into in two ways answers to each other. -/
theorem forall₂_map {xs : List α} {g : α → γ} {g' : α → δ} (h : ∀ a ∈ xs, S (g a) (g' a)) :
    List.Forall₂ S (xs.map g) (xs.map g') :=
  List.forall₂_map_left_iff.mpr (List.forall₂_map_right_iff.mpr (List.forall₂_same.mpr h))

/-- Two empty lists are alike. -/
theorem alike_nil : Alike loose R [] [] := alike_of_forall₂ .nil

/-- Two lists of one element are alike when the elements answer to each other. -/
theorem alike_singleton {a : α} {b : β} (h : R a b) : Alike loose R [a] [b] :=
  alike_of_forall₂ (.cons h .nil)

/-- Lists that are alike stay so one behind the other. -/
theorem Alike.append {xs xs' : List α} {ys ys' : List β} (h : Alike loose R xs ys)
    (h' : Alike loose R xs' ys') : Alike loose R (xs ++ xs') (ys ++ ys') := by
  obtain ⟨zs, hrelated, hshuffled⟩ := h
  obtain ⟨zs', hrelated', hshuffled'⟩ := h'
  exact ⟨zs ++ zs', List.rel_append hrelated hrelated', hshuffled.append hshuffled'⟩

/-- Lists that are alike are equally long. -/
theorem Alike.length_eq {xs : List α} {ys : List β} (h : Alike loose R xs ys) :
    xs.length = ys.length := by
  obtain ⟨zs, hrelated, hshuffled⟩ := h
  exact hrelated.length_eq.trans hshuffled.perm.length_eq

/-- Lists that are alike are both empty or both not. -/
theorem Alike.isEmpty_eq {xs : List α} {ys : List β} (h : Alike loose R xs ys) :
    xs.isEmpty = ys.isEmpty := by
  rw [Bool.eq_iff_iff, List.isEmpty_iff_length_eq_zero, List.isEmpty_iff_length_eq_zero,
    h.length_eq]

/-- The chosen elements of lists that are alike are alike. -/
theorem Alike.filter {xs : List α} {ys : List β} (h : Alike loose R xs ys) {p : α → Bool}
    {q : β → Bool} (hpq : ∀ a b, R a b → p a = q b) :
    Alike loose R (xs.filter p) (ys.filter q) := by
  obtain ⟨zs, hrelated, hshuffled⟩ := h
  have hchosen (a : α) (b : β) (hab : R a b) : p a = true ↔ q b = true :=
    Bool.eq_iff_iff.mp (hpq a b hab)
  exact ⟨zs.filter q, List.rel_filter hchosen hrelated, hshuffled.filter q⟩

/-- What answering lists of lists hold is alike. -/
theorem alike_flatten {xss : List (List α)} {yss : List (List β)}
    (h : List.Forall₂ (Alike loose R) xss yss) : Alike loose R xss.flatten yss.flatten := by
  induction h with
  | nil => exact alike_nil
  | cons hfirst _ ih => exact hfirst.append ih

/-- What the elements of lists that are alike give is alike. -/
theorem Alike.flatMap {xs : List α} {ys : List β} (h : Alike loose R xs ys) {g : α → List γ}
    {g' : β → List δ} (hg : ∀ a b, R a b → Alike loose S (g a) (g' b)) :
    Alike loose S (xs.flatMap g) (ys.flatMap g') := by
  obtain ⟨zs, hrelated, hshuffled⟩ := h
  have hlists : List.Forall₂ (Alike loose S) (xs.map g) (zs.map g') :=
    List.forall₂_map_left_iff.mpr (List.forall₂_map_right_iff.mpr (hrelated.imp hg))
  obtain ⟨us, hus, husShuffled⟩ := alike_flatten hlists
  exact ⟨us, hus, husShuffled.trans (hshuffled.flatMap g')⟩

/-- What the elements of one list give on two sides is alike. -/
theorem alike_flatMap {xs : List α} {g : α → List γ} {g' : α → List δ}
    (h : ∀ a ∈ xs, Alike loose S (g a) (g' a)) : Alike loose S (xs.flatMap g) (xs.flatMap g') := by
  rw [List.flatMap_def, List.flatMap_def]
  exact alike_flatten (forall₂_map h)

/-- What answering elements give at their positions is alike. -/
theorem alike_flatten_mapIdx {xs : List α} {ys : List β} (h : List.Forall₂ R xs ys)
    {g : Nat → α → List γ} {g' : Nat → β → List δ}
    (hg : ∀ i a b, R a b → Alike loose S (g i a) (g' i b)) :
    Alike loose S (xs.mapIdx g).flatten (ys.mapIdx g').flatten := by
  induction h generalizing g g' with
  | nil => exact alike_nil
  | cons hfirst _ ih =>
    rw [List.mapIdx_cons, List.mapIdx_cons, List.flatten_cons, List.flatten_cons]
    exact (hg 0 _ _ hfirst).append (ih fun i => hg (i + 1))

end Lists

/-! ## Likenesses -/

/-- Whether two values are of one kind and answer to each other part by part. -/
inductive Matches (loose : Bool) (values : Json → Json → Prop) : Json → Json → Prop
  | scalar {value : Json} (harray : ∀ items, value ≠ .array items)
      (hobject : ∀ members, value ≠ .object members) : Matches loose values value value
  | array {items items' : List Json} (h : List.Forall₂ values items items') :
      Matches loose values (.array items) (.array items')
  | object {members members' : List (String × Json)}
      (h : Alike loose (fun a b => a.1 = b.1 ∧ values a.2 b.2) members members') :
      Matches loose values (.object members) (.object members')

/-- A value answers to itself part by part when every value answers to itself. -/
theorem matches_self {values : Json → Json → Prop} (h : ∀ value, values value value) (loose : Bool)
    (value : Json) : Matches loose values value value := by
  cases value with
  | null | bool | number | string => exact .scalar nofun nofun
  | array items => exact .array (List.forall₂_same.mpr fun item _ => h item)
  | object members =>
    exact .object (alike_of_forall₂ (List.forall₂_same.mpr fun member _ => ⟨rfl, h member.2⟩))

/-- Which frames, values and failures of two validations answer to each other, and which reports on a
member name do. -/
structure Likeness where
  /-- Whether the order of members and of failures does not count. -/
  loose : Bool
  frames : Frame → Frame → Prop
  values : Json → Json → Prop
  failures : Failure → Failure → Prop
  nameReports : List Failure → List Failure → Prop
  child {frame frame' : Frame} (h : frames frame frame') (segment : String) :
    frames (frame.child segment) (frame'.child segment)
  kind {value value' : Json} (h : values value value') : Matches loose values value value'
  equal_left {value value' : Json} (h : values value value') (other : Json) :
    value.equal other = value'.equal other
  equal_right {value value' : Json} (h : values value value') (other : Json) :
    other.equal value = other.equal value'
  isStructural {failure failure' : Failure} (h : failures failure failure') :
    failure.isStructural = failure'.isStructural
  own {frame frame' : Frame} (h : frames frame frame') (cause : Cause) (hnested : cause.nested = []) :
    failures (frame.failure cause) (frame'.failure cause)
  wrongType {frame frame' : Frame} (h : frames frame frame') (expected : TypeRule)
    {value value' : Json} (hvalues : values value value') :
    failures (frame.failure (.wrongType expected value)) (frame'.failure (.wrongType expected value'))
  repeatedItem {frame frame' : Frame} (h : frames frame frame') {value value' : Json}
    (hvalues : values value value') :
    failures (frame.failure (.repeatedItem value)) (frame'.failure (.repeatedItem value'))
  noBranch {frame frame' : Frame} (h : frames frame frame') {inner inner' : List Failure}
    (hinner : Alike loose failures inner inner') :
    failures (frame.failure (.noBranch inner)) (frame'.failure (.noBranch inner'))
  isEmpty_eq {inner inner' : List Failure} (h : nameReports inner inner') :
    inner.isEmpty = inner'.isEmpty
  invalidPropertyName {frame frame' : Frame} (h : frames frame frame') (name : String)
    {inner inner' : List Failure} (hinner : nameReports inner inner') :
    failures (frame.failure (.invalidPropertyName name inner))
      (frame'.failure (.invalidPropertyName name inner'))

namespace Likeness

variable (L : Likeness)

/-- Whether two lists of failures are alike. -/
def Reports (failures failures' : List Failure) : Prop := Alike L.loose L.failures failures failures'

/-- Whether the members of two objects answer to each other. -/
def Members (members members' : List (String × Json)) : Prop :=
  Alike L.loose (fun a b => a.1 = b.1 ∧ L.values a.2 b.2) members members'

/-- Whether two visits report alike on some schemas, for values and for member names. -/
structure Visits {α : Type} (schemas : List α) (visit visit' : Visit α) : Prop where
  reports : ∀ schema ∈ schemas, ∀ {frame frame' : Frame} {value value' : Json},
    L.frames frame frame' → L.values value value' →
      L.Reports (visit frame schema value) (visit' frame' schema value')
  nameReports : ∀ schema ∈ schemas, ∀ {frame frame' : Frame}, L.frames frame frame' →
    ∀ name, L.nameReports (visit frame.memberName schema (.string name))
      (visit' frame'.memberName schema (.string name))

variable {L}

/-- Visits that report alike on some schemas do so on fewer. -/
theorem Visits.mono {α : Type} {schemas schemas' : List α} {visit visit' : Visit α}
    (h : L.Visits schemas visit visit') (hsubset : schemas' ⊆ schemas) :
    L.Visits schemas' visit visit' where
  reports schema hschema := h.reports schema (hsubset hschema)
  nameReports schema hschema := h.nameReports schema (hsubset hschema)

/-- The failures that are never dropped are alike. -/
theorem Reports.structural {failures failures' : List Failure} (h : L.Reports failures failures') :
    L.Reports (structural failures) (structural failures') :=
  h.filter fun _ _ => L.isStructural

/-- The failures that tell about the value are alike. -/
theorem Reports.ordinary {failures failures' : List Failure} (h : L.Reports failures failures') :
    L.Reports (ordinary failures) (ordinary failures') :=
  h.filter fun _ _ hfailures => congrArg Bool.not (L.isStructural hfailures)

/-- One failure of a visit answers to the same one of the other. -/
theorem reports_own {frame frame' : Frame} (h : L.frames frame frame') (cause : Cause)
    (hnested : cause.nested = [] := by rfl) :
    L.Reports [frame.failure cause] [frame'.failure cause] :=
  alike_singleton (L.own h cause hnested)

/-- The same failures of two visits are alike. -/
theorem reports_map_own {frame frame' : Frame} (h : L.frames frame frame') {causes : List Cause}
    (hnested : ∀ cause ∈ causes, cause.nested = []) :
    L.Reports (causes.map frame.failure) (causes.map frame'.failure) :=
  alike_of_forall₂ (forall₂_map fun cause hcause => L.own h cause (hnested cause hcause))

/-- The same broken rule of two visits is alike. -/
theorem reports_brokenBy {ρ : Type} {frame frame' : Frame} (h : L.frames frame frame')
    (rule? : Option ρ) (broken : ρ → Bool) {cause : ρ → Cause}
    (hnested : ∀ rule, (cause rule).nested = []) :
    L.Reports ((brokenBy rule? broken cause).map frame.failure)
      ((brokenBy rule? broken cause).map frame'.failure) := by
  refine reports_map_own h fun c hc => ?_
  obtain ⟨rule, -, -, rfl⟩ := mem_brokenBy.mp hc
  exact hnested rule

/-- What answering members give is alike. -/
theorem Members.flatMap {members members' : List (String × Json)} (h : L.Members members members')
    {report report' : String × Json → List Failure} (hreport : ∀ name value value',
      L.values value value' → L.Reports (report (name, value)) (report' (name, value'))) :
    L.Reports (members.flatMap report) (members'.flatMap report') := by
  refine Alike.flatMap h fun member member' ⟨hname, hvalues⟩ => ?_
  obtain ⟨name, value⟩ := member
  obtain ⟨_, value'⟩ := member'
  cases hname
  exact hreport name value value' hvalues

/-- The same members are missing. -/
theorem isNone_lookup_eq {members members' : List (String × Json)}
    (h : L.Members members members') (name : String) :
    (members.lookup name).isNone = (members'.lookup name).isNone := by
  obtain ⟨others, hrelated, hshuffled⟩ := h
  have hnames : members.map Prod.fst = others.map Prod.fst :=
    List.forall₂_eq_eq_eq ▸ List.forall₂_map_left_iff.mpr
      (List.forall₂_map_right_iff.mpr (hrelated.imp fun _ _ hpair => hpair.1))
  have hperm : (members.map Prod.fst).Perm (members'.map Prod.fst) :=
    hnames ▸ hshuffled.perm.map Prod.fst
  have hnone (ms : List (String × Json)) :
      (ms.lookup name).isNone = true ↔ name ∉ ms.map Prod.fst := by
    rw [Option.isNone_iff_eq_none, List.lookup_eq_none_iff]
    constructor
    · intro h hmem
      obtain ⟨member, hmember, rfl⟩ := List.mem_map.mp hmem
      exact bne_iff_ne.mp (h member hmember) rfl
    · intro h member hmember
      exact bne_iff_ne.mpr fun hname => h (hname ▸ List.mem_map_of_mem hmember)
  rw [Bool.eq_iff_iff, hnone, hnone, hperm.mem_iff]

/-- Branches that report alike accept in the same places. -/
theorem map_isEmpty_eq {branches branches' : List (List Failure)}
    (h : List.Forall₂ L.Reports branches branches') :
    branches.map List.isEmpty = branches'.map List.isEmpty := by
  rw [← List.forall₂_eq_eq_eq, List.forall₂_map_left_iff, List.forall₂_map_right_iff]
  exact h.imp fun _ _ hreports => hreports.isEmpty_eq

/-- Of branches that report alike, some accept on both sides or on neither. -/
theorem any_isEmpty_eq {branches branches' : List (List Failure)}
    (h : List.Forall₂ L.Reports branches branches') :
    branches.any List.isEmpty = branches'.any List.isEmpty := by
  have hany (bs : List (List Failure)) : bs.any List.isEmpty = (bs.map List.isEmpty).any id := by
    rw [List.any_map, Function.id_comp]
  rw [hany, hany, map_isEmpty_eq h]

/-- Of branches that report alike, equally many accept. -/
theorem countP_isEmpty_eq {branches branches' : List (List Failure)}
    (h : List.Forall₂ L.Reports branches branches') :
    branches.countP List.isEmpty = branches'.countP List.isEmpty := by
  have hcount (bs : List (List Failure)) :
      bs.countP List.isEmpty = (bs.map List.isEmpty).countP id := by
    rw [List.countP_map, Function.id_comp]
  rw [hcount, hcount, map_isEmpty_eq h]

end Likeness

namespace ObjectSchema

variable {L : Likeness} {α : Type} {visit visit' : Visit α} {frame frame' : Frame}
  {o : ObjectSchema α} {value value' : Json}

/-! ## Keywords without sub-schemas -/

/-- Values that are alike have the same types. -/
theorem accepts_eq (h : L.values value value') (rule : TypeRule) :
    rule.accepts value = rule.accepts value' := by
  have htype (type : SimpleType) : type.accepts value = type.accepts value' := by
    cases L.kind h with
    | scalar => rfl
    | array | object => cases type <;> rfl
  cases rule with
  | any => rfl
  | single type => exact htype type
  | nullable type => simp only [TypeRule.accepts, htype]
  | union types => simp only [TypeRule.accepts, htype]

/-- Failures of the type are alike. -/
theorem typeFailures_like (hframes : L.frames frame frame') (hvalues : L.values value value') :
    L.Reports (o.typeFailures frame value) (o.typeFailures frame' value') := by
  rw [typeFailures, typeFailures, accepts_eq hvalues]
  split
  · exact alike_nil
  · exact alike_singleton (L.wrongType hframes o.type hvalues)

/-- Failures of the enumeration are alike. -/
theorem enumFailures_like (hframes : L.frames frame frame') (hvalues : L.values value value') :
    L.Reports (o.enumFailures frame value) (o.enumFailures frame' value') := by
  rw [enumFailures.eq_def, enumFailures.eq_def]
  cases o.enum with
  | none => exact alike_nil
  | some allowed =>
    have hany : (allowed.any fun candidate => candidate.equal value) =
        allowed.any fun candidate => candidate.equal value' :=
      List.any_congr rfl (L.equal_right hvalues)
    dsimp only
    rw [hany]
    split
    · exact alike_nil
    · exact Likeness.reports_own hframes _

/-- Failures of the constant are alike. -/
theorem constFailures_like (hframes : L.frames frame frame') (hvalues : L.values value value') :
    L.Reports (o.constFailures frame value) (o.constFailures frame' value') := by
  rw [constFailures.eq_def, constFailures.eq_def]
  cases o.const with
  | none => exact alike_nil
  | some expected =>
    dsimp only
    rw [L.equal_right hvalues expected]
    split
    · exact alike_nil
    · exact Likeness.reports_own hframes _

/-- Lists that answer to each other repeat answering elements first. -/
theorem firstDuplicate?_like {items items' : List Json} (h : List.Forall₂ L.values items items') :
    Option.Rel L.values (Json.firstDuplicate? items) (Json.firstDuplicate? items') := by
  induction h with
  | nil => exact .none
  | @cons item item' rest rest' hitem hrest ih =>
    have hany : rest.any item.equal = rest'.any item'.equal := by
      clear ih
      induction hrest with
      | nil => rfl
      | cons hother _ ih =>
        rw [List.any_cons, List.any_cons, ih, L.equal_left hitem, L.equal_right hother]
    rw [Json.firstDuplicate?, Json.firstDuplicate?, hany]
    split
    · exact .some hitem
    · exact ih

/-- Failures of the rules for one kind of value are alike. -/
theorem facetFailures_like (hframes : L.frames frame frame') (hvalues : L.values value value') :
    L.Reports (o.facetFailures frame value) (o.facetFailures frame' value') := by
  rw [facetFailures, facetFailures]
  cases L.kind hvalues with
  | scalar =>
    exact Likeness.reports_map_own hframes fun cause hcause =>
      (o.isAbout_of_mem_brokenFacets hcause).1
  | @array items items' h =>
    simp only [brokenFacets, ArrayRules.broken, h.length_eq, List.map_append]
    refine ((Likeness.reports_brokenBy hframes _ _ fun _ => rfl).append
      (Likeness.reports_brokenBy hframes _ _ fun _ => rfl)).append ?_
    split
    · have hrepeated := firstDuplicate?_like h
      generalize Json.firstDuplicate? items = first, Json.firstDuplicate? items' = first'
        at hrepeated ⊢
      cases hrepeated with
      | none => exact alike_nil
      | some hitem => exact alike_singleton (L.repeatedItem hframes hitem)
    · exact alike_nil
  | @object members members' h =>
    simp only [brokenFacets, ObjectRules.broken, h.length_eq, List.map_append]
    exact (Likeness.reports_brokenBy hframes _ _ fun _ => rfl).append
      (Likeness.reports_brokenBy hframes _ _ fun _ => rfl)

/-! ## Keywords for arrays -/

/-- Failures of elements are alike. -/
theorem itemFailures_like (h : L.Visits o.toList visit visit') (hframes : L.frames frame frame')
    {items items' : List Json} (hitems : List.Forall₂ L.values items items') :
    L.Reports (o.itemFailures visit frame items) (o.itemFailures visit' frame' items') := by
  refine alike_flatten_mapIdx hitems fun i item item' hitem => ?_
  cases hschema : o.itemSchema? i with
  | none => exact alike_nil
  | some schema =>
    exact h.reports schema (o.mem_toList_of_itemSchema? hschema) (L.child hframes _) hitem

/-- Searches for an element that a schema accepts are alike. -/
theorem searchItems_like {schema : α} (h : L.Visits [schema] visit visit')
    (hframes : L.frames frame frame') {items items' : List Json}
    (hitems : List.Forall₂ L.values items items') (position : Nat) :
    L.Reports (searchItems visit frame schema position items)
      (searchItems visit' frame' schema position items') := by
  induction hitems generalizing position with
  | nil => exact Likeness.reports_own hframes _
  | cons hitem _ ih =>
    have hfirst := h.reports schema (List.mem_singleton_self _)
      (L.child hframes (toString position)) hitem
    rw [searchItems, searchItems, hfirst.isEmpty_eq]
    split
    · exact alike_nil
    · exact hfirst.structural.append (ih (position + 1))

/-- Failures to contain an element are alike. -/
theorem containsFailures_like (h : L.Visits o.toList visit visit')
    (hframes : L.frames frame frame') {items items' : List Json}
    (hitems : List.Forall₂ L.values items items') :
    L.Reports (o.containsFailures visit frame items) (o.containsFailures visit' frame' items') := by
  rw [containsFailures.eq_def, containsFailures.eq_def]
  cases hcontains : o.contains with
  | none => exact alike_nil
  | some schema =>
    exact searchItems_like (h.mono (by simp [toList, hcontains])) hframes hitems 0

/-! ## Keywords for objects -/

variable {members members' : List (String × Json)}

/-- Failures of members that are not there are alike. -/
theorem missingFailures_like (hframes : L.frames frame frame') (hmembers : L.Members members members')
    (names : List String) :
    L.Reports (missingFailures frame members names) (missingFailures frame' members' names) := by
  rw [missingFailures, missingFailures]
  simp only [Likeness.isNone_lookup_eq hmembers]
  exact alike_of_forall₂ (forall₂_map fun name _ => L.own (L.child hframes name) _ rfl)

/-- Failures of members that have a schema of their own are alike. -/
theorem propertyFailures_like (h : L.Visits o.toList visit visit')
    (hframes : L.frames frame frame') (hmembers : L.Members members members') :
    L.Reports (o.propertyFailures visit frame members)
      (o.propertyFailures visit' frame' members') := by
  refine hmembers.flatMap fun name value value' hvalues => ?_
  dsimp only
  cases hschema : (o.properties.getD []).lookup name with
  | none => exact alike_nil
  | some schema =>
    obtain ⟨before, after, hentries, _⟩ := List.lookup_eq_some_iff.mp hschema
    exact h.reports schema (by simp [toList, hentries]) (L.child hframes name) hvalues

/-- Failures of members whose names match patterns are alike. -/
theorem patternFailures_like (h : L.Visits o.toList visit visit')
    (hframes : L.frames frame frame') (hmembers : L.Members members members') :
    L.Reports (o.patternFailures visit frame members)
      (o.patternFailures visit' frame' members') := by
  refine hmembers.flatMap fun name value value' hvalues => ?_
  exact alike_flatMap fun schema hschema =>
    h.reports schema (o.mem_toList_of_mem_patternSchemas hschema) (L.child hframes name) hvalues

/-- Failures of additional members are alike. -/
theorem additionalFailures_like (h : L.Visits o.toList visit visit')
    (hframes : L.frames frame frame') (hmembers : L.Members members members') :
    L.Reports (o.additionalFailures visit frame members)
      (o.additionalFailures visit' frame' members') := by
  rw [additionalFailures.eq_def, additionalFailures.eq_def]
  cases hschema : o.additionalProperties with
  | none => exact alike_nil
  | some schema =>
    refine hmembers.flatMap fun name value value' hvalues => ?_
    dsimp only
    split
    · exact h.reports schema (by simp [toList, hschema]) (L.child hframes name) hvalues
    · exact alike_nil

/-- Failures of what members demand of the whole object are alike. -/
theorem dependencyFailures_like (h : L.Visits o.toList visit visit')
    (hframes : L.frames frame frame') (hvalues : L.values (.object members) (.object members'))
    (hmembers : L.Members members members') :
    L.Reports (o.dependencyFailures visit frame members)
      (o.dependencyFailures visit' frame' members') := by
  refine alike_flatMap fun entry hentry => ?_
  obtain ⟨trigger, dependency⟩ := entry
  dsimp only
  rw [Likeness.isNone_lookup_eq hmembers]
  split
  · exact alike_nil
  · cases dependency with
    | names required => exact missingFailures_like hframes hmembers required
    | schema schema =>
      exact h.reports schema (o.mem_toList_of_mem_dependencies hentry) hframes hvalues

/-- Failures of member names are alike. -/
theorem nameFailures_like (h : L.Visits o.toList visit visit')
    (hframes : L.frames frame frame') (hmembers : L.Members members members') :
    L.Reports (o.nameFailures visit frame members) (o.nameFailures visit' frame' members') := by
  rw [nameFailures.eq_def, nameFailures.eq_def]
  cases hschema : o.propertyNames with
  | none => exact alike_nil
  | some schema =>
    refine hmembers.flatMap fun name value value' _ => ?_
    have hreports := h.nameReports schema (by simp [toList, hschema]) hframes name
    dsimp only
    rw [L.isEmpty_eq hreports]
    split
    · exact alike_nil
    · exact alike_singleton (L.invalidPropertyName hframes name hreports)

/-! ## Keywords that combine schemas -/

/-- What the branches of a keyword report is alike, branch by branch. -/
theorem branches_like {schemas : List α} (h : L.Visits schemas visit visit')
    (hframes : L.frames frame frame') (hvalues : L.values value value') :
    List.Forall₂ L.Reports (schemas.map fun schema => visit frame schema value)
      (schemas.map fun schema => visit' frame' schema value') :=
  forall₂_map fun schema hschema => h.reports schema hschema hframes hvalues

/-- Failures of schemas that must all accept the value are alike. -/
theorem allOfFailures_like (h : L.Visits o.toList visit visit') (hframes : L.frames frame frame')
    (hvalues : L.values value value') :
    L.Reports (o.allOfFailures visit frame value) (o.allOfFailures visit' frame' value') :=
  alike_flatMap fun schema hschema =>
    h.reports schema (by simp [toList, hschema]) hframes hvalues

/-- Failures of schemas one of which must accept the value are alike. -/
theorem anyOfFailures_like (h : L.Visits o.toList visit visit') (hframes : L.frames frame frame')
    (hvalues : L.values value value') :
    L.Reports (o.anyOfFailures visit frame value) (o.anyOfFailures visit' frame' value') := by
  have hschemas : L.Visits (o.anyOf.getD []) visit visit' :=
    h.mono fun schema hschema => by simp [toList, hschema]
  have hbranches := branches_like hschemas hframes hvalues
  have hflat : L.Reports _ _ := alike_flatten hbranches
  rw [anyOfFailures, anyOfFailures, Likeness.any_isEmpty_eq hbranches]
  split
  · exact hflat.structural
  · exact hflat

/-- Failures of schemas exactly one of which must accept the value are alike. -/
theorem oneOfFailures_like (h : L.Visits o.toList visit visit') (hframes : L.frames frame frame')
    (hvalues : L.values value value') :
    L.Reports (o.oneOfFailures visit frame value) (o.oneOfFailures visit' frame' value') := by
  rw [oneOfFailures.eq_def, oneOfFailures.eq_def]
  cases hschemas : o.oneOf with
  | none => exact alike_nil
  | some schemas =>
    have hlisted : L.Visits schemas visit visit' :=
      h.mono fun schema hschema => by simp [toList, hschemas, hschema]
    have hbranches := branches_like hlisted hframes hvalues
    have hflat : L.Reports _ _ := alike_flatten hbranches
    dsimp only
    rw [Likeness.countP_isEmpty_eq hbranches]
    refine hflat.structural.append ?_
    split
    · exact alike_singleton (L.noBranch hframes hflat.ordinary)
    · exact alike_nil
    · exact Likeness.reports_own hframes _

/-- Failures of a schema that must not accept the value are alike. -/
theorem notFailures_like (h : L.Visits o.toList visit visit') (hframes : L.frames frame frame')
    (hvalues : L.values value value') :
    L.Reports (o.notFailures visit frame value) (o.notFailures visit' frame' value') := by
  rw [notFailures.eq_def, notFailures.eq_def]
  cases hschema : o.not with
  | none => exact alike_nil
  | some schema =>
    have hreports := h.reports schema (by simp [toList, hschema]) hframes hvalues
    dsimp only
    rw [hreports.isEmpty_eq]
    split
    · exact Likeness.reports_own hframes _
    · exact hreports.structural

/-! ## All keywords -/

/-- Failures of the keywords for one kind of value are alike. -/
theorem kindFailures_like (h : L.Visits o.toList visit visit') (hframes : L.frames frame frame')
    (hvalues : L.values value value') :
    L.Reports (o.kindFailures visit frame value) (o.kindFailures visit' frame' value') := by
  have hfacets : L.Reports (o.facetFailures frame value) (o.facetFailures frame' value') :=
    facetFailures_like hframes hvalues
  cases L.kind hvalues with
  | scalar harray hobject =>
    cases value with
    | null | bool | number | string => exact hfacets
    | array items => exact absurd rfl (harray items)
    | object members => exact absurd rfl (hobject members)
  | array hitems =>
    exact ((itemFailures_like h hframes hitems).append hfacets).append
      (containsFailures_like h hframes hitems)
  | object hmembers =>
    exact (((((hfacets.append (missingFailures_like hframes hmembers _)).append
      (propertyFailures_like h hframes hmembers)).append
      (patternFailures_like h hframes hmembers)).append
      (additionalFailures_like h hframes hmembers)).append
      (dependencyFailures_like h hframes hvalues hmembers)).append
      (nameFailures_like h hframes hmembers)

/-- Failures of all keywords are alike when those of the sub-schemas are. -/
theorem failures_like (h : L.Visits o.toList visit visit') (hframes : L.frames frame frame')
    (hvalues : L.values value value') :
    L.Reports (o.failures visit frame value) (o.failures visit' frame' value') :=
  (((((((typeFailures_like hframes hvalues).append (enumFailures_like hframes hvalues)).append
    (constFailures_like hframes hvalues)).append (kindFailures_like h hframes hvalues)).append
    (allOfFailures_like h hframes hvalues)).append (anyOfFailures_like h hframes hvalues)).append
    (oneOfFailures_like h hframes hvalues)).append (notFailures_like h hframes hvalues)

end ObjectSchema

end Draft6
