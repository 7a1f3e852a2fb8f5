import Draft6.Proofs.MemberOrder
import Draft6.Proofs.Rearranging

/-!
# What rearranged schema objects report

Two rearranged schema objects report the same on a value as far as pointers and kinds of causes are
concerned, in some order, when their sub-schemas do. There is one lemma for each keyword that has
sub-schemas or values of its own. The other keywords are the same on both sides.
-/

namespace Draft6

/-- Whether two visits report on a value with the same outlines, in some order, for schemas that answer to
each other. -/
def ReportAlike {α β : Type} (R : α → β → Prop) (visit : Visit α) (visit' : Visit β) : Prop :=
  ∀ frame schema schema' value, R schema schema' →
    Likeness.reordering.Reports (visit frame schema value) (visit' frame schema' value)

/-- Equal reports have the same outlines. -/
theorem Likeness.reports_refl (failures : List Failure) :
    Likeness.reordering.Reports failures failures :=
  alike_of_forall₂ (List.forall₂_same.mpr fun _ _ => ⟨rfl, rfl⟩)

/-- One failure at a time, causes of one kind have the same outline. -/
theorem Likeness.reports_singleton (frame : Frame) {cause cause' : Cause}
    (hkind : cause.ctorIdx = cause'.ctorIdx) (hstructural : cause.isStructural = cause'.isStructural) :
    Likeness.reordering.Reports [frame.failure cause] [frame.failure cause'] :=
  alike_singleton ⟨congrArg (Prod.mk frame.pointer) hkind, hstructural⟩

namespace ObjectSchema

variable {α β : Type} {R : α → β → Prop} {visit : Visit α} {visit' : Visit β} {o : ObjectSchema α}
  {o' : ObjectSchema β} {frame : Frame} {value : Json}

/-! ## Keywords for every value -/

/-- Enumerations whose values have their members in another order report alike. -/
theorem enumFailures_rearranged (h : Rearranged R o o') :
    Likeness.reordering.Reports (o.enumFailures frame value) (o'.enumFailures frame value) := by
  have henum := h.enum
  rw [enumFailures.eq_def, enumFailures.eq_def]
  generalize o.enum = enum, o'.enum = enum' at henum ⊢
  cases henum with
  | none => exact alike_nil
  | @some allowed allowed' hallowed =>
    have hany : (allowed.any fun candidate => candidate.equal value) =
        allowed'.any fun candidate => candidate.equal value := by
      clear h
      induction hallowed with
      | nil => rfl
      | @cons candidate candidate' _ _ hfirst _ ih =>
        have hequal : candidate.equal value = candidate'.equal value := hfirst.equalBy_left value
        rw [List.any_cons, List.any_cons, ih, hequal]
    dsimp only
    rw [hany]
    split
    · exact alike_nil
    · exact Likeness.reports_singleton frame rfl rfl

/-- Constants that have their members in another order report alike. -/
theorem constFailures_rearranged (h : Rearranged R o o') :
    Likeness.reordering.Reports (o.constFailures frame value) (o'.constFailures frame value) := by
  have hconst := h.const
  rw [constFailures.eq_def, constFailures.eq_def]
  generalize o.const = const, o'.const = const' at hconst ⊢
  cases hconst with
  | none => exact alike_nil
  | @some expected expected' hexpected =>
    have hequal : expected.equal value = expected'.equal value := hexpected.equalBy_left value
    dsimp only
    rw [hequal]
    split
    · exact alike_nil
    · exact Likeness.reports_singleton frame rfl rfl

/-- The rules for one kind of value are the same. -/
theorem Rearranged.facetFailures_eq (h : Rearranged R o o') :
    o.facetFailures frame value = o'.facetFailures frame value := by
  rw [facetFailures, facetFailures]
  cases value <;> simp only [brokenFacets, h.numbers, h.strings, h.arrays, h.objects]

/-! ## Keywords for arrays -/

/-- The schemas for an element answer to each other. -/
theorem Rearranged.itemSchema? (h : Rearranged R o o') (position : Nat) :
    Option.Rel R (o.itemSchema? position) (o'.itemSchema? position) := by
  have hitems := h.items
  rw [ObjectSchema.itemSchema?, ObjectSchema.itemSchema?]
  generalize o.items = items, o'.items = items' at hitems ⊢
  cases hitems with
  | none => exact .none
  | some hitems =>
    cases hitems with
    | all hs => exact .some hs
    | @each schemas schemas' hs =>
      dsimp only
      by_cases hposition : position < schemas.length
      · have hposition' : position < schemas'.length := hs.length_eq ▸ hposition
        rw [List.getElem?_eq_getElem hposition, List.getElem?_eq_getElem hposition']
        exact .some (hs.get hposition hposition')
      · rw [List.getElem?_eq_none (not_lt.mp hposition),
          List.getElem?_eq_none (hs.length_eq ▸ not_lt.mp hposition)]
        exact h.additionalItems

/-- Failures of elements have the same outlines. -/
theorem itemFailures_rearranged (h : Rearranged R o o') (hvisit : ReportAlike R visit visit')
    (items : List Json) : Likeness.reordering.Reports (o.itemFailures visit frame items)
      (o'.itemFailures visit' frame items) := by
  refine alike_flatten_mapIdx (List.forall₂_same.mpr fun item _ => rfl) fun i item _ hitem => ?_
  obtain rfl := hitem
  have hschema := h.itemSchema? i
  generalize o.itemSchema? i = schema?, o'.itemSchema? i = schema?' at hschema ⊢
  cases hschema with
  | none => exact alike_nil
  | some hs => exact hvisit _ _ _ item hs

/-- Searches for an element that a schema accepts have the same outlines. -/
theorem searchItems_rearranged (hvisit : ReportAlike R visit visit') {schema : α} {schema' : β}
    (hschema : R schema schema') (position : Nat) (items : List Json) :
    Likeness.reordering.Reports (searchItems visit frame schema position items)
      (searchItems visit' frame schema' position items) := by
  induction items generalizing position with
  | nil => exact Likeness.reports_refl _
  | cons item rest ih =>
    have hfirst := hvisit (frame.child (toString position)) schema schema' item hschema
    rw [searchItems, searchItems, hfirst.isEmpty_eq]
    split
    · exact alike_nil
    · exact hfirst.structural.append (ih (position + 1))

/-- Failures to contain an element have the same outlines. -/
theorem containsFailures_rearranged (h : Rearranged R o o') (hvisit : ReportAlike R visit visit')
    (items : List Json) : Likeness.reordering.Reports (o.containsFailures visit frame items)
      (o'.containsFailures visit' frame items) := by
  have hcontains := h.contains
  rw [containsFailures.eq_def, containsFailures.eq_def]
  generalize o.contains = contains, o'.contains = contains' at hcontains ⊢
  cases hcontains with
  | none => exact alike_nil
  | some hs => exact searchItems_rearranged hvisit hs 0 items

/-! ## Keywords for objects -/

variable {members : List (String × Json)}

/-- Failures of members that have a schema of their own have the same outlines. -/
theorem propertyFailures_rearranged (h : Rearranged R o o') (hvisit : ReportAlike R visit visit') :
    Likeness.reordering.Reports (o.propertyFailures visit frame members)
      (o'.propertyFailures visit' frame members) := by
  refine alike_flatMap fun member _ => ?_
  have hschema := rel_lookup h.memberNames (alike_getD h.properties) member.1
  dsimp only
  generalize (o.properties.getD []).lookup member.1 = schema?,
    (o'.properties.getD []).lookup member.1 = schema?' at hschema ⊢
  cases hschema with
  | none => exact alike_nil
  | some hs => exact hvisit _ _ _ member.2 hs

/-- The schemas of the patterns that a name matches answer to each other, in some order. -/
theorem Rearranged.patternSchemas (h : Rearranged R o o') (name : String) :
    Alike true R (o.patternSchemas name) (o'.patternSchemas name) :=
  ((alike_getD h.patternProperties).filter fun _ _ hpair => by rw [hpair.1]).map
    fun _ _ hpair => hpair.2

/-- Failures of members whose names match patterns have the same outlines. -/
theorem patternFailures_rearranged (h : Rearranged R o o') (hvisit : ReportAlike R visit visit') :
    Likeness.reordering.Reports (o.patternFailures visit frame members)
      (o'.patternFailures visit' frame members) :=
  alike_flatMap fun member _ => (h.patternSchemas member.1).flatMap fun _ _ hs =>
    hvisit _ _ _ member.2 hs

/-- The same members are additional. -/
theorem Rearranged.isAdditional_eq (h : Rearranged R o o') (name : String) :
    o.isAdditional name = o'.isAdditional name := by
  rw [isAdditional, isAdditional, (h.patternSchemas name).isEmpty_eq,
    isNone_eq_of_rel (rel_lookup h.memberNames (alike_getD h.properties) name)]

/-- Failures of additional members have the same outlines. -/
theorem additionalFailures_rearranged (h : Rearranged R o o') (hvisit : ReportAlike R visit visit') :
    Likeness.reordering.Reports (o.additionalFailures visit frame members)
      (o'.additionalFailures visit' frame members) := by
  have hschema := h.additionalProperties
  rw [additionalFailures.eq_def, additionalFailures.eq_def]
  generalize o.additionalProperties = schema?, o'.additionalProperties = schema?' at hschema ⊢
  cases hschema with
  | none => exact alike_nil
  | some hs =>
    refine alike_flatMap fun member _ => ?_
    dsimp only
    rw [h.isAdditional_eq]
    split
    · exact hvisit _ _ _ member.2 hs
    · exact alike_nil

/-- Failures of what members demand of the whole object have the same outlines. -/
theorem dependencyFailures_rearranged (h : Rearranged R o o') (hvisit : ReportAlike R visit visit') :
    Likeness.reordering.Reports (o.dependencyFailures visit frame members)
      (o'.dependencyFailures visit' frame members) := by
  refine (alike_getD h.dependencies).flatMap fun entry entry' hpair => ?_
  obtain ⟨trigger, dependency⟩ := entry
  obtain ⟨_, dependency'⟩ := entry'
  obtain ⟨rfl, hdependency⟩ := hpair
  dsimp only
  split
  · exact alike_nil
  · cases hdependency with
    | names required => exact Likeness.reports_refl _
    | schema hs => exact hvisit _ _ _ _ hs

/-- Failures of member names have the same outlines. -/
theorem nameFailures_rearranged (h : Rearranged R o o') (hvisit : ReportAlike R visit visit') :
    Likeness.reordering.Reports (o.nameFailures visit frame members)
      (o'.nameFailures visit' frame members) := by
  have hschema := h.propertyNames
  rw [nameFailures.eq_def, nameFailures.eq_def]
  generalize o.propertyNames = schema?, o'.propertyNames = schema?' at hschema ⊢
  cases hschema with
  | none => exact alike_nil
  | some hs =>
    refine alike_flatMap fun member _ => ?_
    have hname := hvisit frame.memberName _ _ (.string member.1) hs
    dsimp only
    rw [hname.isEmpty_eq]
    split
    · exact alike_nil
    · exact Likeness.reports_singleton frame rfl rfl

/-! ## Keywords that combine schemas -/

/-- What answering branches report has the same outlines, branch by branch. -/
theorem branches_rearranged (hvisit : ReportAlike R visit visit') (frame : Frame) (value : Json)
    {schemas : List α} {schemas' : List β} (hschemas : List.Forall₂ R schemas schemas') :
    List.Forall₂ Likeness.reordering.Reports (schemas.map fun schema => visit frame schema value)
      (schemas'.map fun schema => visit' frame schema value) :=
  List.forall₂_map_left_iff.mpr (List.forall₂_map_right_iff.mpr
    (hschemas.imp fun _ _ hs => hvisit frame _ _ value hs))

/-- Failures of schemas that must all accept the value have the same outlines. -/
theorem allOfFailures_rearranged (h : Rearranged R o o') (hvisit : ReportAlike R visit visit') :
    Likeness.reordering.Reports (o.allOfFailures visit frame value)
      (o'.allOfFailures visit' frame value) :=
  alike_flatten (branches_rearranged hvisit frame value (forall₂_getD h.allOf))

/-- Failures of schemas one of which must accept the value have the same outlines. -/
theorem anyOfFailures_rearranged (h : Rearranged R o o') (hvisit : ReportAlike R visit visit') :
    Likeness.reordering.Reports (o.anyOfFailures visit frame value)
      (o'.anyOfFailures visit' frame value) := by
  have hbranches := branches_rearranged hvisit frame value (forall₂_getD h.anyOf)
  have hflat : Likeness.reordering.Reports _ _ := alike_flatten hbranches
  rw [anyOfFailures, anyOfFailures, Likeness.any_isEmpty_eq hbranches]
  split
  · exact hflat.structural
  · exact hflat

/-- Failures of schemas exactly one of which must accept the value have the same outlines. -/
theorem oneOfFailures_rearranged (h : Rearranged R o o') (hvisit : ReportAlike R visit visit') :
    Likeness.reordering.Reports (o.oneOfFailures visit frame value)
      (o'.oneOfFailures visit' frame value) := by
  have hschemas := h.oneOf
  rw [oneOfFailures.eq_def, oneOfFailures.eq_def]
  generalize o.oneOf = schemas?, o'.oneOf = schemas?' at hschemas ⊢
  cases hschemas with
  | none => exact alike_nil
  | some hs =>
    have hbranches := branches_rearranged hvisit frame value hs
    have hflat : Likeness.reordering.Reports _ _ := alike_flatten hbranches
    dsimp only
    rw [Likeness.countP_isEmpty_eq hbranches]
    refine hflat.structural.append ?_
    split
    · exact Likeness.reports_singleton frame rfl rfl
    · exact alike_nil
    · exact Likeness.reports_refl _

/-- Failures of a schema that must not accept the value have the same outlines. -/
theorem notFailures_rearranged (h : Rearranged R o o') (hvisit : ReportAlike R visit visit') :
    Likeness.reordering.Reports (o.notFailures visit frame value)
      (o'.notFailures visit' frame value) := by
  have hschema := h.not
  rw [notFailures.eq_def, notFailures.eq_def]
  generalize o.not = schema?, o'.not = schema?' at hschema ⊢
  cases hschema with
  | none => exact alike_nil
  | some hs =>
    have hreports := hvisit frame _ _ value hs
    dsimp only
    rw [hreports.isEmpty_eq]
    split
    · exact Likeness.reports_refl _
    · exact hreports.structural

/-! ## All keywords -/

/-- Failures of the keywords for one kind of value have the same outlines. -/
theorem kindFailures_rearranged (h : Rearranged R o o') (hvisit : ReportAlike R visit visit') :
    Likeness.reordering.Reports (o.kindFailures visit frame value)
      (o'.kindFailures visit' frame value) := by
  have hfacets : Likeness.reordering.Reports (o.facetFailures frame value)
      (o'.facetFailures frame value) := h.facetFailures_eq ▸ Likeness.reports_refl _
  cases value with
  | null | bool | number | string => exact hfacets
  | array items =>
    exact ((itemFailures_rearranged h hvisit items).append hfacets).append
      (containsFailures_rearranged h hvisit items)
  | object members =>
    have hrequired : Likeness.reordering.Reports (o.requiredFailures frame members)
        (o'.requiredFailures frame members) := by
      rw [requiredFailures, requiredFailures, h.objects]
      exact Likeness.reports_refl _
    exact (((((hfacets.append hrequired).append (propertyFailures_rearranged h hvisit)).append
      (patternFailures_rearranged h hvisit)).append (additionalFailures_rearranged h hvisit)).append
      (dependencyFailures_rearranged h hvisit)).append (nameFailures_rearranged h hvisit)

/-- Failures of all keywords have the same outlines when those of the sub-schemas have. -/
theorem failures_rearranged (h : Rearranged R o o') (hvisit : ReportAlike R visit visit') :
    Likeness.reordering.Reports (o.failures visit frame value) (o'.failures visit' frame value) := by
  have htype : Likeness.reordering.Reports (o.typeFailures frame value)
      (o'.typeFailures frame value) := by
    rw [typeFailures, typeFailures, h.type]
    exact Likeness.reports_refl _
  exact ((((((htype.append (enumFailures_rearranged h)).append (constFailures_rearranged h)).append
    (kindFailures_rearranged h hvisit)).append (allOfFailures_rearranged h hvisit)).append
    (anyOfFailures_rearranged h hvisit)).append (oneOfFailures_rearranged h hvisit)).append
    (notFailures_rearranged h hvisit)

end ObjectSchema

end Draft6
