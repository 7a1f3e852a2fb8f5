import Draft6.Proofs.Verdict

/-!
# What acceptance tells

A schema object that reports nothing holds of the value, in the sense that its sub-schemas hold where
they were asked and reported nothing. This needs no verdicts and no walk without obstacles, but it says
nothing about `oneOf` and `not`, which also count on schemas that do not hold.

A node that accepts a value within some levels passes this on to its target or to its sub-schemas, which
accept with one level less.
-/

namespace Draft6

namespace ObjectSchema

variable {α : Type} {visit : Visit α} {holds : α → Json → Prop} (frame : Frame)
  (o : ObjectSchema α)

/-- Whether no keyword counts on schemas that do not hold. -/
structure Positive (o : ObjectSchema α) : Prop where
  oneOf : o.oneOf = none
  not : o.not = none

/-- A search that reports nothing has found an element. -/
theorem exists_call_of_searchItems_eq_nil {schema : α} {position : Nat} {items : List Json}
    (h : searchItems visit frame schema position items = []) :
    ∃ call ∈ searchCalls visit frame schema position items, call.failures visit = [] := by
  induction items generalizing position with
  | nil => cases h
  | cons item rest ih =>
    rw [searchItems] at h
    rw [searchCalls]
    split at h
    · next hitem => exact ⟨_, List.mem_cons_self, List.isEmpty_iff.mp hitem⟩
    · next hitem =>
      obtain ⟨call, hcall, hnone⟩ := ih (List.append_eq_nil_iff.mp h).2
      refine ⟨call, List.mem_cons_of_mem _ ?_, hnone⟩
      rwa [if_neg (by exact hitem)]

/-- Keywords for arrays that report nothing hold of the array. -/
theorem arrayHolds_of_kindFailures_eq_nil {items : List Json}
    (hholds : ∀ call ∈ o.kindCalls visit frame (.array items), call.failures visit = [] →
      holds call.schema call.value)
    (h : o.kindFailures visit frame (.array items) = []) : o.ArrayHolds holds items := by
  simp only [kindCalls, List.forall_mem_append] at hholds
  simp only [kindFailures, List.append_eq_nil_iff, itemFailures_eq, List.flatMap_eq_nil_iff,
    facetFailures, List.map_eq_nil_iff, brokenFacets, ArrayRules.broken_eq_nil_iff] at h
  obtain ⟨⟨hitems, hrules⟩, hcontains⟩ := h
  refine ⟨hrules, fun position item schema hitem hgoverns => ?_, fun schema hschema => ?_⟩
  · have hcall := (o.mem_itemCalls frame).mpr ⟨position, item, schema, hitem,
      (o.itemSchema?_eq_some_iff position schema).mpr hgoverns, rfl⟩
    exact hholds.1 _ hcall (hitems _ hcall)
  · rw [containsFailures.eq_def, Option.mem_def.mp hschema] at hcontains
    obtain ⟨call, hsearch, hnone⟩ := exists_call_of_searchItems_eq_nil frame hcontains
    obtain ⟨_, item, hitem, rfl⟩ := mem_searchCalls visit frame hsearch
    refine ⟨item, hitem, hholds.2 _ ?_ hnone⟩
    exact List.mem_flatMap.mpr ⟨schema, Option.mem_toList.mpr hschema, hsearch⟩

/-- Keywords for objects that report nothing hold of the object. -/
theorem membersHold_of_kindFailures_eq_nil {members : List (String × Json)}
    (hholds : ∀ call ∈ o.kindCalls visit frame (.object members), call.failures visit = [] →
      holds call.schema call.value)
    (h : o.kindFailures visit frame (.object members) = []) : o.MembersHold holds members := by
  simp only [kindCalls, List.forall_mem_append] at hholds
  obtain ⟨⟨⟨⟨hnamed, hmatching⟩, hadditional⟩, hdemanded⟩, hnames⟩ := hholds
  simp only [kindFailures, List.append_eq_nil_iff, propertyFailures_eq, patternFailures_eq,
    additionalFailures_eq, List.flatMap_eq_nil_iff, dependencyFailures_eq_nil_iff,
    nameFailures_eq_nil_iff, missingFailures_eq_nil_iff, lookup_isSome_iff_hasMember] at h
  obtain ⟨⟨⟨⟨⟨hrules, hp⟩, hm⟩, ha⟩, hdemandedNames, hd⟩, hn⟩ := h
  refine ⟨(o.objectRules_iff frame members).mp hrules, fun name part schema hmem hgoverns => ?_,
    hdemandedNames, fun trigger schema hentry hpresent => ?_, ?_⟩
  · cases hgoverns with
    | named hschema =>
      have hcall := (o.mem_propertyCalls frame).mpr ⟨name, part, schema, hmem, hschema, rfl⟩
      exact hnamed _ hcall (hp _ hcall)
    | matching pattern hentry hmatch =>
      have hcall := (o.mem_patternCalls frame).mpr ⟨name, part, schema, hmem,
        (o.mem_patternSchemas name schema).mpr ⟨pattern, hentry, hmatch⟩, rfl⟩
      exact hmatching _ hcall (hm _ hcall)
    | additional hschema hname hmatch =>
      have hcall := (o.mem_additionalCalls frame).mpr ⟨name, part, schema, hmem,
        (o.isAdditional_iff name).mpr ⟨hname, hmatch⟩, hschema, rfl⟩
      exact hadditional _ hcall (ha _ hcall)
  · have hcall := (o.mem_dependencyCalls frame).mpr ⟨trigger, schema, hentry,
      (lookup_isSome_iff_hasMember members trigger).mpr hpresent, rfl⟩
    exact hdemanded _ hcall (hd _ hcall)
  · rintro schema hschema name ⟨part, hmem⟩
    have hcall := (o.mem_nameCalls frame).mpr ⟨name, part, schema, hmem, hschema, rfl⟩
    exact hnames _ hcall (hn _ hcall)

/-- Every schema of a list is asked about the value. -/
theorem mem_listCalls_of_mem (keyword : Keyword) (value : Json) {list : Option (List α)}
    {schemas : List α} (hlist : list = some schemas) {schema : α} (h : schema ∈ schemas) :
    ⟨keyword, frame, schema, value⟩ ∈ listCalls frame keyword list value :=
  (mem_listCalls frame).mpr ⟨schema, by rwa [hlist], rfl⟩

/-- Branches one of which must accept the value report nothing when one of them does. -/
theorem exists_branch_of_anyOfFailures_eq_nil {value : Json} {schemas : List α}
    (hany : o.anyOf = some schemas) (hschemas : schemas ≠ [])
    (h : o.anyOfFailures visit frame value = []) :
    ∃ schema ∈ schemas, visit frame schema value = [] := by
  rw [anyOfFailures, hany] at h
  dsimp only [Option.getD_some] at h
  split at h
  · next hempty =>
    obtain ⟨branch, hbranch, hnil⟩ := List.any_eq_true.mp hempty
    obtain ⟨schema, hschema, rfl⟩ := List.mem_map.mp hbranch
    exact ⟨schema, hschema, List.isEmpty_iff.mp hnil⟩
  · obtain ⟨schema, hschema⟩ := List.exists_mem_of_ne_nil schemas hschemas
    exact ⟨schema, hschema, List.flatten_eq_nil_iff.mp h _ (List.mem_map_of_mem hschema)⟩

/-- A schema object that reports nothing holds of the value, if its sub-schemas hold where its calls
report nothing. -/
theorem Positive.holds_of_failures_eq_nil {o : ObjectSchema α} (hpositive : o.Positive)
    {value : Json}
    (hholds : ∀ call ∈ o.calls visit frame value, call.failures visit = [] →
      holds call.schema call.value)
    (h : o.failures visit frame value = []) : o.Holds holds value := by
  simp only [calls, List.forall_mem_append] at hholds
  obtain ⟨⟨⟨⟨hkindCalls, hallCalls⟩, hanyCalls⟩, _⟩, _⟩ := hholds
  simp only [failures, List.append_eq_nil_iff, typeFailures_eq_nil_iff, enumFailures_eq_nil_iff,
    constFailures_eq_nil_iff, allOfFailures_eq, List.flatMap_eq_nil_iff] at h
  obtain ⟨⟨⟨⟨⟨⟨⟨htype, henum⟩, hconst⟩, hkind⟩, hall⟩, hany⟩, _⟩, _⟩ := h
  refine ⟨htype, henum, hconst, ?_, fun schemas hschemas schema hschema => ?_,
    fun schemas hschemas hne => ?_, fun _ hone => ?_, fun _ hnot => ?_⟩
  · cases value with
    | null | bool => trivial
    | number n => exact (o.numbers.broken_eq_nil_iff n).mp (List.map_eq_nil_iff.mp hkind)
    | string s => exact (o.strings.broken_eq_nil_iff s).mp (List.map_eq_nil_iff.mp hkind)
    | array items => exact o.arrayHolds_of_kindFailures_eq_nil frame hkindCalls hkind
    | object members => exact o.membersHold_of_kindFailures_eq_nil frame hkindCalls hkind
  · have hcall := mem_listCalls_of_mem frame .allOf value hschemas hschema
    exact hallCalls _ hcall (hall _ hcall)
  · obtain ⟨schema, hschema, hnone⟩ :=
      o.exists_branch_of_anyOfFailures_eq_nil frame hschemas hne hany
    exact ⟨schema, hschema, hanyCalls _ (mem_listCalls_of_mem frame .anyOf value hschemas hschema) hnone⟩
  · rw [hpositive.oneOf] at hone
    cases hone
  · rw [hpositive.not] at hnot
    cases hnot

/-- A schema object reports nothing when its calls report nothing and it holds of the value as far as
this does not depend on its sub-schemas. -/
theorem failures_eq_nil_of_calls {value : Json}
    (hcalls : ∀ call ∈ o.calls visit frame value, call.failures visit = [])
    (h : o.Holds (fun _ _ => True) value) : o.failures visit frame value = [] := by
  refine (o.failures_eq_nil_iff_holds frame fun call hcall => ?_).mpr h
  have hnone := hcalls call hcall
  exact ⟨iff_of_true hnone trivial, by rw [hnone]; rfl⟩

end ObjectSchema

namespace Pool

variable {pool : Pool} {maximum levels : Nat} {scope : Url} {node : Node} {value : Json}

/-- Whether a visit of a node with some levels left, where some base is in effect, reports nothing. It
does not matter which references are being followed. -/
def Grants (pool : Pool) (maximum levels : Nat) (scope : Url) (node : Node) (value : Json) : Prop :=
  ∃ frame : Frame, frame.scope = scope ∧ pool.visit maximum levels frame node value = []

/-- Without levels left nothing is granted. -/
theorem not_grants_zero : ¬ pool.Grants maximum 0 scope node value := by
  rintro ⟨frame, _, h⟩
  cases h

/-- What a reference grants its target grants. -/
theorem Grants.reference (h : pool.Grants maximum (levels + 1) scope node value)
    {o : ObjectSchema Schema} (hnode : node.schema = .object o) {reference : String}
    (href : o.ref = some reference) :
    ∃ target, pool.resolve reference scope = .ok target ∧
      pool.Grants maximum levels target.scope target.node value := by
  obtain ⟨frame, rfl, h⟩ := h
  simp only [visit, nodeFailures, hnode, href, referenceFailures] at h
  cases htarget : pool.resolve reference frame.scope with
  | error error =>
    rw [htarget] at h
    cases h
  | ok target =>
    simp only [htarget] at h
    split at h
    · cases h
    · exact ⟨target, rfl, _, rfl, h⟩

/-- What a schema object grants is as its keywords demand, and what they demand of sub-schemas is
granted by these. -/
theorem Grants.holds (h : pool.Grants maximum (levels + 1) scope node value)
    {o : ObjectSchema Schema} (hnode : node.schema = .object o) (href : o.ref = none)
    (hpositive : (o.mapPath node.child).Positive) :
    (o.mapPath node.child).Holds (pool.Grants maximum levels (scope.inside o.id)) value := by
  obtain ⟨frame, rfl, h⟩ := h
  simp only [visit, nodeFailures, hnode, href] at h
  refine hpositive.holds_of_failures_eq_nil _ (fun call hcall hnone => ?_) h
  refine ⟨call.frame, ?_, hnone⟩
  rw [ObjectSchema.scope_of_mem_calls _ _ _ hcall, Frame.scope_enter]

end Pool

end Draft6
