import Draft6.Proofs.Meaning
import Draft6.Proofs.NumberOrder
import Draft6.Proofs.Obstacles

/-!
# Validation finds the meaning

One visit of a schema object reports nothing exactly when the object holds of the value, provided that
its calls tell which sub-schemas hold of which values. By induction on the levels that are left, a
walk that meets no obstacle gives a verdict at each of its visits, and the verdict is whether the
visit reports nothing.
-/

namespace Draft6

/-! ## Rules for one kind of value -/

/-- A rule is not broken when it is absent or kept. -/
theorem brokenBy_eq_nil_iff {ρ : Type} (rule? : Option ρ) (broken : ρ → Bool)
    (cause : ρ → Cause) :
    brokenBy rule? broken cause = [] ↔ ∀ rule ∈ rule?, broken rule = false := by
  cases rule? with
  | none => simp [brokenBy]
  | some rule =>
    cases h : broken rule <;> simp [brokenBy, h]

/-- A number breaks no rule exactly when the rules admit it. -/
theorem NumberRules.broken_eq_nil_iff (r : NumberRules) (n : Number) :
    r.broken n = [] ↔ r.Admits n := by
  simp only [broken, List.append_eq_nil_iff, brokenBy_eq_nil_iff, Bool.not_eq_false',
    decide_eq_false_iff_not, Number.compare_eq_lt_iff, Number.compare_eq_gt_iff, not_lt, not_le,
    ne_eq]
  constructor
  · rintro ⟨⟨⟨⟨h1, h2⟩, h3⟩, h4⟩, h5⟩
    exact ⟨h1, h2, h3, h4, h5⟩
  · rintro ⟨h1, h2, h3, h4, h5⟩
    exact ⟨⟨⟨⟨h1, h2⟩, h3⟩, h4⟩, h5⟩

/-- A string breaks no rule exactly when the rules admit it. -/
theorem StringRules.broken_eq_nil_iff (r : StringRules) (s : String) :
    r.broken s = [] ↔ r.Admits s := by
  simp only [broken, List.append_eq_nil_iff, brokenBy_eq_nil_iff, Bool.not_eq_false',
    decide_eq_false_iff_not, not_lt]
  constructor
  · rintro ⟨⟨h1, h2⟩, h3⟩
    exact ⟨h1, h2, h3⟩
  · rintro ⟨h1, h2, h3⟩
    exact ⟨⟨h1, h2⟩, h3⟩

/-- No element occurs again exactly when no two elements are equal. -/
theorem firstDuplicate?_eq_none_iff (items : List Json) :
    Json.firstDuplicate? items = none ↔
      items.Pairwise fun earlier later => earlier.equal later = false := by
  induction items with
  | nil => simp [Json.firstDuplicate?]
  | cons x rest ih =>
    rw [Json.firstDuplicate?, List.pairwise_cons, ← ih]
    cases h : rest.any (Json.equal x) with
    | true =>
      obtain ⟨y, hy, hxy⟩ := List.any_eq_true.mp h
      simp only [if_true, reduceCtorEq, false_iff, not_and]
      intro hnone
      rw [hnone y hy] at hxy
      cases hxy
    | false =>
      have hnone : ∀ y ∈ rest, x.equal y = false := by simpa using h
      simp only [Bool.false_eq_true, if_false, iff_and_self]
      exact fun _ => hnone

/-- An array breaks no rule exactly when the rules admit it. -/
theorem ArrayRules.broken_eq_nil_iff (r : ArrayRules) (items : List Json) :
    r.broken items = [] ↔ r.Admits items := by
  have hunique : (if r.uniqueItems = some true then
      (Json.firstDuplicate? items).toList.map Cause.repeatedItem else []) = [] ↔
        (r.uniqueItems = some true →
          items.Pairwise fun earlier later => earlier.equal later = false) := by
    rw [← firstDuplicate?_eq_none_iff]
    split
    · next h => simp [h]
    · next h => simp [h]
  simp only [broken, List.append_eq_nil_iff, brokenBy_eq_nil_iff, decide_eq_false_iff_not, not_lt,
    hunique]
  constructor
  · rintro ⟨⟨h1, h2⟩, h3⟩
    exact ⟨h1, h2, h3⟩
  · rintro ⟨h1, h2, h3⟩
    exact ⟨⟨h1, h2⟩, h3⟩

/-- A member is found exactly when there is one. -/
theorem lookup_isSome_iff_hasMember (members : List (String × Json)) (name : String) :
    (members.lookup name).isSome = true ↔ HasMember members name := by
  rw [List.lookup_isSome_iff]
  constructor
  · rintro ⟨⟨key, part⟩, hmem, hkey⟩
    exact ⟨part, beq_iff_eq.mp hkey ▸ hmem⟩
  · rintro ⟨part, hmem⟩
    exact ⟨(name, part), hmem, beq_self_eq_true name⟩

/-- Whether a call tells if its schema holds of its value. -/
def Call.Tells {α : Type} (visit : Visit α) (holds : α → Json → Prop) (call : Call α) : Prop :=
  (call.failures visit = [] ↔ holds call.schema call.value) ∧
    structural (call.failures visit) = []

/-- A keyword that reports the failures of its calls reports none when all of them hold. -/
theorem flatMap_failures_eq_nil_iff {α : Type} {visit : Visit α} {holds : α → Json → Prop}
    {calls : List (Call α)} (h : ∀ call ∈ calls, call.Tells visit holds) :
    calls.flatMap (Call.failures visit) = [] ↔ ∀ call ∈ calls, holds call.schema call.value := by
  rw [List.flatMap_eq_nil_iff]
  exact forall₂_congr fun call hcall => (h call hcall).1

namespace ObjectSchema

variable {α : Type} {visit : Visit α} {holds : α → Json → Prop} (frame : Frame)
  (o : ObjectSchema α)

/-- No member is reported as missing exactly when all are there. -/
theorem missingFailures_eq_nil_iff (members : List (String × Json)) (names : List String) :
    missingFailures frame members names = [] ↔ ∀ name ∈ names, HasMember members name := by
  simp only [missingFailures, List.map_eq_nil_iff, List.filter_eq_nil_iff,
    ← lookup_isSome_iff_hasMember, Bool.not_eq_true, Option.isNone_eq_false_iff]

/-- The schema for an element is the one that governs its position. -/
theorem itemSchema?_eq_some_iff (position : Nat) (schema : α) :
    o.itemSchema? position = some schema ↔ o.GovernsItem position schema := by
  constructor
  · intro h
    rw [itemSchema?] at h
    split at h
    · next s hs => cases h; exact .every hs
    · next schemas hs =>
      cases hlisted : schemas[position]? with
      | some s =>
        rw [hlisted] at h
        exact .listed schemas hs (hlisted.trans h)
      | none =>
        rw [hlisted] at h
        exact .further schemas hs (List.getElem?_eq_none_iff.mp hlisted) h
    · cases h
  · rintro (h | ⟨schemas, h, hschema⟩ | ⟨schemas, h, hposition, hschema⟩)
    · rw [itemSchema?, h]
    · simp [itemSchema?, h, hschema]
    · simp [itemSchema?, h, List.getElem?_eq_none_iff.mpr hposition, hschema]

/-- The schemas of the patterns that a name matches. -/
theorem mem_patternSchemas (name : String) (schema : α) :
    schema ∈ o.patternSchemas name ↔
      ∃ pattern, (pattern, schema) ∈ o.patternProperties.getD [] ∧
        pattern.isMatch name = true := by
  simp only [patternSchemas, List.mem_map, List.mem_filter, Prod.exists, exists_eq_right]

/-- A member is an additional one when no schema has its name and no pattern matches it. -/
theorem isAdditional_iff (name : String) :
    o.isAdditional name = true ↔ (o.properties.getD []).lookup name = none ∧
      ∀ entry ∈ o.patternProperties.getD [], entry.1.isMatch name = false := by
  simp [isAdditional, patternSchemas, List.filter_eq_nil_iff]

/-! ## Keywords for arrays -/

/-- Elements are reported unless the schemas that govern them hold. -/
theorem itemFailures_eq_nil_iff {items : List Json}
    (h : ∀ call ∈ o.itemCalls frame items, call.Tells visit holds) :
    o.itemFailures visit frame items = [] ↔ ∀ position item schema,
      items[position]? = some item → o.GovernsItem position schema → holds schema item := by
  rw [itemFailures_eq, flatMap_failures_eq_nil_iff h]
  constructor
  · intro hcalls position item schema hitem hgoverns
    exact hcalls _ ((o.mem_itemCalls frame).mpr ⟨position, item, schema, hitem,
      (o.itemSchema?_eq_some_iff position schema).mpr hgoverns, rfl⟩)
  · intro hitems call hcall
    obtain ⟨position, item, schema, hitem, hschema, rfl⟩ := (o.mem_itemCalls frame).mp hcall
    exact hitems position item schema hitem
      ((o.itemSchema?_eq_some_iff position schema).mp hschema)

/-- A search succeeds exactly when the schema holds of some element. -/
theorem searchItems_eq_nil_iff {schema : α} {position : Nat} {items : List Json}
    (h : ∀ call ∈ searchCalls visit frame schema position items, call.Tells visit holds) :
    searchItems visit frame schema position items = [] ↔ ∃ item ∈ items, holds schema item := by
  induction items generalizing position with
  | nil => simp [searchItems]
  | cons item rest ih =>
    have hhead := h _ List.mem_cons_self
    rw [searchItems]
    by_cases hitem : holds schema item
    · rw [show visit (frame.child (toString position)) schema item = [] from hhead.1.mpr hitem]
      exact iff_of_true rfl ⟨item, List.mem_cons_self, hitem⟩
    · have hfails : visit (frame.child (toString position)) schema item ≠ [] :=
        fun hnone => hitem (hhead.1.mp hnone)
      have hstructural : structural (visit (frame.child (toString position)) schema item) = [] :=
        hhead.2
      have hrest : ∀ call ∈ searchCalls visit frame schema (position + 1) rest,
          call.Tells visit holds := fun call hcall => h call <| List.mem_cons_of_mem _ <| by
        rwa [if_neg (by simpa [Call.failures] using hfails)]
      simp only [List.isEmpty_iff, if_neg hfails, hstructural, List.nil_append, ih hrest,
        List.exists_mem_cons_iff, hitem, false_or]

/-- The missing element is reported unless the schema holds of some element. -/
theorem containsFailures_eq_nil_iff {items : List Json}
    (h : ∀ call ∈ o.containsCalls visit frame items, call.Tells visit holds) :
    o.containsFailures visit frame items = [] ↔
      ∀ schema ∈ o.contains, ∃ item ∈ items, holds schema item := by
  rw [containsFailures]
  rw [containsCalls] at h
  cases hcontains : o.contains with
  | none => simp
  | some schema =>
    rw [hcontains] at h
    rw [searchItems_eq_nil_iff frame (by simpa using h)]
    simp

/-! ## Keywords for objects -/

/-- Members are reported unless the schemas that govern them hold. -/
theorem memberFailures_eq_nil_iff {members : List (String × Json)}
    (hnamed : ∀ call ∈ o.propertyCalls frame members, call.Tells visit holds)
    (hmatching : ∀ call ∈ o.patternCalls frame members, call.Tells visit holds)
    (hadditional : ∀ call ∈ o.additionalCalls frame members, call.Tells visit holds) :
    (o.propertyFailures visit frame members = [] ∧ o.patternFailures visit frame members = [] ∧
        o.additionalFailures visit frame members = []) ↔
      ∀ name part schema, (name, part) ∈ members → o.GovernsMember name schema →
        holds schema part := by
  rw [propertyFailures_eq, patternFailures_eq, additionalFailures_eq,
    flatMap_failures_eq_nil_iff hnamed, flatMap_failures_eq_nil_iff hmatching,
    flatMap_failures_eq_nil_iff hadditional]
  constructor
  · rintro ⟨hn, hm, ha⟩ name part schema hmem hgoverns
    cases hgoverns with
    | named h =>
      exact hn _ ((o.mem_propertyCalls frame).mpr ⟨name, part, schema, hmem, h, rfl⟩)
    | matching pattern h hmatch =>
      exact hm _ ((o.mem_patternCalls frame).mpr ⟨name, part, schema, hmem,
        (o.mem_patternSchemas name schema).mpr ⟨pattern, h, hmatch⟩, rfl⟩)
    | additional h hname hmatch =>
      exact ha _ ((o.mem_additionalCalls frame).mpr ⟨name, part, schema, hmem,
        (o.isAdditional_iff name).mpr ⟨hname, hmatch⟩, h, rfl⟩)
  · refine fun hmembers => ⟨fun call hcall => ?_, fun call hcall => ?_, fun call hcall => ?_⟩
    · obtain ⟨name, part, schema, hmem, h, rfl⟩ := (o.mem_propertyCalls frame).mp hcall
      exact hmembers name part schema hmem (.named h)
    · obtain ⟨name, part, schema, hmem, hschema, rfl⟩ := (o.mem_patternCalls frame).mp hcall
      obtain ⟨pattern, h, hmatch⟩ := (o.mem_patternSchemas name schema).mp hschema
      exact hmembers name part schema hmem (.matching pattern h hmatch)
    · obtain ⟨name, part, schema, hmem, hadd, h, rfl⟩ := (o.mem_additionalCalls frame).mp hcall
      obtain ⟨hname, hmatch⟩ := (o.isAdditional_iff name).mp hadd
      exact hmembers name part schema hmem (.additional h hname hmatch)

/-- Demands of members on the whole object are reported unless they are met. -/
theorem dependencyFailures_eq_nil_iff_meets {members : List (String × Json)}
    (h : ∀ call ∈ o.dependencyCalls frame members, call.Tells visit holds) :
    o.dependencyFailures visit frame members = [] ↔
      (∀ trigger required, (trigger, .names required) ∈ o.dependencies.getD [] →
        HasMember members trigger → ∀ name ∈ required, HasMember members name) ∧
      ∀ trigger schema, (trigger, .schema schema) ∈ o.dependencies.getD [] →
        HasMember members trigger → holds schema (.object members) := by
  simp only [dependencyFailures_eq_nil_iff, missingFailures_eq_nil_iff,
    lookup_isSome_iff_hasMember]
  refine and_congr_right fun _ => ⟨fun hcalls trigger schema hentry hpresent => ?_,
    fun hschemas call hcall => ?_⟩
  · have hcall := (o.mem_dependencyCalls frame).mpr ⟨trigger, schema, hentry,
      (lookup_isSome_iff_hasMember members trigger).mpr hpresent, rfl⟩
    exact (h _ hcall).1.mp (hcalls _ hcall)
  · obtain ⟨trigger, schema, hentry, hpresent, rfl⟩ := (o.mem_dependencyCalls frame).mp hcall
    exact (h _ hcall).1.mpr (hschemas trigger schema hentry
      ((lookup_isSome_iff_hasMember members trigger).mp hpresent))

/-- Member names are reported unless their schema holds of them. -/
theorem nameFailures_eq_nil_iff_holds {members : List (String × Json)}
    (h : ∀ call ∈ o.nameCalls frame members, call.Tells visit holds) :
    o.nameFailures visit frame members = [] ↔
      ∀ schema ∈ o.propertyNames, ∀ name, HasMember members name →
        holds schema (.string name) := by
  rw [nameFailures_eq_nil_iff]
  constructor
  · rintro hcalls schema hschema name ⟨part, hmem⟩
    have hcall := (o.mem_nameCalls frame).mpr ⟨name, part, schema, hmem, hschema, rfl⟩
    exact (h _ hcall).1.mp (hcalls _ hcall)
  · intro hnames call hcall
    obtain ⟨name, part, schema, hmem, hschema, rfl⟩ := (o.mem_nameCalls frame).mp hcall
    exact (h _ hcall).1.mpr (hnames schema hschema name ⟨part, hmem⟩)

/-! ## Keywords that combine schemas -/

/-- The value is reported unless all schemas hold of it. -/
theorem allOfFailures_eq_nil_iff {value : Json}
    (h : ∀ call ∈ listCalls frame .allOf o.allOf value, call.Tells visit holds) :
    o.allOfFailures visit frame value = [] ↔
      ∀ schemas ∈ o.allOf, ∀ schema ∈ schemas, holds schema value := by
  rw [allOfFailures_eq, flatMap_failures_eq_nil_iff h]
  simp only [listCalls, List.forall_mem_map]
  cases o.allOf <;> simp

/-- What is structural in branches that tell is nothing. -/
theorem structural_flatten_branches {keyword : Keyword} {schemas : List α} {value : Json}
    (h : ∀ call ∈ listCalls frame keyword (some schemas) value, call.Tells visit holds) :
    structural (schemas.map fun schema => visit frame schema value).flatten = [] := by
  rw [← List.flatMap_def, structural_flatMap, List.flatMap_eq_nil_iff]
  intro schema hschema
  exact (h ⟨keyword, frame, schema, value⟩ ((mem_listCalls frame).mpr ⟨schema, hschema, rfl⟩)).2

/-- The value is reported unless one of the schemas holds of it, or there are none. -/
theorem anyOfFailures_eq_nil_iff {value : Json}
    (h : ∀ call ∈ listCalls frame .anyOf o.anyOf value, call.Tells visit holds) :
    o.anyOfFailures visit frame value = [] ↔
      ∀ schemas ∈ o.anyOf, schemas ≠ [] → ∃ schema ∈ schemas, holds schema value := by
  rw [anyOfFailures]
  cases hany : o.anyOf with
  | none => simp
  | some schemas =>
    rw [hany] at h
    have htells (schema : α) (hschema : schema ∈ schemas) :
        visit frame schema value = [] ↔ holds schema value :=
      (h ⟨.anyOf, frame, schema, value⟩ ((mem_listCalls frame).mpr ⟨schema, hschema, rfl⟩)).1
    simp only [Option.getD_some, structural_flatten_branches frame h, Option.mem_def,
      Option.some.injEq, forall_eq']
    split
    · next hempty =>
      obtain ⟨branch, hbranch, hnil⟩ := List.any_eq_true.mp hempty
      obtain ⟨schema, hschema, rfl⟩ := List.mem_map.mp hbranch
      exact iff_of_true rfl fun _ =>
        ⟨schema, hschema, (htells schema hschema).mp (List.isEmpty_iff.mp hnil)⟩
    · next hempty =>
      have hfails (schema : α) (hschema : schema ∈ schemas) : visit frame schema value ≠ [] := by
        intro hnil
        exact hempty (List.any_eq_true.mpr ⟨_, List.mem_map_of_mem hschema, by simp [hnil]⟩)
      cases schemas with
      | nil => simp
      | cons schema rest =>
        refine iff_of_false ?_ fun hexists => ?_
        · simp [hfails schema List.mem_cons_self]
        · obtain ⟨other, hother, hholds⟩ := hexists (List.cons_ne_nil _ _)
          exact hfails other hother ((htells other hother).mpr hholds)

/-- One element of a list passes a test when it stands between elements that do not. -/
theorem countP_eq_one_iff {β : Type} (test : β → Bool) (xs : List β) :
    xs.countP test = 1 ↔ ∃ before x after, xs = before ++ x :: after ∧ test x = true ∧
      ∀ y ∈ before ++ after, test y = false := by
  constructor
  · intro h
    obtain ⟨x, hx, htest⟩ := List.countP_pos_iff.mp (h ▸ Nat.one_pos)
    obtain ⟨before, after, rfl⟩ := List.append_of_mem hx
    rw [List.countP_append, List.countP_cons_of_pos htest] at h
    have hbefore := List.countP_eq_zero.mp (show before.countP test = 0 by omega)
    have hafter := List.countP_eq_zero.mp (show after.countP test = 0 by omega)
    refine ⟨before, x, after, rfl, htest, fun y hy => ?_⟩
    rcases List.mem_append.mp hy with hy | hy
    · exact Bool.eq_false_of_not_eq_true (hbefore y hy)
    · exact Bool.eq_false_of_not_eq_true (hafter y hy)
  · rintro ⟨before, x, after, rfl, htest, hothers⟩
    have hnone (ys : List β) (hys : ∀ y ∈ ys, test y = false) : ys.countP test = 0 :=
      List.countP_eq_zero.mpr fun y hy => by simp [hys y hy]
    rw [List.countP_append, List.countP_cons_of_pos htest,
      hnone before fun y hy => hothers y (List.mem_append_left _ hy),
      hnone after fun y hy => hothers y (List.mem_append_right _ hy)]

/-- The value is reported unless exactly one of the schemas holds of it. -/
theorem oneOfFailures_eq_nil_iff {value : Json}
    (h : ∀ call ∈ listCalls frame .oneOf o.oneOf value, call.Tells visit holds) :
    o.oneOfFailures visit frame value = [] ↔
      ∀ schemas ∈ o.oneOf, ∃ before schema after, schemas = before ++ schema :: after ∧
        holds schema value ∧ ∀ other ∈ before ++ after, ¬ holds other value := by
  rw [oneOfFailures]
  cases hone : o.oneOf with
  | none => simp
  | some schemas =>
    rw [hone] at h
    have htells (schema : α) (hschema : schema ∈ schemas) :
        (visit frame schema value).isEmpty = true ↔ holds schema value :=
      List.isEmpty_iff.trans
        (h ⟨.oneOf, frame, schema, value⟩ ((mem_listCalls frame).mpr ⟨schema, hschema, rfl⟩)).1
    have hcount : (schemas.map fun schema => visit frame schema value).countP List.isEmpty = 1 ↔
        ∃ before schema after, schemas = before ++ schema :: after ∧
          holds schema value ∧ ∀ other ∈ before ++ after, ¬ holds other value := by
      rw [List.countP_map, countP_eq_one_iff]
      constructor
      · rintro ⟨before, schema, after, rfl, hschema, hothers⟩
        refine ⟨before, schema, after, rfl, (htells schema (by simp)).mp hschema,
          fun other hother hholds => ?_⟩
        have hempty := (htells other (by simp at hother ⊢; tauto)).mpr hholds
        exact Bool.false_ne_true ((hothers other hother).symm.trans hempty)
      · rintro ⟨before, schema, after, rfl, hschema, hothers⟩
        refine ⟨before, schema, after, rfl, (htells schema (by simp)).mpr hschema,
          fun other hother => Bool.eq_false_of_not_eq_true fun hempty => hothers other hother ?_⟩
        exact (htells other (by simp at hother ⊢; tauto)).mp hempty
    simp only [structural_flatten_branches frame h, List.nil_append, Option.mem_def,
      Option.some.injEq, forall_eq', ← hcount]
    generalize (schemas.map fun schema => visit frame schema value).countP List.isEmpty = count
    rcases count with _ | _ | count <;> simp

/-- The value is reported unless the schema does not hold of it. -/
theorem notFailures_eq_nil_iff {value : Json}
    (h : ∀ call ∈ o.notCalls frame value, call.Tells visit holds) :
    o.notFailures visit frame value = [] ↔ ∀ schema ∈ o.not, ¬ holds schema value := by
  rw [notFailures]
  cases hnot : o.not with
  | none => simp
  | some schema =>
    have hcall := h _ ((o.mem_notCalls frame).mpr ⟨schema, hnot, rfl⟩)
    have htells : visit frame schema value = [] ↔ holds schema value := hcall.1
    have hstructural : structural (visit frame schema value) = [] := hcall.2
    simp only [List.isEmpty_iff, htells, hstructural, Option.mem_def, Option.some.injEq,
      forall_eq']
    split <;> simp_all

/-! ## All keywords -/

/-- A value of the wrong type is reported. -/
theorem typeFailures_eq_nil_iff (value : Json) :
    o.typeFailures frame value = [] ↔ o.type.accepts value = true := by
  rw [typeFailures]
  split <;> simp_all

/-- A value that is not enumerated is reported. -/
theorem enumFailures_eq_nil_iff (value : Json) :
    o.enumFailures frame value = [] ↔
      ∀ allowed ∈ o.enum, ∃ candidate ∈ allowed, candidate.equal value = true := by
  rw [enumFailures]
  cases o.enum with
  | none => simp
  | some allowed =>
    simp only [Option.mem_def, Option.some.injEq, forall_eq', ← List.any_eq_true]
    split <;> simp_all

/-- A value other than the constant is reported. -/
theorem constFailures_eq_nil_iff (value : Json) :
    o.constFailures frame value = [] ↔ ∀ expected ∈ o.const, expected.equal value = true := by
  rw [constFailures]
  cases o.const with
  | none => simp
  | some expected =>
    simp only [Option.mem_def, Option.some.injEq, forall_eq']
    split <;> simp_all

/-- No required member is reported and no rule for objects broken exactly when the rules admit the
object. -/
theorem objectRules_iff (members : List (String × Json)) :
    (o.facetFailures frame (.object members) = [] ∧ o.requiredFailures frame members = []) ↔
      o.objects.Admits members := by
  rw [facetFailures, List.map_eq_nil_iff, requiredFailures, missingFailures_eq_nil_iff]
  simp only [brokenFacets, ObjectRules.broken, List.append_eq_nil_iff, brokenBy_eq_nil_iff,
    decide_eq_false_iff_not, not_lt]
  constructor
  · rintro ⟨⟨hmax, hmin⟩, hrequired⟩
    refine ⟨fun names hnames => ?_, hmax, hmin⟩
    rwa [Option.mem_def.mp hnames] at hrequired
  · rintro ⟨hrequired, hmax, hmin⟩
    refine ⟨⟨hmax, hmin⟩, ?_⟩
    cases hnames : o.objects.required with
    | none => simp
    | some names => exact hrequired names hnames

/-- The keywords for arrays report nothing exactly when they hold. -/
theorem arrayFailures_eq_nil_iff {items : List Json}
    (h : ∀ call ∈ o.kindCalls visit frame (.array items), call.Tells visit holds) :
    o.kindFailures visit frame (.array items) = [] ↔ o.ArrayHolds holds items := by
  simp only [kindCalls, List.forall_mem_append] at h
  simp only [kindFailures, List.append_eq_nil_iff, facetFailures, List.map_eq_nil_iff,
    brokenFacets, ArrayRules.broken_eq_nil_iff, itemFailures_eq_nil_iff frame o h.1,
    containsFailures_eq_nil_iff frame o h.2]
  constructor
  · rintro ⟨⟨hitems, hrules⟩, hcontains⟩
    exact ⟨hrules, hitems, hcontains⟩
  · rintro ⟨hrules, hitems, hcontains⟩
    exact ⟨⟨hitems, hrules⟩, hcontains⟩

/-- The keywords for objects report nothing exactly when they hold. -/
theorem objectFailures_eq_nil_iff {members : List (String × Json)}
    (h : ∀ call ∈ o.kindCalls visit frame (.object members), call.Tells visit holds) :
    o.kindFailures visit frame (.object members) = [] ↔ o.MembersHold holds members := by
  simp only [kindCalls, List.forall_mem_append] at h
  obtain ⟨⟨⟨⟨hnamed, hmatching⟩, hadditional⟩, hdependencies⟩, hnames⟩ := h
  have hmembers := memberFailures_eq_nil_iff frame o hnamed hmatching hadditional
  have hrules := objectRules_iff frame o members
  simp only [kindFailures, List.append_eq_nil_iff,
    dependencyFailures_eq_nil_iff_meets frame o hdependencies,
    nameFailures_eq_nil_iff_holds frame o hnames]
  constructor
  · rintro ⟨⟨⟨⟨⟨hfacets, hp⟩, hm⟩, ha⟩, hdemandedNames, hdemandedSchemas⟩, hn⟩
    exact ⟨hrules.mp hfacets, hmembers.mp ⟨hp, hm, ha⟩, hdemandedNames, hdemandedSchemas, hn⟩
  · rintro ⟨hr, hgoverned, hdemandedNames, hdemandedSchemas, hn⟩
    obtain ⟨hp, hm, ha⟩ := hmembers.mpr hgoverned
    exact ⟨⟨⟨⟨⟨hrules.mpr hr, hp⟩, hm⟩, ha⟩, hdemandedNames, hdemandedSchemas⟩, hn⟩

/-- The keywords for one kind of value report nothing exactly when they hold. -/
theorem kindFailures_eq_nil_iff {value : Json}
    (h : ∀ call ∈ o.kindCalls visit frame value, call.Tells visit holds) :
    o.kindFailures visit frame value = [] ↔ o.KindHolds holds value := by
  cases value with
  | null | bool => exact iff_of_true rfl trivial
  | number n => exact List.map_eq_nil_iff.trans (o.numbers.broken_eq_nil_iff n)
  | string s => exact List.map_eq_nil_iff.trans (o.strings.broken_eq_nil_iff s)
  | array items => exact o.arrayFailures_eq_nil_iff frame h
  | object members => exact o.objectFailures_eq_nil_iff frame h

/-- A schema object reports nothing exactly when it holds of the value, provided that its calls tell
which sub-schemas hold of which values. -/
theorem failures_eq_nil_iff_holds {value : Json}
    (h : ∀ call ∈ o.calls visit frame value, call.Tells visit holds) :
    o.failures visit frame value = [] ↔ o.Holds holds value := by
  simp only [calls, List.forall_mem_append] at h
  obtain ⟨⟨⟨⟨hkind, hall⟩, hany⟩, hone⟩, hnot⟩ := h
  simp only [failures, List.append_eq_nil_iff, typeFailures_eq_nil_iff, enumFailures_eq_nil_iff,
    constFailures_eq_nil_iff, kindFailures_eq_nil_iff frame o hkind,
    allOfFailures_eq_nil_iff frame o hall, anyOfFailures_eq_nil_iff frame o hany,
    oneOfFailures_eq_nil_iff frame o hone, notFailures_eq_nil_iff frame o hnot]
  constructor
  · rintro ⟨⟨⟨⟨⟨⟨⟨ht, he⟩, hc⟩, hk⟩, ha⟩, hy⟩, ho⟩, hn⟩
    exact ⟨ht, he, hc, hk, ha, hy, ho, hn⟩
  · rintro ⟨ht, he, hc, hk, ha, hy, ho, hn⟩
    exact ⟨⟨⟨⟨⟨⟨⟨ht, he⟩, hc⟩, hk⟩, ha⟩, hy⟩, ho⟩, hn⟩

end ObjectSchema

/-! ## All visits of a walk -/

/-- The base in effect inside a schema with an identifier, as a visit finds it. -/
theorem Frame.scope_enter (frame : Frame) (id? : Option String) :
    (frame.enter id?).scope = frame.scope.inside id? := by
  rw [enter, Url.inside]
  cases id? with
  | none => rfl
  | some id =>
    rw [Option.map_some, Option.bind_some]
    cases frame.scope.scope? id <;> rfl

namespace Pool

variable {pool : Pool}

/-- A walk without obstacles has visits without structural failures. -/
theorem structural_visit_eq_nil {maximum levels : Nat} {frame : Frame} {node : Node} {value : Json}
    (h : ∀ stop ∈ pool.walk maximum levels frame node value,
      pool.obstacles maximum stop = []) :
    structural (pool.visit maximum levels frame node value) = [] := by
  rw [structural_visit, List.flatMap_eq_nil_iff]
  exact fun stop hstop => h stop (List.mem_of_mem_filter hstop)

end Pool

end Draft6
