import Draft6.Proofs.SingleKeywords
import Draft6.Validation

/-!
# Keywords report independently

What a schema object reports is what its keywords report, one after the other in a fixed order. Nearly
every keyword looks at itself only. There are two exceptions: `additionalItems` also looks at `items`,
and `additionalProperties` at `properties` and `patternProperties`. So a keyword that no other one looks
at can be added, and then its report is put in somewhere and nothing else changes.
-/

namespace Draft6

/-- The keywords that decide what a keyword reports. -/
def Keyword.looksAt : Keyword → List Keyword
  | .additionalItems => [.items, .additionalItems]
  | .additionalProperties => [.properties, .patternProperties, .additionalProperties]
  | k => [k]

/-- The keywords that report something, in the order of their reports. -/
def Keyword.reportingOrder : List Keyword :=
  [.type, .enum, .const, .items, .additionalItems, .multipleOf, .maximum, .exclusiveMaximum, .minimum,
    .exclusiveMinimum, .maxLength, .minLength, .pattern, .maxItems, .minItems, .uniqueItems, .contains,
    .maxProperties, .minProperties, .required, .properties, .patternProperties, .additionalProperties,
    .dependencies, .propertyNames, .allOf, .anyOf, .oneOf, .not]

/-- What is listed by positions is listed up to a position and from there on. -/
theorem flatten_mapIdx_split {α β : Type} (f : Nat → α → List β) (n : Nat) (xs : List α) :
    (xs.mapIdx f).flatten = (xs.mapIdx fun i x => if i < n then f i x else []).flatten
      ++ (xs.mapIdx fun i x => if i < n then [] else f i x).flatten := by
  induction xs generalizing f n with
  | nil => rfl
  | cons x rest ih =>
    cases n with
    | zero => simp
    | succ n =>
      simp only [List.mapIdx_cons, List.flatten_cons, Nat.add_lt_add_iff_right, Nat.zero_lt_succ, if_true,
        List.append_assoc, List.nil_append]
      rw [ih (fun i => f (i + 1)) n]

namespace ObjectSchema

section Report

variable {α : Type} (visit : Visit α) (frame : Frame) (o : ObjectSchema α)

/-! ## The report of one keyword -/

/-- Failures of the elements behind those that have a schema for their position. -/
def furtherItemFailures (items : List Json) : List Failure :=
  match o.items, o.additionalItems with
  | some (.each schemas), some schema =>
    (items.mapIdx fun i item =>
      if i < schemas.length then [] else visit (frame.child (toString i)) schema item).flatten
  | _, _ => []

/-- What one keyword reports. -/
def report (k : Keyword) (value : Json) : List Failure :=
  match k, value with
  | .type, value => o.typeFailures frame value
  | .enum, value => o.enumFailures frame value
  | .const, value => o.constFailures frame value
  | .items, .array items => (only .items o).itemFailures visit frame items
  | .additionalItems, .array items => o.furtherItemFailures visit frame items
  | .contains, .array items => o.containsFailures visit frame items
  | .required, .object members => o.requiredFailures frame members
  | .properties, .object members => o.propertyFailures visit frame members
  | .patternProperties, .object members => o.patternFailures visit frame members
  | .additionalProperties, .object members => o.additionalFailures visit frame members
  | .dependencies, .object members => o.dependencyFailures visit frame members
  | .propertyNames, .object members => o.nameFailures visit frame members
  | .allOf, value => o.allOfFailures visit frame value
  | .anyOf, value => o.anyOfFailures visit frame value
  | .oneOf, value => o.oneOfFailures visit frame value
  | .not, value => o.notFailures visit frame value
  | k, value => (only k o).facetFailures frame value

/-- Elements are reported by `items` first and then by `additionalItems`. -/
theorem itemFailures_eq_append (items : List Json) : o.itemFailures visit frame items =
    (only .items o).itemFailures visit frame items ++ o.furtherItemFailures visit frame items := by
  have honly : (only .items o).items = o.items := rfl
  have hadditional : (only .items o).additionalItems = none := rfl
  simp only [itemFailures, itemSchema?, furtherItemFailures, honly, hadditional]
  rcases o.items with _ | (schema | schemas)
  · simp
  · simp
  · rw [flatten_mapIdx_split _ schemas.length]
    congr 1
    · congr 2
      funext i item
      by_cases hi : i < schemas.length <;> simp [hi]
    · cases o.additionalItems with
      | none =>
        rw [List.flatten_eq_nil_iff]
        intro failures hfailures
        obtain ⟨i, _, rfl⟩ := List.mem_mapIdx.mp hfailures
        by_cases hi : i < schemas.length <;> simp [hi]
      | some schema =>
        dsimp only
        congr 2
        funext i item
        by_cases hi : i < schemas.length <;> simp [hi]

/-- A schema object reports what its keywords report, in their order. -/
theorem failures_eq_flatMap_report (value : Json) :
    o.failures visit frame value = Keyword.reportingOrder.flatMap fun k => o.report visit frame k value := by
  cases value with
  | null | bool =>
    simp [Keyword.reportingOrder, report, failures, kindFailures, facetFailures, brokenFacets]
  | number n =>
    simp [Keyword.reportingOrder, report, failures, kindFailures, facetFailures, brokenFacets, NumberRules.broken,
      brokenBy, only, gather, Function.update]
  | string s =>
    simp [Keyword.reportingOrder, report, failures, kindFailures, facetFailures, brokenFacets, StringRules.broken,
      brokenBy, only, gather, Function.update]
  | array items =>
    simp [Keyword.reportingOrder, report, failures, kindFailures, facetFailures, brokenFacets, ArrayRules.broken,
      brokenBy, o.itemFailures_eq_append visit frame items, only, gather, Function.update]
  | object members =>
    simp [Keyword.reportingOrder, report, failures, kindFailures, facetFailures, brokenFacets, ObjectRules.broken,
      brokenBy, only, gather, Function.update]

end Report

/-! ## What a report depends on -/

variable {α : Type} {visit : Visit α} {frame : Frame}

/-- The schema object that has some keywords of another one and nothing else. -/
def restrict (ks : List Keyword) (o : ObjectSchema α) : ObjectSchema α :=
  gather (fun k => if k ∈ ks then o else {}) []

/-- A keyword that is left out does not count. -/
theorem restrict_withKeyword {ks : List Keyword} {k : Keyword} (h : k ∉ ks) (o p : ObjectSchema α) :
    (o.withKeyword k p).restrict ks = o.restrict ks := by
  refine gather_congr (fun j => ?_) []
  by_cases hj : j ∈ ks
  · have hne : j ≠ k := fun heq => h (heq ▸ hj)
    rw [if_pos hj, if_pos hj, only_withKeyword_of_ne o hne]
  · rw [if_neg hj, if_neg hj]

/-- A keyword alone is the one that was taken. -/
theorem restrict_singleton_withKeyword (k : Keyword) (o p : ObjectSchema α) :
    (o.withKeyword k p).restrict [k] = only k p := by
  refine gather_congr (fun j => ?_) []
  by_cases hj : j = k
  · subst hj
    rw [if_pos List.mem_cons_self, Function.update_self, withKeyword, only_gather, Function.update_self]
  · rw [if_neg (by simpa using hj), Function.update_of_ne hj]

/-- A report depends on the keywords that decide it. -/
theorem report_restrict (o : ObjectSchema α) (k : Keyword) (value : Json) :
    (o.restrict k.looksAt).report visit frame k value = o.report visit frame k value := by
  cases k
  case items | additionalItems | contains | required | properties | patternProperties
      | additionalProperties | dependencies | propertyNames =>
    cases value <;> rfl
  all_goals rfl

/-- The report of a keyword that does not look at another one stays when this one is taken. -/
theorem report_withKeyword {j k : Keyword} (h : k ∉ j.looksAt) (o p : ObjectSchema α) (value : Json) :
    (o.withKeyword k p).report visit frame j value = o.report visit frame j value := by
  rw [← report_restrict, restrict_withKeyword h, report_restrict]

/-- A keyword that is absent reports nothing. -/
theorem report_of_lacks {o : ObjectSchema α} {k : Keyword} (h : o.Lacks k) (value : Json) :
    o.report visit frame k value = [] := by
  rw [← h]
  cases k
  case items =>
    cases value with
    | array items => simp [report, withKeyword, only, gather, itemFailures, itemSchema?]
    | null | bool | number | string | object => rfl
  case additionalItems =>
    cases value with
    | array items =>
      have hadditional : (o.withKeyword .additionalItems {}).additionalItems = none := rfl
      simp [report, furtherItemFailures, hadditional]
    | null | bool | number | string | object => rfl
  case properties | patternProperties =>
    cases value with
    | object members =>
      simp [report, withKeyword, gather, propertyFailures, patternFailures, patternSchemas]
    | null | bool | number | string | array => rfl
  all_goals cases value <;> rfl

/-- A keyword that is not in the order reports nothing. -/
theorem report_of_not_mem (o : ObjectSchema α) {k : Keyword} (h : k ∉ Keyword.reportingOrder)
    (value : Json) : o.report visit frame k value = [] := by
  cases k
  case dialect | id | ref | title | description | default | examples | format | definitions =>
    cases value <;> rfl
  all_goals exact absurd (by decide) h

/-! ## One more keyword -/

/-- A keyword that no other one looks at puts its report into what was reported without it, and changes
nothing else. -/
theorem exists_failures_withKeyword {o : ObjectSchema α} {k : Keyword} (habsent : o.Lacks k)
    (hk : ∀ j : Keyword, k ∈ j.looksAt → j = k) (p : ObjectSchema α) (value : Json) :
    ∃ before after, o.failures visit frame value = before ++ after ∧
      (o.withKeyword k p).failures visit frame value =
        before ++ (o.withKeyword k p).report visit frame k value ++ after := by
  have hothers {ks : List Keyword} (hks : k ∉ ks) :
      (ks.flatMap fun j => (o.withKeyword k p).report visit frame j value) =
        ks.flatMap fun j => o.report visit frame j value := by
    refine List.flatMap_congr fun j hj => report_withKeyword (fun hmem => ?_) o p value
    exact hks (hk j hmem ▸ hj)
  simp only [failures_eq_flatMap_report]
  by_cases hmem : k ∈ Keyword.reportingOrder
  -- The keyword stands once in the order, and this is where its report is put in.
  · obtain ⟨before, after, horder⟩ := List.append_of_mem hmem
    have hnodup : (before ++ k :: after).Nodup := horder ▸ (by decide : Keyword.reportingOrder.Nodup)
    have hnot : k ∉ before ++ after := (List.nodup_cons.mp (List.nodup_middle.mp hnodup)).1
    rw [List.mem_append, not_or] at hnot
    rw [horder]
    simp only [List.flatMap_append, List.flatMap_cons, hothers hnot.1, hothers hnot.2,
      report_of_lacks habsent, List.nil_append]
    exact ⟨_, _, rfl, (List.append_assoc _ _ _).symm⟩
  · rw [hothers hmem, report_of_not_mem _ hmem]
    exact ⟨_, [], (List.append_nil _).symm, by rw [List.append_nil, List.append_nil]⟩

/-- A schema object that has an identifier at most lacks all other keywords. -/
theorem lacks_of_ne_id (id : Option String) {k : Keyword} (hk : k ≠ .id) :
    ({ id } : ObjectSchema α).Lacks k := by
  cases k
  case id => exact absurd rfl hk
  all_goals rfl

/-- A keyword that looks only at itself reports what is reported by a schema object that has nothing
else but an identifier. -/
theorem report_eq_failures (id : Option String) {k : Keyword} (hid : k ≠ .id) (hself : k.looksAt = [k])
    (hk : ∀ j : Keyword, k ∈ j.looksAt → j = k) (o p : ObjectSchema α) (value : Json) :
    (o.withKeyword k p).report visit frame k value =
      (({ id } : ObjectSchema α).withKeyword k p).failures visit frame value := by
  have hnothing : ({ id } : ObjectSchema α).failures visit frame value = [] := by
    rw [failures_eq_flatMap_report, List.flatMap_eq_nil_iff]
    intro j hj
    exact report_of_lacks (lacks_of_ne_id id (by rintro rfl; exact absurd hj (by decide))) value
  obtain ⟨before, after, hold, hnew⟩ :=
    exists_failures_withKeyword (lacks_of_ne_id id hid) hk p value
  rw [hnothing, eq_comm, List.append_eq_nil_iff] at hold
  rw [hnew, hold.1, hold.2, List.nil_append, List.append_nil, ← report_restrict,
    ← report_restrict (withKeyword _ k p), hself, restrict_singleton_withKeyword,
    restrict_singleton_withKeyword]

/-- Unknown keywords report nothing. -/
theorem failures_extra (o : ObjectSchema α) (extra : List (String × α)) (value : Json) :
    { o with extra }.failures visit frame value = o.failures visit frame value := by
  cases value <;> rfl

/-- A schema object that demands one member, knows another one, and forbids every value. -/
def demanding : ObjectSchema Schema :=
  { objects := { required := some ["c"] }
    properties := some [("a", .boolean true)]
    not := some (.boolean true) }

/-- The same schema object, but without additional members. -/
def closed : ObjectSchema Schema :=
  demanding.withKeyword .additionalProperties { additionalProperties := some (.boolean false) }

end ObjectSchema

/-- Only items, properties and patterns are looked at by other keywords. -/
theorem Keyword.eq_of_mem_looksAt {j k : Keyword} (hk : k ∉ [items, properties, patternProperties])
    (h : k ∈ j.looksAt) : j = k := by
  simp only [List.mem_cons, List.not_mem_nil, or_false, not_or] at hk
  cases j
  case additionalItems =>
    simp only [looksAt, List.mem_cons, List.not_mem_nil, or_false] at h
    exact (h.resolve_left hk.1).symm
  case additionalProperties =>
    simp only [looksAt, List.mem_cons, List.not_mem_nil, or_false] at h
    exact ((h.resolve_left hk.2.1).resolve_left hk.2.2).symm
  all_goals exact (List.mem_singleton.mp h).symm

namespace Pool

open ObjectSchema (demanding closed)

/-- What one keyword reports when a value is validated against a schema object at a place. -/
def report (pool : Pool) (limits : Limits) (place : Place) (o : ObjectSchema Schema) (k : Keyword)
    (value : Json) : List Failure :=
  let node : Node := ⟨place, .object o⟩
  (o.mapPath node.child).report (pool.visit limits.validationDepth limits.validationDepth)
    ((pool.start node).enter o.id) k value

variable {pool : Pool} {limits : Limits} {place : Place} {o p : ObjectSchema Schema} {k : Keyword}
  {value : Json}

/-- A validation against a schema object without reference reports what its keywords do. -/
theorem failures_object (href : o.ref = none) : pool.failures limits ⟨place, .object o⟩ value =
    (o.mapPath (Node.child ⟨place, .object o⟩)).failures
      (pool.visit limits.validationDepth limits.validationDepth)
      ((pool.start ⟨place, .object o⟩).enter o.id) value := by
  rw [failures, visit, nodeFailures]
  dsimp only
  rw [href]

/-- Keywords report independently. A schema object without reference is given a keyword that it lacks,
but for the reference, the identifier and those that other keywords look at. Then all that was reported
is still reported, in its order, and what the new keyword reports is put in at one point. It is what the
keyword reports by itself, unless it looks at others. So no value that was refused is accepted. Unknown
keywords report nothing. -/
theorem failures_withKeyword (pool : Pool) (limits : Limits) (place : Place) (o p : ObjectSchema Schema)
    (k : Keyword) (value : Json) (href : o.ref = none)
    (hk : k ∉ [Keyword.ref, .id, .items, .properties, .patternProperties]) (habsent : o.Lacks k) :
    (∃ before after, pool.failures limits ⟨place, .object o⟩ value = before ++ after ∧
      pool.failures limits ⟨place, .object (o.withKeyword k p)⟩ value =
        before ++ pool.report limits place (o.withKeyword k p) k value ++ after) ∧
    (k.looksAt = [k] → pool.report limits place (o.withKeyword k p) k value = pool.failures limits
      ⟨place, .object (({ id := o.id } : ObjectSchema Schema).withKeyword k p)⟩ value) ∧
    (pool.accepts limits ⟨place, .object (o.withKeyword k p)⟩ value = true →
      pool.accepts limits ⟨place, .object o⟩ value = true) ∧
    ∀ unknown, pool.failures limits ⟨place, .object { o with extra := unknown }⟩ value =
      pool.failures limits ⟨place, .object o⟩ value := by
  simp only [List.mem_cons, List.not_mem_nil, or_false, not_or] at hk
  obtain ⟨hkref, hkid, hothers⟩ := hk
  have hlook (j : Keyword) (hj : k ∈ j.looksAt) : j = k :=
    Keyword.eq_of_mem_looksAt (by simpa using hothers) hj
  have hblock : ∃ before after, pool.failures limits ⟨place, .object o⟩ value = before ++ after ∧
      pool.failures limits ⟨place, .object (o.withKeyword k p)⟩ value =
        before ++ pool.report limits place (o.withKeyword k p) k value ++ after := by
    rw [failures_object href, failures_object ((o.ref_withKeyword hkref p).trans href), report,
      ObjectSchema.mapPath_withKeyword, o.id_withKeyword hkid]
    exact ObjectSchema.exists_failures_withKeyword (habsent.mapPath _) hlook _ value
  refine ⟨hblock, fun hself => ?_, fun haccepts => ?_, fun unknown => ?_⟩
  · rw [failures_object (ObjectSchema.ref_withKeyword _ hkref p), report,
      ObjectSchema.mapPath_withKeyword, ObjectSchema.mapPath_withKeyword, o.id_withKeyword hkid,
      ObjectSchema.id_withKeyword _ hkid]
    exact ObjectSchema.report_eq_failures o.id hkid hself hlook _ _ value
  · obtain ⟨before, after, hold, hnew⟩ := hblock
    rw [accepts, List.isEmpty_iff, hnew, List.append_eq_nil_iff, List.append_eq_nil_iff] at haccepts
    rw [accepts, List.isEmpty_iff, hold, haccepts.1.1, haccepts.2]
    rfl
  · rw [failures_object href, failures_object (o := { o with extra := unknown }) href]
    exact ObjectSchema.failures_extra (o.mapPath (Node.child ⟨place, .object o⟩))
      (unknown.map fun entry => (entry.1, Node.child ⟨place, .object o⟩ [entry.1] entry.2)) value

/-- When no additional members are allowed any more, one failure is put in between those on the missing
member and on the forbidden value. -/
theorem failures_withKeyword_closed :
    let value : Json := .object [("a", .null), ("b", .null)]
    let place : Place := ⟨.main, Pointer.root⟩
    demanding.ref = none ∧
      Keyword.additionalProperties ∉ [Keyword.ref, .id, .items, .properties, .patternProperties] ∧
      demanding.Lacks .additionalProperties ∧
      empty.failures Limits.default ⟨place, .object demanding⟩ value =
        [⟨⟨["c"]⟩, .missingProperty "c"⟩, ⟨Pointer.root, .forbidden⟩] ∧
      empty.failures Limits.default ⟨place, .object closed⟩ value =
        [⟨⟨["c"]⟩, .missingProperty "c"⟩, ⟨⟨["b"]⟩, .neverValid⟩, ⟨Pointer.root, .forbidden⟩] ∧
      ∃ before after, empty.failures Limits.default ⟨place, .object demanding⟩ value = before ++ after ∧
        empty.failures Limits.default ⟨place, .object closed⟩ value =
          before ++ empty.report Limits.default place closed .additionalProperties value ++ after :=
  ⟨rfl, by decide, rfl, rfl, rfl,
    (failures_withKeyword empty Limits.default _ demanding _ .additionalProperties _ rfl (by decide) rfl).1⟩

end Pool

end Draft6
