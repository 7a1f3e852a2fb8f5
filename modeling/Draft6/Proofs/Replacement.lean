import Draft6.Proofs.Calls

/-!
# Replaced sub-schemas

A schema object looks at its sub-schemas only through visits. So when others take their places, it makes
the same calls about these, and it reports the same when visits of these do.
-/

namespace Draft6

/-- A visit of what takes the places of schemas. -/
def Visit.of {α β : Type} (f : α → β) (visit : Visit β) : Visit α := fun frame schema => visit frame (f schema)

/-- The call for what takes the place of its schema. -/
def Call.map {α β : Type} (f : α → β) (call : Call α) : Call β :=
  ⟨call.keyword, call.frame, f call.schema, call.value⟩

namespace ObjectSchema

variable {α β : Type} (f : α → β) (visit : Visit β) (frame : Frame) (o : ObjectSchema α)

/-! ## Where sub-schemas stand -/

/-- The schema for an element is replaced where it stands. -/
theorem itemSchema?_map (position : Nat) :
    (o.map f).itemSchema? position = (o.itemSchema? position).map f := by
  have hitems : (o.map f).items = o.items.map (Items.mapPath fun _ => f) := rfl
  have hadditional : (o.map f).additionalItems = o.additionalItems.map f := rfl
  rw [itemSchema?, itemSchema?, hitems, hadditional]
  rcases o.items with _ | (schema | schemas)
  · rfl
  · rfl
  · simp only [Option.map_some, Items.mapPath, Schema.mapIdx_eq_map, List.getElem?_map]
    cases schemas[position]? <;> rfl

/-- The schemas of patterns are replaced where they stand. -/
theorem patternSchemas_map (name : String) :
    (o.map f).patternSchemas name = (o.patternSchemas name).map f := by
  have hpatterns : (o.map f).patternProperties.getD [] =
      (o.patternProperties.getD []).map fun entry => (entry.1, f entry.2) := by
    rw [map, mapPath]
    cases o.patternProperties <;> rfl
  rw [patternSchemas, patternSchemas, hpatterns, List.filter_map, List.map_map, List.map_map]
  rfl

/-- The same members are additional. -/
theorem isAdditional_map (name : String) : (o.map f).isAdditional name = o.isAdditional name := by
  rw [isAdditional, isAdditional, map, lookup_properties_mapPath, ← map, patternSchemas_map, Option.isNone_map,
    List.isEmpty_map]

/-- What members demand is replaced where it stands. -/
theorem dependencies_map : (o.map f).dependencies.getD [] = (o.dependencies.getD []).map fun entry =>
    (entry.1, entry.2.mapPath (fun _ => f) entry.1) := by
  rw [map, mapPath]
  cases o.dependencies <;> rfl

/-- The schemas of a list are replaced where they stand. -/
theorem getD_mapList (keyword : Keyword) (schemas : Option (List α)) :
    (schemas.map (mapList (fun _ => f) keyword)).getD [] = (schemas.getD []).map f := by
  cases schemas with
  | none => rfl
  | some schemas => exact Schema.mapIdx_eq_map f schemas

/-! ## Calls -/

/-- The calls for elements are those for what takes the places of their schemas. -/
theorem itemCalls_map (items : List Json) :
    (o.map f).itemCalls frame items = (o.itemCalls frame items).map (Call.map f) := by
  rw [itemCalls, itemCalls, List.map_flatten, ← Schema.mapIdx_eq_map, List.mapIdx_mapIdx]
  congr 2
  funext i item
  rw [itemSchema?_map]
  cases o.itemSchema? i <;> rfl

/-- A search makes the calls for what takes the place of its schema. -/
theorem searchCalls_map (schema : α) (position : Nat) (items : List Json) :
    searchCalls visit frame (f schema) position items =
      (searchCalls (Visit.of f visit) frame schema position items).map (Call.map f) := by
  induction items generalizing position with
  | nil => rfl
  | cons item rest ih =>
    rw [searchCalls, searchCalls, List.map_cons, ih]
    congr 1
    rw [apply_ite (List.map (Call.map f))]
    rfl

/-- The calls that look for an element are those for what takes the place of the schema. -/
theorem containsCalls_map (items : List Json) : (o.map f).containsCalls visit frame items =
    (o.containsCalls (Visit.of f visit) frame items).map (Call.map f) := by
  have hcontains : (o.map f).contains = o.contains.map f := rfl
  rw [containsCalls, containsCalls, hcontains]
  cases o.contains with
  | none => rfl
  | some schema =>
    simp only [Option.map_some, Option.toList_some, List.flatMap_singleton]
    exact searchCalls_map f visit frame schema 0 items

/-- The calls for members with a schema of their own are those for what takes its place. -/
theorem propertyCalls_map (members : List (String × Json)) :
    (o.map f).propertyCalls frame members = (o.propertyCalls frame members).map (Call.map f) := by
  rw [propertyCalls, propertyCalls, List.map_flatMap]
  refine List.flatMap_congr fun member _ => ?_
  dsimp only
  rw [map, lookup_properties_mapPath]
  cases (o.properties.getD []).lookup member.1 <;> rfl

/-- The calls for members whose names match patterns are those for what takes the places of the
schemas. -/
theorem patternCalls_map (members : List (String × Json)) :
    (o.map f).patternCalls frame members = (o.patternCalls frame members).map (Call.map f) := by
  rw [patternCalls, patternCalls, List.map_flatMap]
  refine List.flatMap_congr fun member _ => ?_
  dsimp only
  rw [patternSchemas_map, List.map_map, List.map_map]
  rfl

/-- The calls for additional members are those for what takes the place of their schema. -/
theorem additionalCalls_map (members : List (String × Json)) :
    (o.map f).additionalCalls frame members = (o.additionalCalls frame members).map (Call.map f) := by
  have hadditional : (o.map f).additionalProperties = o.additionalProperties.map f := rfl
  simp only [additionalCalls, hadditional, isAdditional_map]
  cases o.additionalProperties with
  | none => rfl
  | some schema =>
    simp only [Option.map_some, Option.toList_some, List.flatMap_singleton, List.map_map]
    rfl

/-- The calls for schemas that members demand are those for what takes their places. -/
theorem dependencyCalls_map (members : List (String × Json)) :
    (o.map f).dependencyCalls frame members = (o.dependencyCalls frame members).map (Call.map f) := by
  rw [dependencyCalls, dependencyCalls, dependencies_map, List.filter_map, List.flatMap_map,
    List.map_flatMap]
  refine List.flatMap_congr fun entry _ => ?_
  obtain ⟨trigger, dependency⟩ := entry
  cases dependency <;> rfl

/-- The calls for member names are those for what takes the place of their schema. -/
theorem nameCalls_map (members : List (String × Json)) :
    (o.map f).nameCalls frame members = (o.nameCalls frame members).map (Call.map f) := by
  have hnames : (o.map f).propertyNames = o.propertyNames.map f := rfl
  rw [nameCalls, nameCalls, hnames]
  cases o.propertyNames with
  | none => rfl
  | some schema =>
    simp only [Option.map_some, Option.toList_some, List.flatMap_singleton, List.map_map]
    rfl

/-- The calls of a list of schemas are those for what takes their places. -/
theorem listCalls_map (keyword : Keyword) (schemas : Option (List α)) (value : Json) :
    listCalls frame keyword (schemas.map (mapList (fun _ => f) keyword)) value =
      (listCalls frame keyword schemas value).map (Call.map f) := by
  rw [listCalls, listCalls, getD_mapList, List.map_map, List.map_map]
  rfl

/-- The call for a schema that must not accept the value is the one for what takes its place. -/
theorem notCalls_map (value : Json) :
    (o.map f).notCalls frame value = (o.notCalls frame value).map (Call.map f) := by
  have hnot : (o.map f).not = o.not.map f := rfl
  rw [notCalls, notCalls, hnot]
  cases o.not <;> rfl

/-- The calls of the keywords for one kind of value are those for what takes the places of the
sub-schemas. -/
theorem kindCalls_map (value : Json) : (o.map f).kindCalls visit frame value =
    (o.kindCalls (Visit.of f visit) frame value).map (Call.map f) := by
  cases value with
  | null | bool | number | string => rfl
  | array items =>
    simp only [kindCalls, List.map_append, itemCalls_map, containsCalls_map]
  | object members =>
    simp only [kindCalls, List.map_append, propertyCalls_map, patternCalls_map, additionalCalls_map,
      dependencyCalls_map, nameCalls_map]

/-- The calls of a schema object are those for what takes the places of its sub-schemas. -/
theorem calls_map (value : Json) : (o.map f).calls visit frame value =
    (o.calls (Visit.of f visit) frame value).map (Call.map f) := by
  have hall := listCalls_map f frame .allOf o.allOf value
  have hany := listCalls_map f frame .anyOf o.anyOf value
  have hone := listCalls_map f frame .oneOf o.oneOf value
  simp only [calls, List.map_append, kindCalls_map, notCalls_map, ← hall, ← hany, ← hone]
  rfl

/-! ## Reports -/

/-- The calls for what takes the places of schemas come back with the failures of its visits. -/
theorem flatMap_failures_map (calls : List (Call α)) :
    (calls.map (Call.map f)).flatMap (Call.failures visit) =
      calls.flatMap (Call.failures (Visit.of f visit)) :=
  List.flatMap_map _ _ calls

/-- A search reports what it reports of what takes the place of its schema. -/
theorem searchItems_map (schema : α) (position : Nat) (items : List Json) :
    searchItems visit frame (f schema) position items =
      searchItems (Visit.of f visit) frame schema position items := by
  induction items generalizing position with
  | nil => rfl
  | cons item rest ih =>
    rw [searchItems, searchItems, ih]
    rfl

/-- The keywords for one kind of value report what they report of what takes the places of the
sub-schemas. -/
theorem kindFailures_map (value : Json) : (o.map f).kindFailures visit frame value =
    o.kindFailures (Visit.of f visit) frame value := by
  have hfacets : (o.map f).facetFailures frame value = o.facetFailures frame value := rfl
  cases value with
  | null | bool | number | string => exact hfacets
  | array items =>
    have hcontains : (o.map f).containsFailures visit frame items =
        o.containsFailures (Visit.of f visit) frame items := by
      have hschema : (o.map f).contains = o.contains.map f := rfl
      rw [containsFailures.eq_def, containsFailures.eq_def, hschema]
      cases o.contains with
      | none => rfl
      | some schema => exact searchItems_map f visit frame schema 0 items
    simp only [kindFailures, hfacets, hcontains, itemFailures_eq, itemCalls_map, flatMap_failures_map]
  | object members =>
    have hrequired : (o.map f).requiredFailures frame members = o.requiredFailures frame members := rfl
    have hdependencies : (o.map f).dependencyFailures visit frame members =
        o.dependencyFailures (Visit.of f visit) frame members := by
      rw [dependencyFailures, dependencyFailures, dependencies_map, List.flatMap_map]
      refine List.flatMap_congr fun entry _ => ?_
      obtain ⟨trigger, dependency⟩ := entry
      cases dependency <;> rfl
    have hnames : (o.map f).nameFailures visit frame members =
        o.nameFailures (Visit.of f visit) frame members := by
      have hschema : (o.map f).propertyNames = o.propertyNames.map f := rfl
      rw [nameFailures.eq_def, nameFailures.eq_def, hschema]
      cases o.propertyNames <;> rfl
    simp only [kindFailures, hfacets, hrequired, hdependencies, hnames, propertyFailures_eq,
      propertyCalls_map, patternFailures_eq, patternCalls_map, additionalFailures_eq,
      additionalCalls_map, flatMap_failures_map]

/-- A schema object reports what it reports of what takes the places of its sub-schemas. -/
theorem failures_map (value : Json) :
    (o.map f).failures visit frame value = o.failures (Visit.of f visit) frame value := by
  have hall : (o.map f).allOfFailures visit frame value =
      o.allOfFailures (Visit.of f visit) frame value := by
    have hschemas : (o.map f).allOf.getD [] = (o.allOf.getD []).map f := getD_mapList f .allOf o.allOf
    rw [allOfFailures, allOfFailures, hschemas, List.flatMap_map]
    rfl
  have hany : (o.map f).anyOfFailures visit frame value =
      o.anyOfFailures (Visit.of f visit) frame value := by
    have hschemas : (o.map f).anyOf.getD [] = (o.anyOf.getD []).map f := getD_mapList f .anyOf o.anyOf
    rw [anyOfFailures, anyOfFailures, hschemas, List.map_map]
    rfl
  have hone : (o.map f).oneOfFailures visit frame value =
      o.oneOfFailures (Visit.of f visit) frame value := by
    have hschemas : (o.map f).oneOf = o.oneOf.map (List.map f) := by
      rw [map, mapPath]
      exact congrArg (Option.map · o.oneOf) (funext fun schemas => Schema.mapIdx_eq_map f schemas)
    rw [oneOfFailures.eq_def, oneOfFailures.eq_def, hschemas]
    cases o.oneOf with
    | none => rfl
    | some schemas =>
      simp only [Option.map_some, List.map_map]
      rfl
  have hnot : (o.map f).notFailures visit frame value =
      o.notFailures (Visit.of f visit) frame value := by
    have hschema : (o.map f).not = o.not.map f := rfl
    rw [notFailures.eq_def, notFailures.eq_def, hschema]
    cases o.not <;> rfl
  rw [failures, failures, kindFailures_map, hall, hany, hone, hnot]
  rfl

end ObjectSchema

end Draft6
