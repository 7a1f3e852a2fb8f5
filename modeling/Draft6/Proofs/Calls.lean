import Draft6.Proofs.Traversal
import Draft6.Validation
import Mathlib.Data.List.Basic

/-!
# The calls of a visit

A visit asks further visits about parts of the value or about other schemas. The calls listed here
are those that the keywords really make: the search of `contains` makes none behind the first element
that is accepted. What the failures of a keyword owe to its calls is said once for each keyword:
either they are the failures of the calls, or they keep what is structural in them.
-/

namespace Draft6

/-- A further visit that a visit asks for. A reference counts as the keyword that holds it. -/
structure Call (α : Type) where
  keyword : Keyword
  frame : Frame
  schema : α
  value : Json

/-- The failures that a call comes back with. -/
def Call.failures {α : Type} (visit : Visit α) (call : Call α) : List Failure :=
  visit call.frame call.schema call.value

/-- Whether a keyword asks about the visited value itself. The others ask about elements, members or
member names. -/
def Keyword.isInPlace : Keyword → Bool
  | .ref | .dependencies | .allOf | .anyOf | .oneOf | .not => true
  | _ => false

/-- The values that lie directly in a value: elements, members and, as values of their own, member
names. -/
def Json.parts : Json → List Json
  | .array items => items
  | .object members => members.flatMap fun (name, value) => [value, .string name]
  | _ => []

/-- What a call can be about: the visited value in the same frame, or a part of it, where no reference
is being followed yet. -/
inductive Call.Concerns {α : Type} (frame : Frame) (value : Json) (call : Call α) : Prop
  | inPlace (hkeyword : call.keyword.isInPlace = true) (hframe : call.frame = frame)
      (hvalue : call.value = value)
  | part (hkeyword : call.keyword.isInPlace = false) (hscope : call.frame.scope = frame.scope)
      (hactive : call.frame.active = []) (hvalue : call.value ∈ value.parts)

namespace ObjectSchema

variable {α : Type} (visit : Visit α) (frame : Frame) (o : ObjectSchema α)

/-! ## The calls of each keyword -/

/-- The calls for elements that have a schema by their position. -/
def itemCalls (items : List Json) : List (Call α) :=
  (items.mapIdx fun i item => (o.itemSchema? i).toList.map fun schema =>
    ⟨.items, frame.child (toString i), schema, item⟩).flatten

/-- The calls of a search, which ends at the first element that is accepted. -/
def searchCalls (schema : α) (position : Nat) : List Json → List (Call α)
  | [] => []
  | item :: rest =>
    let call : Call α := ⟨.contains, frame.child (toString position), schema, item⟩
    call :: if (call.failures visit).isEmpty then [] else searchCalls schema (position + 1) rest

/-- The calls that look for an element to contain. -/
def containsCalls (items : List Json) : List (Call α) :=
  o.contains.toList.flatMap fun schema => searchCalls visit frame schema 0 items

/-- The calls for members that have a schema of their own. -/
def propertyCalls (members : List (String × Json)) : List (Call α) :=
  members.flatMap fun (name, value) => ((o.properties.getD []).lookup name).toList.map fun schema =>
    ⟨.properties, frame.child name, schema, value⟩

/-- The calls for members whose names match patterns. -/
def patternCalls (members : List (String × Json)) : List (Call α) :=
  members.flatMap fun (name, value) => (o.patternSchemas name).map fun schema =>
    ⟨.patternProperties, frame.child name, schema, value⟩

/-- The calls for additional members. -/
def additionalCalls (members : List (String × Json)) : List (Call α) :=
  o.additionalProperties.toList.flatMap fun schema =>
    (members.filter fun member => o.isAdditional member.1).map fun (name, value) =>
      ⟨.additionalProperties, frame.child name, schema, value⟩

/-- The calls for schemas that members demand of the whole object. -/
def dependencyCalls (members : List (String × Json)) : List (Call α) :=
  ((o.dependencies.getD []).filter fun entry => (members.lookup entry.1).isSome).flatMap
    fun (_, dependency) => dependency.toList.map fun schema =>
      ⟨.dependencies, frame, schema, .object members⟩

/-- The calls for member names. -/
def nameCalls (members : List (String × Json)) : List (Call α) :=
  o.propertyNames.toList.flatMap fun schema => members.map fun (name, _) =>
    ⟨.propertyNames, frame.memberName, schema, .string name⟩

/-- The calls of a keyword that holds a list of schemas for the same value. -/
def listCalls (keyword : Keyword) (schemas : Option (List α)) (value : Json) : List (Call α) :=
  (schemas.getD []).map fun schema => ⟨keyword, frame, schema, value⟩

/-- The call for a schema that must not accept the value. -/
def notCalls (value : Json) : List (Call α) :=
  o.not.toList.map fun schema => ⟨.not, frame, schema, value⟩

/-- The calls of the keywords for one kind of value. -/
def kindCalls (value : Json) : List (Call α) :=
  match value with
  | .array items => o.itemCalls frame items ++ o.containsCalls visit frame items
  | .object members =>
    o.propertyCalls frame members ++ o.patternCalls frame members
      ++ o.additionalCalls frame members ++ o.dependencyCalls frame members
      ++ o.nameCalls frame members
  | _ => []

/-- The calls of all keywords. -/
def calls (value : Json) : List (Call α) :=
  o.kindCalls visit frame value
    ++ listCalls frame .allOf o.allOf value ++ listCalls frame .anyOf o.anyOf value
    ++ listCalls frame .oneOf o.oneOf value ++ o.notCalls frame value

end ObjectSchema

namespace Pool

/-- The calls of a node: the one that its reference leads to, or else those of its keywords. -/
def calls (pool : Pool) (visit : Visit Node) (frame : Frame) (node : Node) (value : Json) :
    List (Call Node) :=
  match node.schema with
  | .boolean _ => []
  | .object o =>
    match o.ref with
    | some reference =>
      match pool.resolve reference frame.scope with
      | .error _ => []
      | .ok target =>
        if frame.active.contains target.node.place then []
        else [⟨.ref, frame.follow target, target.node, value⟩]
    | none => (o.mapPath node.child).calls visit (frame.enter o.id) value

end Pool

/-! ## Which calls there are -/

namespace ObjectSchema

variable {α : Type} (visit : Visit α) (frame : Frame) (o : ObjectSchema α)

/-- An element is asked about when its position has a schema. -/
theorem mem_itemCalls {items : List Json} {call : Call α} :
    call ∈ o.itemCalls frame items ↔ ∃ i item schema, items[i]? = some item ∧
      o.itemSchema? i = some schema ∧
        call = ⟨.items, frame.child (toString i), schema, item⟩ := by
  simp only [itemCalls, List.mem_flatten, List.mem_mapIdx]
  constructor
  · rintro ⟨calls, ⟨i, hi, rfl⟩, hcall⟩
    obtain ⟨schema, hschema, rfl⟩ := List.mem_map.mp hcall
    exact ⟨i, items[i], schema, List.getElem?_eq_getElem hi, by simpa using hschema, rfl⟩
  · rintro ⟨i, item, schema, hitem, hschema, rfl⟩
    obtain ⟨hi, rfl⟩ := List.getElem?_eq_some_iff.mp hitem
    exact ⟨_, ⟨i, hi, rfl⟩, List.mem_map.mpr ⟨schema, by simpa using hschema, rfl⟩⟩

/-- A search asks about elements only. -/
theorem mem_searchCalls {schema : α} {position : Nat} {items : List Json} {call : Call α}
    (h : call ∈ searchCalls visit frame schema position items) :
    ∃ i : Nat, ∃ item ∈ items, call = ⟨.contains, frame.child (toString i), schema, item⟩ := by
  induction items generalizing position with
  | nil => cases h
  | cons item rest ih =>
    rcases List.mem_cons.mp h with rfl | h
    · exact ⟨position, item, List.mem_cons_self, rfl⟩
    · split at h
      · cases h
      · obtain ⟨i, item, hitem, rfl⟩ := ih h
        exact ⟨i, item, List.mem_cons_of_mem _ hitem, rfl⟩

/-- The search for an element to contain asks about elements only. -/
theorem mem_containsCalls {items : List Json} {call : Call α}
    (h : call ∈ o.containsCalls visit frame items) :
    ∃ schema, ∃ i : Nat, ∃ item ∈ items, o.contains = some schema ∧
      call = ⟨.contains, frame.child (toString i), schema, item⟩ := by
  obtain ⟨schema, hschema, h⟩ := List.mem_flatMap.mp h
  obtain ⟨i, item, hitem, rfl⟩ := mem_searchCalls visit frame h
  exact ⟨schema, i, item, hitem, by simpa using hschema, rfl⟩

/-- A member is asked about when its name has a schema. -/
theorem mem_propertyCalls {members : List (String × Json)} {call : Call α} :
    call ∈ o.propertyCalls frame members ↔ ∃ name value schema, (name, value) ∈ members ∧
      (o.properties.getD []).lookup name = some schema ∧
        call = ⟨.properties, frame.child name, schema, value⟩ := by
  simp only [propertyCalls, List.mem_flatMap, List.mem_map, Option.mem_toList, Prod.exists]
  grind

/-- A member is asked about for every pattern that its name matches. -/
theorem mem_patternCalls {members : List (String × Json)} {call : Call α} :
    call ∈ o.patternCalls frame members ↔ ∃ name value schema, (name, value) ∈ members ∧
      schema ∈ o.patternSchemas name ∧
        call = ⟨.patternProperties, frame.child name, schema, value⟩ := by
  simp only [patternCalls, List.mem_flatMap, List.mem_map, Prod.exists]
  grind

/-- A member is asked about as an additional one when nothing else claims it. -/
theorem mem_additionalCalls {members : List (String × Json)} {call : Call α} :
    call ∈ o.additionalCalls frame members ↔ ∃ name value schema, (name, value) ∈ members ∧
      o.isAdditional name = true ∧ o.additionalProperties = some schema ∧
        call = ⟨.additionalProperties, frame.child name, schema, value⟩ := by
  simp only [additionalCalls, List.mem_flatMap, List.mem_map, List.mem_filter,
    Option.mem_toList, Prod.exists]
  grind

/-- The whole object is asked about for every member that demands a schema of it. -/
theorem mem_dependencyCalls {members : List (String × Json)} {call : Call α} :
    call ∈ o.dependencyCalls frame members ↔ ∃ trigger schema,
      (trigger, .schema schema) ∈ o.dependencies.getD [] ∧
        (members.lookup trigger).isSome = true ∧
          call = ⟨.dependencies, frame, schema, .object members⟩ := by
  simp only [dependencyCalls, List.mem_flatMap, List.mem_map, List.mem_filter, Prod.exists]
  constructor
  · rintro ⟨trigger, dependency, ⟨hentry, hpresent⟩, schema, hschema, rfl⟩
    cases dependency with
    | names required => cases hschema
    | schema s => exact ⟨trigger, schema, by simp_all [Dependency.toList], hpresent, rfl⟩
  · rintro ⟨trigger, schema, hentry, hpresent, rfl⟩
    exact ⟨trigger, .schema schema, ⟨hentry, hpresent⟩, schema, List.mem_singleton.mpr rfl, rfl⟩

/-- Every member name is asked about. -/
theorem mem_nameCalls {members : List (String × Json)} {call : Call α} :
    call ∈ o.nameCalls frame members ↔ ∃ name value schema, (name, value) ∈ members ∧
      o.propertyNames = some schema ∧
        call = ⟨.propertyNames, frame.memberName, schema, .string name⟩ := by
  simp only [nameCalls, List.mem_flatMap, List.mem_map, Option.mem_toList, Prod.exists]
  grind

/-- The value is asked about for every schema of the list. -/
theorem mem_listCalls {keyword : Keyword} {schemas : Option (List α)} {value : Json}
    {call : Call α} :
    call ∈ listCalls frame keyword schemas value ↔
      ∃ schema ∈ schemas.getD [], call = ⟨keyword, frame, schema, value⟩ := by
  simp only [listCalls, List.mem_map, eq_comm]

/-- The value is asked about for the schema that must not accept it. -/
theorem mem_notCalls {value : Json} {call : Call α} :
    call ∈ o.notCalls frame value ↔
      ∃ schema, o.not = some schema ∧ call = ⟨.not, frame, schema, value⟩ := by
  simp only [notCalls, List.mem_map, Option.mem_toList, eq_comm]

/-- The schema for an element is one of the sub-schemas. -/
theorem mem_toList_of_itemSchema? {position : Nat} {schema : α}
    (h : o.itemSchema? position = some schema) : schema ∈ o.toList := by
  have hitems : schema ∈ (o.items.map Items.toList).getD [] ∨ o.additionalItems = some schema := by
    rw [itemSchema?] at h
    cases hitems : o.items with
    | none => simp [hitems] at h
    | some items =>
      cases items with
      | all s => simp_all [Items.toList]
      | each schemas =>
        simp only [hitems, Option.orElse_eq_orElse, Option.orElse_eq_or, Option.or_eq_some_iff] at h
        rcases h with h | ⟨_, h⟩
        · exact .inl (by simpa [Items.toList] using List.mem_of_getElem? h)
        · exact .inr h
  rcases hitems with h | h <;> simp [toList, h]

/-- The schemas of patterns are among the sub-schemas. -/
theorem mem_toList_of_mem_patternSchemas {name : String} {schema : α}
    (h : schema ∈ o.patternSchemas name) : schema ∈ o.toList := by
  obtain ⟨entry, hentry, rfl⟩ := List.mem_map.mp h
  have hmem : entry.2 ∈ (o.patternProperties.getD []).map Prod.snd :=
    List.mem_map_of_mem (List.mem_of_mem_filter hentry)
  simp only [toList, List.mem_append, hmem, true_or, or_true]

/-- The schemas that members demand of the whole object are among the sub-schemas. -/
theorem mem_toList_of_mem_dependencies {trigger : String} {schema : α}
    (h : (trigger, .schema schema) ∈ o.dependencies.getD []) : schema ∈ o.toList := by
  have hmem : schema ∈ (o.dependencies.getD []).flatMap fun entry => entry.2.toList :=
    List.mem_flatMap.mpr ⟨_, h, List.mem_singleton.mpr rfl⟩
  simp only [toList, List.mem_append, hmem, true_or, or_true]

/-- The keywords for one kind of value ask sub-schemas, about parts of the value or the whole of it. -/
theorem of_mem_kindCalls {value : Json} {call : Call α}
    (h : call ∈ o.kindCalls visit frame value) :
    call.schema ∈ o.toList ∧ call.Concerns frame value := by
  cases value with
  | null | bool | number | string => cases h
  | array items =>
    rcases List.mem_append.mp h with h | h
    · obtain ⟨i, item, schema, hitem, hschema, rfl⟩ := (o.mem_itemCalls frame).mp h
      exact ⟨o.mem_toList_of_itemSchema? hschema, .part rfl rfl rfl (List.mem_of_getElem? hitem)⟩
    · obtain ⟨schema, i, item, hitem, hschema, rfl⟩ := o.mem_containsCalls visit frame h
      exact ⟨by simp [toList, hschema], .part rfl rfl rfl hitem⟩
  | object members =>
    have hmember {name : String} {value : Json} (hmem : (name, value) ∈ members) :
        value ∈ (Json.object members).parts ∧ .string name ∈ (Json.object members).parts := by
      constructor <;> exact List.mem_flatMap.mpr ⟨(name, value), hmem, by simp⟩
    simp only [kindCalls, List.mem_append] at h
    rcases h with (((h | h) | h) | h) | h
    · obtain ⟨name, value, schema, hmem, hschema, rfl⟩ := (o.mem_propertyCalls frame).mp h
      obtain ⟨before, after, hentries, _⟩ := List.lookup_eq_some_iff.mp hschema
      exact ⟨by simp [toList, hentries], .part rfl rfl rfl (hmember hmem).1⟩
    · obtain ⟨name, value, schema, hmem, hschema, rfl⟩ := (o.mem_patternCalls frame).mp h
      exact ⟨o.mem_toList_of_mem_patternSchemas hschema, .part rfl rfl rfl (hmember hmem).1⟩
    · obtain ⟨name, value, schema, hmem, _, hschema, rfl⟩ := (o.mem_additionalCalls frame).mp h
      exact ⟨by simp [toList, hschema], .part rfl rfl rfl (hmember hmem).1⟩
    · obtain ⟨trigger, schema, hentry, _, rfl⟩ := (o.mem_dependencyCalls frame).mp h
      exact ⟨o.mem_toList_of_mem_dependencies hentry, .inPlace rfl rfl rfl⟩
    · obtain ⟨name, value, schema, hmem, hschema, rfl⟩ := (o.mem_nameCalls frame).mp h
      exact ⟨by simp [toList, hschema], .part rfl rfl rfl (hmember hmem).2⟩

/-- A visit asks sub-schemas, about the value in the same frame or about its parts. -/
theorem of_mem_calls {value : Json} {call : Call α} (h : call ∈ o.calls visit frame value) :
    call.schema ∈ o.toList ∧ call.Concerns frame value := by
  have hlist {keyword : Keyword} {schemas : Option (List α)} (hkeyword : keyword.isInPlace = true)
      (hsub : schemas.getD [] ⊆ o.toList) (h : call ∈ listCalls frame keyword schemas value) :
      call.schema ∈ o.toList ∧ call.Concerns frame value := by
    obtain ⟨schema, hschema, rfl⟩ := (mem_listCalls frame).mp h
    exact ⟨hsub hschema, .inPlace hkeyword rfl rfl⟩
  simp only [calls, List.mem_append] at h
  rcases h with (((h | h) | h) | h) | h
  · exact o.of_mem_kindCalls visit frame h
  · exact hlist rfl (fun schema hschema => by simp [toList, hschema]) h
  · exact hlist rfl (fun schema hschema => by simp [toList, hschema]) h
  · exact hlist rfl (fun schema hschema => by simp [toList, hschema]) h
  · obtain ⟨schema, hschema, rfl⟩ := (o.mem_notCalls frame).mp h
    exact ⟨by simp [toList, hschema], .inPlace rfl rfl rfl⟩

/-- A call about the value itself has the frame of the schema that makes it. -/
theorem of_isInPlace {value : Json} {call : Call α} (h : call ∈ o.calls visit frame value)
    (hplace : call.keyword.isInPlace = true) : call.frame = frame ∧ call.value = value := by
  cases (o.of_mem_calls visit frame h).2 with
  | inPlace _ hframe hvalue => exact ⟨hframe, hvalue⟩
  | part hkeyword =>
    rw [hkeyword] at hplace
    cases hplace

/-- A call is about the same value, a part of it or a member name, so the base in effect stays. -/
theorem scope_of_mem_calls {value : Json} {call : Call α}
    (h : call ∈ o.calls visit frame value) : call.frame.scope = frame.scope := by
  cases (o.of_mem_calls visit frame h).2 with
  | inPlace _ hframe => rw [hframe]
  | part _ hscope => exact hscope

end ObjectSchema

namespace Pool

/-- What a call of a node can be: it follows the reference of the node, or it asks a schema below the
node, where the identifier of the node has changed the base. -/
inductive Asks (pool : Pool) (frame : Frame) (node : Node) (value : Json) (call : Call Node) : Prop
  | reference (o : ObjectSchema Schema) (hschema : node.schema = .object o) (reference : String)
      (href : o.ref = some reference) (target : Entry)
      (htarget : pool.resolve reference frame.scope = .ok target)
      (hactive : target.node.place ∉ frame.active)
      (hcall : call = ⟨.ref, frame.follow target, target.node, value⟩)
  | keyword (o : ObjectSchema Schema) (hschema : node.schema = .object o) (href : o.ref = none)
      (hchild : call.schema ∈ node.children) (hconcerns : call.Concerns (frame.enter o.id) value)

/-- A call of a node follows its reference or asks a schema below it. -/
theorem asks_of_mem_calls {pool : Pool} {visit : Visit Node} {frame : Frame} {node : Node}
    {value : Json} {call : Call Node} (h : call ∈ pool.calls visit frame node value) :
    pool.Asks frame node value call := by
  cases hschema : node.schema with
  | boolean answer => simp [calls, hschema] at h
  | object o =>
    simp only [calls, hschema] at h
    cases href : o.ref with
    | none =>
      rw [href] at h
      obtain ⟨hchild, hconcerns⟩ := ObjectSchema.of_mem_calls _ _ _ h
      refine .keyword o hschema href ?_ hconcerns
      rw [ObjectSchema.toList_mapPath] at hchild
      simpa [Node.children, Schema.children, hschema] using hchild
    | some reference =>
      simp only [href] at h
      cases htarget : pool.resolve reference frame.scope with
      | error error => simp [htarget] at h
      | ok target =>
        simp only [htarget] at h
        by_cases hactive : frame.active.contains target.node.place
        · rw [if_pos hactive] at h
          cases h
        · rw [if_neg hactive, List.mem_singleton] at h
          exact .reference o hschema reference href target htarget (by simpa using hactive) h

end Pool

/-! ## What the failures of a visit owe to its calls -/

@[simp] theorem structural_nil : structural [] = [] := rfl

@[simp] theorem structural_append (left right : List Failure) :
    structural (left ++ right) = structural left ++ structural right :=
  List.filter_append left right

/-- Dropping the ordinary failures commutes with running through a list. -/
theorem structural_flatMap {β : Type} (f : β → List Failure) (xs : List β) :
    structural (xs.flatMap f) = xs.flatMap fun x => structural (f x) :=
  List.filter_flatMap

/-- What is structural already stays. -/
@[simp] theorem structural_structural (failures : List Failure) :
    structural (structural failures) = structural failures := by
  simp [structural]

/-- Failures with ordinary causes leave nothing structural. -/
theorem structural_eq_nil {failures : List Failure}
    (h : ∀ failure ∈ failures, failure.cause.isStructural = false) : structural failures = [] :=
  List.filter_eq_nil_iff.mpr fun failure hf => by simp [Failure.isStructural, h failure hf]

/-- One failure with an ordinary cause leaves nothing structural. -/
theorem structural_failure (frame : Frame) {cause : Cause} (h : cause.isStructural = false) :
    structural [frame.failure cause] = [] :=
  structural_eq_nil (by simpa [Frame.failure] using h)

/-- Running through the results of a numbered list can be done at each position. -/
theorem flatMap_flatten_mapIdx {α β γ : Type} (f : Nat → α → List β) (g : β → List γ)
    (xs : List α) :
    (xs.mapIdx f).flatten.flatMap g = (xs.mapIdx fun i x => (f i x).flatMap g).flatten := by
  induction xs generalizing f with
  | nil => rfl
  | cons x rest ih =>
    simp only [List.mapIdx_cons, List.flatten_cons, List.flatMap_append, ih]

namespace ObjectSchema

variable {α : Type} (visit : Visit α) (frame : Frame) (o : ObjectSchema α)

/-- The failures of elements are those of their calls. -/
theorem itemFailures_eq (items : List Json) :
    o.itemFailures visit frame items =
      (o.itemCalls frame items).flatMap (Call.failures visit) := by
  rw [itemFailures, itemCalls, flatMap_flatten_mapIdx]
  congr 2
  funext i item
  cases o.itemSchema? i <;> simp [Call.failures]

/-- The failures of members with a schema of their own are those of their calls. -/
theorem propertyFailures_eq (members : List (String × Json)) :
    o.propertyFailures visit frame members =
      (o.propertyCalls frame members).flatMap (Call.failures visit) := by
  rw [propertyFailures, propertyCalls, List.flatMap_assoc]
  congr 1
  funext ⟨name, value⟩
  cases h : (o.properties.getD []).lookup name <;> simp [h, Call.failures]

/-- The failures of members whose names match patterns are those of their calls. -/
theorem patternFailures_eq (members : List (String × Json)) :
    o.patternFailures visit frame members =
      (o.patternCalls frame members).flatMap (Call.failures visit) := by
  rw [patternFailures, patternCalls, List.flatMap_assoc]
  congr 1
  funext ⟨name, value⟩
  simp only [List.flatMap_map, Call.failures]

/-- The failures of additional members are those of their calls. -/
theorem additionalFailures_eq (members : List (String × Json)) :
    o.additionalFailures visit frame members =
      (o.additionalCalls frame members).flatMap (Call.failures visit) := by
  rw [additionalFailures, additionalCalls]
  cases o.additionalProperties with
  | none => rfl
  | some schema =>
    simp only [Option.toList_some, List.flatMap_singleton, List.flatMap_map]
    induction members with
    | nil => rfl
    | cons member rest ih =>
      obtain ⟨name, value⟩ := member
      cases hn : o.isAdditional name <;> simp [hn, ih, Call.failures]

/-- The failures of schemas that must all accept the value are those of their calls. -/
theorem allOfFailures_eq (value : Json) :
    o.allOfFailures visit frame value =
      (listCalls frame .allOf o.allOf value).flatMap (Call.failures visit) := by
  simp only [allOfFailures, listCalls, List.flatMap_map, Call.failures]

/-- Demands of members on the whole object are met when no member is missing and no call fails. -/
theorem dependencyFailures_eq_nil_iff (members : List (String × Json)) :
    o.dependencyFailures visit frame members = [] ↔
      (∀ trigger required, (trigger, .names required) ∈ o.dependencies.getD [] →
        (members.lookup trigger).isSome = true → missingFailures frame members required = []) ∧
      ∀ call ∈ o.dependencyCalls frame members, call.failures visit = [] := by
  rw [dependencyFailures, List.flatMap_eq_nil_iff]
  constructor
  · refine fun h => ⟨fun trigger required hentry hpresent => ?_, fun call hcall => ?_⟩
    · have hnone := h (trigger, .names required) hentry
      dsimp only at hnone
      rwa [if_neg (by simpa using hpresent)] at hnone
    · obtain ⟨trigger, schema, hentry, hpresent, rfl⟩ := (o.mem_dependencyCalls frame).mp hcall
      have hnone := h (trigger, .schema schema) hentry
      dsimp only at hnone
      rwa [if_neg (by simpa using hpresent)] at hnone
  · rintro ⟨hnames, hcalls⟩ ⟨trigger, dependency⟩ hentry
    dsimp only
    split
    · rfl
    · next hpresent =>
      have hsome : (members.lookup trigger).isSome = true := by simpa using hpresent
      cases dependency with
      | names required => exact hnames trigger required hentry hsome
      | schema schema =>
        exact hcalls _ ((o.mem_dependencyCalls frame).mpr ⟨trigger, schema, hentry, hsome, rfl⟩)

/-- Member names are as their schema demands when no call fails. -/
theorem nameFailures_eq_nil_iff (members : List (String × Json)) :
    o.nameFailures visit frame members = [] ↔
      ∀ call ∈ o.nameCalls frame members, call.failures visit = [] := by
  rw [nameFailures, nameCalls]
  cases o.propertyNames with
  | none => simp
  | some schema =>
    simp only [List.flatMap_eq_nil_iff, Option.toList_some, List.flatMap_singleton,
      List.forall_mem_map, Call.failures]
    refine forall₂_congr fun member _ => ?_
    split
    · next h => exact iff_of_true rfl (List.isEmpty_iff.mp h)
    · next h => exact iff_of_false (List.cons_ne_nil _ _) fun hnil => h (List.isEmpty_iff.mpr hnil)

/-- Members that are not there leave nothing structural. -/
theorem structural_missingFailures (members : List (String × Json)) (names : List String) :
    structural (missingFailures frame members names) = [] := by
  refine structural_eq_nil fun failure hf => ?_
  obtain ⟨name, _, rfl⟩ := List.mem_map.mp hf
  rfl

/-- A broken rule has the cause that stands for it. -/
theorem brokenBy_ordinary {ρ : Type} (rule? : Option ρ) (broken : ρ → Bool) (cause : ρ → Cause)
    (h : ∀ rule, (cause rule).isStructural = false) :
    ∀ c ∈ brokenBy rule? broken cause, c.isStructural = false := by
  intro c hc
  cases rule? with
  | none => cases hc
  | some rule =>
    simp only [brokenBy] at hc
    split at hc
    · rw [List.mem_singleton.mp hc, h rule]
    · cases hc

/-- No rule for one kind of value is about references or levels. -/
theorem brokenFacets_ordinary (value : Json) :
    ∀ cause ∈ o.brokenFacets value, cause.isStructural = false := by
  intro cause hcause
  cases value with
  | null | bool => cases hcause
  | number n =>
    simp only [brokenFacets, NumberRules.broken, List.mem_append] at hcause
    rcases hcause with (((h | h) | h) | h) | h <;>
      exact brokenBy_ordinary _ _ _ (fun _ => rfl) cause h
  | string s =>
    simp only [brokenFacets, StringRules.broken, List.mem_append] at hcause
    rcases hcause with (h | h) | h <;> exact brokenBy_ordinary _ _ _ (fun _ => rfl) cause h
  | array items =>
    simp only [brokenFacets, ArrayRules.broken, List.mem_append] at hcause
    rcases hcause with (h | h) | h
    · exact brokenBy_ordinary _ _ _ (fun _ => rfl) cause h
    · exact brokenBy_ordinary _ _ _ (fun _ => rfl) cause h
    · split at h
      · obtain ⟨item, _, rfl⟩ := List.mem_map.mp h
        rfl
      · cases h
  | object members =>
    simp only [brokenFacets, ObjectRules.broken, List.mem_append] at hcause
    rcases hcause with h | h <;> exact brokenBy_ordinary _ _ _ (fun _ => rfl) cause h

/-- Rules for one kind of value leave nothing structural. -/
@[simp] theorem structural_facetFailures (value : Json) :
    structural (o.facetFailures frame value) = [] := by
  refine structural_eq_nil fun failure hf => ?_
  obtain ⟨cause, hcause, rfl⟩ := List.mem_map.mp hf
  exact o.brokenFacets_ordinary value cause hcause

/-- The type, the enumeration and the constant leave nothing structural. -/
@[simp] theorem structural_valueFailures (value : Json) :
    structural (o.typeFailures frame value ++ o.enumFailures frame value
      ++ o.constFailures frame value) = [] := by
  simp only [structural_append, List.append_eq_nil_iff]
  refine ⟨⟨?_, ?_⟩, ?_⟩
  · unfold typeFailures
    split
    · rfl
    · exact structural_failure frame rfl
  · unfold enumFailures
    split
    · split
      · rfl
      · exact structural_failure frame rfl
    · rfl
  · unfold constFailures
    split
    · split
      · rfl
      · exact structural_failure frame rfl
    · rfl

/-- A search hands on what is structural in the failures of its calls. -/
theorem structural_searchItems (schema : α) (position : Nat) (items : List Json) :
    structural (searchItems visit frame schema position items) =
      (searchCalls visit frame schema position items).flatMap fun call =>
        structural (call.failures visit) := by
  induction items generalizing position with
  | nil => exact structural_failure frame rfl
  | cons item rest ih =>
    rw [searchItems, searchCalls, List.flatMap_cons]
    change structural (if (visit (frame.child (toString position)) schema item).isEmpty then _
      else _) = structural (visit (frame.child (toString position)) schema item) ++
        List.flatMap _ (if (visit (frame.child (toString position)) schema item).isEmpty then _
          else _)
    by_cases h : (visit (frame.child (toString position)) schema item).isEmpty
    · rw [if_pos h, if_pos h, List.isEmpty_iff.mp h]
      rfl
    · rw [if_neg h, if_neg h, structural_append, structural_structural, ih (position + 1)]

/-- The keyword that looks for an element hands on what is structural. -/
theorem structural_containsFailures (items : List Json) :
    structural (o.containsFailures visit frame items) =
      (o.containsCalls visit frame items).flatMap fun call => structural (call.failures visit) := by
  rw [containsFailures, containsCalls]
  cases o.contains with
  | none => rfl
  | some schema => simpa using structural_searchItems visit frame schema 0 items

/-- Demands of members on the whole object hand on what is structural. -/
theorem structural_dependencyFailures (members : List (String × Json)) :
    structural (o.dependencyFailures visit frame members) =
      (o.dependencyCalls frame members).flatMap fun call => structural (call.failures visit) := by
  rw [dependencyFailures, dependencyCalls]
  induction o.dependencies.getD [] with
  | nil => rfl
  | cons entry rest ih =>
    obtain ⟨trigger, dependency⟩ := entry
    simp only [List.flatMap_cons, structural_append, ih]
    cases h : members.lookup trigger with
    | none => simp [h]
    | some value =>
      cases dependency <;>
        simp [h, structural_missingFailures, Dependency.toList, Call.failures]

/-- Failures about member names stay behind, structural or not. -/
theorem structural_nameFailures (members : List (String × Json)) :
    structural (o.nameFailures visit frame members) = [] := by
  rw [nameFailures]
  cases o.propertyNames with
  | none => rfl
  | some schema =>
    rw [structural_flatMap, List.flatMap_eq_nil_iff]
    intro member _
    dsimp only
    split
    · rfl
    · exact structural_failure frame rfl

/-- Schemas one of which must accept the value hand on what is structural. -/
theorem structural_anyOfFailures (value : Json) :
    structural (o.anyOfFailures visit frame value) =
      (listCalls frame .anyOf o.anyOf value).flatMap fun call =>
        structural (call.failures visit) := by
  simp only [anyOfFailures, listCalls, List.flatMap_map, ← List.flatMap_def, Call.failures]
  split <;> simp only [structural_structural, structural_flatMap]

/-- Schemas exactly one of which must accept the value hand on what is structural. -/
theorem structural_oneOfFailures (value : Json) :
    structural (o.oneOfFailures visit frame value) =
      (listCalls frame .oneOf o.oneOf value).flatMap fun call =>
        structural (call.failures visit) := by
  rw [oneOfFailures, listCalls, List.flatMap_map]
  cases o.oneOf with
  | none => rfl
  | some schemas =>
    simp only [Option.getD_some, structural_append, structural_structural, Call.failures,
      ← List.flatMap_def, structural_flatMap]
    split
    · rw [structural_failure frame rfl, List.append_nil]
    · exact List.append_nil _
    · rw [structural_failure frame rfl, List.append_nil]

/-- A schema that must not accept the value hands on what is structural. -/
theorem structural_notFailures (value : Json) :
    structural (o.notFailures visit frame value) =
      (o.notCalls frame value).flatMap fun call => structural (call.failures visit) := by
  rw [notFailures, notCalls]
  cases o.not with
  | none => rfl
  | some schema =>
    simp only [Option.toList_some, List.map_singleton, List.flatMap_singleton, Call.failures]
    split
    · next h => rw [List.isEmpty_iff.mp h]; exact structural_failure frame rfl
    · exact structural_structural _

end ObjectSchema

end Draft6
