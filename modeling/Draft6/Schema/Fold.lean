import Draft6.Schema

/-!
# Recursion over schemas

A fold computes a value for a schema from the values for its direct sub-schemas. Every other
recursion over whole schemas is a fold, and `Schema.fold_object` is its one equation.
-/

namespace Draft6

namespace Schema

variable {α : Type}

mutual

/-- Compute a value for a schema from the values for its sub-schemas, each of which also comes with
the sub-schema itself. -/
def fold (boolean : Bool → α) (object : ObjectSchema (Schema × α) → α) : Schema → α
  | .boolean value => boolean value
  | .object ⟨id, ref, annotations, type, enum, const, numbers, strings, arrays, objects, items,
      additionalItems, contains, properties, patternProperties, additionalProperties, dependencies,
      propertyNames, allOf, anyOf, oneOf, not, definitions, extra⟩ =>
    object ⟨id, ref, annotations, type, enum, const, numbers, strings, arrays, objects,
      foldItems? boolean object items,
      foldOption boolean object additionalItems,
      foldOption boolean object contains,
      foldNamed? boolean object properties,
      foldPatterns? boolean object patternProperties,
      foldOption boolean object additionalProperties,
      foldDependencies? boolean object dependencies,
      foldOption boolean object propertyNames,
      foldList? boolean object allOf,
      foldList? boolean object anyOf,
      foldList? boolean object oneOf,
      foldOption boolean object not,
      foldNamed? boolean object definitions,
      foldNamed boolean object extra⟩

/-- Fold an optional schema. -/
def foldOption (boolean : Bool → α) (object : ObjectSchema (Schema × α) → α) :
    Option Schema → Option (Schema × α)
  | none => none
  | some s => some (s, fold boolean object s)

/-- Fold the schemas of a list. -/
def foldList (boolean : Bool → α) (object : ObjectSchema (Schema × α) → α) :
    List Schema → List (Schema × α)
  | [] => []
  | s :: rest => (s, fold boolean object s) :: foldList boolean object rest

/-- Fold the schemas of an optional list. -/
def foldList? (boolean : Bool → α) (object : ObjectSchema (Schema × α) → α) :
    Option (List Schema) → Option (List (Schema × α))
  | none => none
  | some schemas => some (foldList boolean object schemas)

/-- Fold named schemas. -/
def foldNamed (boolean : Bool → α) (object : ObjectSchema (Schema × α) → α) :
    List (String × Schema) → List (String × Schema × α)
  | [] => []
  | (name, s) :: rest => (name, s, fold boolean object s) :: foldNamed boolean object rest

/-- Fold an optional list of named schemas. -/
def foldNamed? (boolean : Bool → α) (object : ObjectSchema (Schema × α) → α) :
    Option (List (String × Schema)) → Option (List (String × Schema × α))
  | none => none
  | some schemas => some (foldNamed boolean object schemas)

/-- Fold the schemas of patterns. -/
def foldPatterns (boolean : Bool → α) (object : ObjectSchema (Schema × α) → α) :
    List (Pattern × Schema) → List (Pattern × Schema × α)
  | [] => []
  | (p, s) :: rest => (p, s, fold boolean object s) :: foldPatterns boolean object rest

/-- Fold the schemas of an optional list of patterns. -/
def foldPatterns? (boolean : Bool → α) (object : ObjectSchema (Schema × α) → α) :
    Option (List (Pattern × Schema)) → Option (List (Pattern × Schema × α))
  | none => none
  | some schemas => some (foldPatterns boolean object schemas)

/-- Fold the schemas for the elements of arrays. -/
def foldItems? (boolean : Bool → α) (object : ObjectSchema (Schema × α) → α) :
    Option (Items Schema) → Option (Items (Schema × α))
  | none => none
  | some (.all s) => some (.all (s, fold boolean object s))
  | some (.each schemas) => some (.each (foldList boolean object schemas))

/-- Fold the schemas of dependencies. -/
def foldDependencies (boolean : Bool → α) (object : ObjectSchema (Schema × α) → α) :
    List (String × Dependency Schema) → List (String × Dependency (Schema × α))
  | [] => []
  | (trigger, .names required) :: rest =>
    (trigger, .names required) :: foldDependencies boolean object rest
  | (trigger, .schema s) :: rest =>
    (trigger, .schema (s, fold boolean object s)) :: foldDependencies boolean object rest

/-- Fold the schemas of an optional list of dependencies. -/
def foldDependencies? (boolean : Bool → α) (object : ObjectSchema (Schema × α) → α) :
    Option (List (String × Dependency Schema)) →
      Option (List (String × Dependency (Schema × α)))
  | none => none
  | some entries => some (foldDependencies boolean object entries)

end

variable (boolean : Bool → α) (object : ObjectSchema (Schema × α) → α)

/-- Where the index does not count, mapping with it is mapping. -/
theorem mapIdx_eq_map {β γ : Type} (f : β → γ) (xs : List β) :
    xs.mapIdx (fun _ x => f x) = xs.map f := by
  apply List.ext_getElem <;> simp

/-- Folding a list pairs every schema with its value. -/
theorem foldList_eq_map (schemas : List Schema) :
    foldList boolean object schemas = schemas.map fun s => (s, s.fold boolean object) := by
  induction schemas with
  | nil => rfl
  | cons s rest ih => simp [foldList, ih]

/-- Folding named schemas pairs every schema with its value. -/
theorem foldNamed_eq_map (schemas : List (String × Schema)) :
    foldNamed boolean object schemas =
      schemas.map fun (name, s) => (name, s, s.fold boolean object) := by
  induction schemas with
  | nil => rfl
  | cons entry rest ih => obtain ⟨name, s⟩ := entry; simp [foldNamed, ih]

/-- Folding the schemas of patterns pairs every schema with its value. -/
theorem foldPatterns_eq_map (schemas : List (Pattern × Schema)) :
    foldPatterns boolean object schemas =
      schemas.map fun (p, s) => (p, s, s.fold boolean object) := by
  induction schemas with
  | nil => rfl
  | cons entry rest ih => obtain ⟨p, s⟩ := entry; simp [foldPatterns, ih]

/-- Folding dependencies pairs every schema with its value. -/
theorem foldDependencies_eq_map (entries : List (String × Dependency Schema)) :
    foldDependencies boolean object entries =
      entries.map fun (trigger, d) =>
        (trigger, d.mapPath (fun _ s => (s, s.fold boolean object)) trigger) := by
  induction entries with
  | nil => rfl
  | cons entry rest ih =>
    obtain ⟨trigger, d⟩ := entry
    cases d <;> simp [foldDependencies, Dependency.mapPath, ih]

/-- The value for a schema object comes from its sub-schemas paired with their values. -/
theorem fold_object (o : ObjectSchema Schema) :
    fold boolean object (.object o) = object (o.map fun s => (s, s.fold boolean object)) := by
  obtain ⟨id, ref, annotations, type, enum, const, numbers, strings, arrays, objects, items,
    additionalItems, contains, properties, patternProperties, additionalProperties, dependencies,
    propertyNames, allOf, anyOf, oneOf, not, definitions, extra⟩ := o
  have hOption (s : Option Schema) :
      foldOption boolean object s = s.map fun s => (s, s.fold boolean object) := by
    cases s <;> rfl
  have hList (k : Keyword) (s : Option (List Schema)) : foldList? boolean object s =
      s.map (ObjectSchema.mapList (fun _ s => (s, s.fold boolean object)) k) := by
    cases s <;> simp [foldList?, foldList_eq_map, ObjectSchema.mapList, mapIdx_eq_map]
  have hNamed (k : Keyword) (s : Option (List (String × Schema))) : foldNamed? boolean object s =
      s.map (ObjectSchema.mapNamed (fun _ s => (s, s.fold boolean object)) k) := by
    cases s <;> simp [foldNamed?, foldNamed_eq_map, ObjectSchema.mapNamed]
  have hPatterns (s : Option (List (Pattern × Schema))) : foldPatterns? boolean object s =
      s.map fun s => s.map fun (p, s) => (p, s, s.fold boolean object) := by
    cases s <;> simp [foldPatterns?, foldPatterns_eq_map]
  have hItems (s : Option (Items Schema)) : foldItems? boolean object s =
      s.map (Items.mapPath fun _ s => (s, s.fold boolean object)) := by
    rcases s with _ | (s | s) <;>
      simp [foldItems?, Items.mapPath, foldList_eq_map, mapIdx_eq_map]
  have hDependencies (s : Option (List (String × Dependency Schema))) :
      foldDependencies? boolean object s = s.map fun s => s.map fun (trigger, d) =>
        (trigger, d.mapPath (fun _ s => (s, s.fold boolean object)) trigger) := by
    cases s <;> simp [foldDependencies?, foldDependencies_eq_map]
  simp only [fold, ObjectSchema.map, ObjectSchema.mapPath, hOption, hList .allOf,
    hNamed .properties, hPatterns, hItems, hDependencies, foldNamed_eq_map]
  rfl

end Schema

end Draft6
