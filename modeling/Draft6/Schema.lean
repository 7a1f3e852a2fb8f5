import Draft6.Pattern
import Draft6.Schema.Keyword
import Draft6.Schema.SimpleType

/-!
# Schemas

A schema is a Boolean or a record of keywords, each of which may be absent. The record is written
for any type of sub-schemas, so that what a keyword means can be said before it is known what the
sub-schemas mean, and so that the places of sub-schemas can stand where the sub-schemas were.
-/

namespace Draft6

/-- What only describes a schema. -/
structure Annotations where
  dialect : Option String := none
  title : Option String := none
  description : Option String := none
  default : Option Json := none
  examples : Option (List Json) := none
  format : Option String := none

/-- What a schema demands of numbers. -/
structure NumberRules where
  multipleOf : Option Binary64 := none
  maximum : Option Number := none
  exclusiveMaximum : Option Number := none
  minimum : Option Number := none
  exclusiveMinimum : Option Number := none
deriving DecidableEq

/-- What a schema demands of strings. -/
structure StringRules where
  maxLength : Option UInt64 := none
  minLength : Option UInt64 := none
  pattern : Option Pattern := none
deriving DecidableEq

/-- What a schema demands of arrays as a whole. -/
structure ArrayRules where
  maxItems : Option UInt64 := none
  minItems : Option UInt64 := none
  uniqueItems : Option Bool := none
deriving DecidableEq

/-- What a schema demands of objects as a whole. -/
structure ObjectRules where
  required : Option (List String) := none
  maxProperties : Option UInt64 := none
  minProperties : Option UInt64 := none
deriving DecidableEq

/-- One schema for all elements of an array, or a schema for each of the first elements. -/
inductive Items (σ : Type) where
  | all (schema : σ)
  | each (schemas : List σ)

/-- What the presence of a member demands of the whole object. -/
inductive Dependency (σ : Type) where
  | names (required : List String)
  | schema (schema : σ)

/-- The keywords of a schema object over sub-schemas of some type. -/
structure ObjectSchema (σ : Type) where
  id : Option String := none
  ref : Option String := none
  annotations : Annotations := {}
  type : TypeRule := .any
  enum : Option (List Json) := none
  const : Option Json := none
  numbers : NumberRules := {}
  strings : StringRules := {}
  arrays : ArrayRules := {}
  objects : ObjectRules := {}
  items : Option (Items σ) := none
  additionalItems : Option σ := none
  contains : Option σ := none
  properties : Option (List (String × σ)) := none
  patternProperties : Option (List (Pattern × σ)) := none
  additionalProperties : Option σ := none
  dependencies : Option (List (String × Dependency σ)) := none
  propertyNames : Option σ := none
  allOf : Option (List σ) := none
  anyOf : Option (List σ) := none
  oneOf : Option (List σ) := none
  not : Option σ := none
  definitions : Option (List (String × σ)) := none
  /-- Unknown keywords that hold schema objects. -/
  extra : List (String × σ) := []

/-- A schema. -/
inductive Schema where
  | boolean (value : Bool)
  | object (keywords : ObjectSchema Schema)

instance : Inhabited Schema := ⟨.boolean true⟩

/-! ## Sub-schemas and where they stand -/

namespace Items

variable {σ τ : Type}

/-- Replace every schema, given the segments that lead to it. -/
def mapPath (f : List String → σ → τ) : Items σ → Items τ
  | .all schema => .all (f [Keyword.items.name] schema)
  | .each schemas => .each (schemas.mapIdx fun i s => f [Keyword.items.name, toString i] s)

/-- The schemas in order. -/
def toList : Items σ → List σ
  | .all schema => [schema]
  | .each schemas => schemas

end Items

namespace Dependency

variable {σ τ : Type}

/-- Replace the schema, given the segments that lead to it. -/
def mapPath (f : List String → σ → τ) (trigger : String) : Dependency σ → Dependency τ
  | .names required => .names required
  | .schema s => .schema (f [Keyword.dependencies.name, trigger] s)

/-- The schema, if there is one. -/
def toList : Dependency σ → List σ
  | .names _ => []
  | .schema s => [s]

end Dependency

namespace ObjectSchema

variable {σ τ : Type}

instance : Inhabited (ObjectSchema σ) := ⟨{}⟩

/-- Replace every schema under a keyword, given the segments that lead to it. -/
def mapList (f : List String → σ → τ) (k : Keyword) (schemas : List σ) : List τ :=
  schemas.mapIdx fun i s => f [k.name, toString i] s

/-- Replace every named schema under a keyword, given the segments that lead to it. -/
def mapNamed (f : List String → σ → τ) (k : Keyword) (schemas : List (String × σ)) :
    List (String × τ) :=
  schemas.map fun (name, s) => (name, f [k.name, name] s)

/-- Replace every sub-schema, given the segments that lead to it from the schema object. -/
def mapPath (f : List String → σ → τ) (o : ObjectSchema σ) : ObjectSchema τ where
  id := o.id
  ref := o.ref
  annotations := o.annotations
  type := o.type
  enum := o.enum
  const := o.const
  numbers := o.numbers
  strings := o.strings
  arrays := o.arrays
  objects := o.objects
  items := o.items.map (Items.mapPath f)
  additionalItems := o.additionalItems.map (f [Keyword.additionalItems.name])
  contains := o.contains.map (f [Keyword.contains.name])
  properties := o.properties.map (mapNamed f .properties)
  patternProperties := o.patternProperties.map fun schemas =>
    schemas.map fun (p, s) => (p, f [Keyword.patternProperties.name, p.source] s)
  additionalProperties := o.additionalProperties.map (f [Keyword.additionalProperties.name])
  dependencies := o.dependencies.map fun entries =>
    entries.map fun (trigger, d) => (trigger, d.mapPath f trigger)
  propertyNames := o.propertyNames.map (f [Keyword.propertyNames.name])
  allOf := o.allOf.map (mapList f .allOf)
  anyOf := o.anyOf.map (mapList f .anyOf)
  oneOf := o.oneOf.map (mapList f .oneOf)
  not := o.not.map (f [Keyword.not.name])
  definitions := o.definitions.map (mapNamed f .definitions)
  extra := o.extra.map fun (name, s) => (name, f [name] s)

/-- Replace every sub-schema. -/
def map (f : σ → τ) (o : ObjectSchema σ) : ObjectSchema τ := o.mapPath fun _ => f

/-- The sub-schemas in a fixed order. -/
def toList (o : ObjectSchema σ) : List σ :=
  (o.definitions.getD []).map Prod.snd
    ++ (o.items.map Items.toList).getD []
    ++ o.additionalItems.toList
    ++ o.contains.toList
    ++ (o.properties.getD []).map Prod.snd
    ++ (o.patternProperties.getD []).map Prod.snd
    ++ o.additionalProperties.toList
    ++ (o.dependencies.getD []).flatMap (fun entry => entry.2.toList)
    ++ o.propertyNames.toList
    ++ o.allOf.getD []
    ++ o.anyOf.getD []
    ++ o.oneOf.getD []
    ++ o.not.toList
    ++ o.extra.map Prod.snd

/-- The sub-schemas in a fixed order, each with the segments that lead to it. -/
def children (o : ObjectSchema σ) : List (List String × σ) := (o.mapPath Prod.mk).toList

end ObjectSchema

namespace Schema

/-- The direct sub-schemas in a fixed order, each with the segments that lead to it. -/
def children : Schema → List (List String × Schema)
  | .boolean _ => []
  | .object o => o.children

/-- The schema object, if the schema is one. -/
def object? : Schema → Option (ObjectSchema Schema)
  | .boolean _ => none
  | .object o => some o

end Schema

end Draft6
