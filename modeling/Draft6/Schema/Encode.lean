import Draft6.Schema.Fold

/-!
# Schemas as JSON

Every schema has one JSON form. Its members stand in a fixed order of keywords, an older identifier
is written under the present name, and the unknown keywords come last.
-/

namespace Draft6

/-- A divisor as a JSON number. A whole one is written without a fraction while it is below
`2 ^ 63`. -/
def Number.ofDivisor (x : Binary64) : Number :=
  match x.toInt? with
  | some i => if i.natAbs < 9223372036854775808 then (Number.ofInt? i).getD (.float x) else .float x
  | none => .float x

/-- The value for schemas on the elements of an array. -/
def Items.toJson : Items Json → Json
  | .all schema => schema
  | .each schemas => .array schemas

/-- The value for what a member demands. -/
def Dependency.toJson : Dependency Json → Json
  | .names required => Json.strings required
  | .schema s => s

namespace ObjectSchema

/-- A member for a keyword that is present. -/
def member (k : Keyword) (value? : Option Json) : List (String × Json) :=
  value?.toList.map fun value => (k.name, value)

/-- A size as a JSON number. -/
def sizeJson (size : UInt64) : Json := .number (Number.ofUInt64 size)

/-- The members of a schema object whose sub-schemas are written already. -/
def members (o : ObjectSchema Json) : List (String × Json) :=
  member .dialect (o.annotations.dialect.map .string)
    ++ member .id (o.id.map .string)
    ++ member .ref (o.ref.map .string)
    ++ member .title (o.annotations.title.map .string)
    ++ member .description (o.annotations.description.map .string)
    ++ member .default o.annotations.default
    ++ member .examples (o.annotations.examples.map .array)
    ++ member .format (o.annotations.format.map .string)
    ++ member .type o.type.toJson?
    ++ member .enum (o.enum.map .array)
    ++ member .const o.const
    ++ member .multipleOf (o.numbers.multipleOf.map fun x => .number (Number.ofDivisor x))
    ++ member .maximum (o.numbers.maximum.map .number)
    ++ member .exclusiveMaximum (o.numbers.exclusiveMaximum.map .number)
    ++ member .minimum (o.numbers.minimum.map .number)
    ++ member .exclusiveMinimum (o.numbers.exclusiveMinimum.map .number)
    ++ member .maxLength (o.strings.maxLength.map sizeJson)
    ++ member .minLength (o.strings.minLength.map sizeJson)
    ++ member .maxItems (o.arrays.maxItems.map sizeJson)
    ++ member .minItems (o.arrays.minItems.map sizeJson)
    ++ member .maxProperties (o.objects.maxProperties.map sizeJson)
    ++ member .minProperties (o.objects.minProperties.map sizeJson)
    ++ member .pattern (o.strings.pattern.map fun p => .string p.source)
    ++ member .items (o.items.map Items.toJson)
    ++ member .additionalItems o.additionalItems
    ++ member .uniqueItems (o.arrays.uniqueItems.map .bool)
    ++ member .contains o.contains
    ++ member .properties (o.properties.map .object)
    ++ member .patternProperties
      (o.patternProperties.map fun schemas => .object (schemas.map fun (p, s) => (p.source, s)))
    ++ member .additionalProperties o.additionalProperties
    ++ member .required (o.objects.required.map Json.strings)
    ++ member .dependencies
      (o.dependencies.map fun entries => .object (entries.map fun (name, d) => (name, d.toJson)))
    ++ member .propertyNames o.propertyNames
    ++ member .allOf (o.allOf.map .array)
    ++ member .anyOf (o.anyOf.map .array)
    ++ member .oneOf (o.oneOf.map .array)
    ++ member .not o.not
    ++ member .definitions (o.definitions.map .object)
    ++ o.extra

end ObjectSchema

/-- The JSON form of a schema. -/
def Schema.toJson : Schema → Json :=
  fold .bool fun o => .object (o.map Prod.snd).members

end Draft6
