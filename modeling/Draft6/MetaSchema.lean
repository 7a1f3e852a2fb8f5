import Draft6.Schema.Decode
import Draft6.Validation

/-!
# The draft-06 meta-schema

The schema that describes schemas, as a document and as a schema, and the pools that hold it.
-/

namespace Draft6

namespace MetaSchema

/-- The URL of the meta-schema. -/
def uri : String := "http://json-schema.org/draft-06/schema#"

/-- A reference to another part of the meta-schema. -/
def reference (target : String) : Json := .object [("$ref", .string target)]

/-- A schema for one type. -/
def ofType (name : String) : Json := .object [("type", .string name)]

/-- A schema for one type of strings. -/
def ofFormat (format : String) : Json :=
  .object [("type", .string "string"), ("format", .string format)]

/-- A schema for one type with a value that stands for an absent one. -/
def withDefault (name : String) (value : Json) : Json :=
  .object [("type", .string name), ("default", value)]

/-- Any schema. -/
def anySchema : Json := reference "#"

/-- An array of schemas. -/
def schemaArray : Json := reference "#/definitions/schemaArray"

/-- A size. -/
def size : Json := reference "#/definitions/nonNegativeInteger"

/-- A size that is zero when absent. -/
def sizeOrZero : Json := reference "#/definitions/nonNegativeIntegerDefault0"

/-- A list of different strings. -/
def stringArray : Json := reference "#/definitions/stringArray"

/-- The name of a type. -/
def simpleTypes : Json := reference "#/definitions/simpleTypes"

/-- An object of schemas. -/
def namedSchemas : Json :=
  .object [("type", .string "object"), ("additionalProperties", anySchema), ("default", .object [])]

/-- The number zero. -/
def zero : Json := .number Number.zero

/-- The number one. -/
def one : Json := .number (.integer 1 (by decide))

/-- The parts that other parts refer to. -/
def definitions : Json := .object [
  ("schemaArray", .object
    [("type", .string "array"), ("minItems", one), ("items", anySchema)]),
  ("nonNegativeInteger", .object [("type", .string "integer"), ("minimum", zero)]),
  ("nonNegativeIntegerDefault0", .object
    [("allOf", .array [size, .object [("default", zero)]])]),
  ("simpleTypes", .object
    [("enum",
      Json.strings ["array", "boolean", "integer", "null", "number", "object", "string"])]),
  ("stringArray", .object [
    ("type", .string "array"),
    ("items", ofType "string"),
    ("uniqueItems", .bool true),
    ("default", .array [])])]

/-- What each keyword may hold. -/
def properties : Json := .object [
  ("$id", ofFormat "uri-reference"),
  ("$schema", ofFormat "uri"),
  ("$ref", ofFormat "uri-reference"),
  ("title", ofType "string"),
  ("description", ofType "string"),
  ("default", .object []),
  ("examples", .object [("type", .string "array"), ("items", .object [])]),
  ("multipleOf", .object [("type", .string "number"), ("exclusiveMinimum", zero)]),
  ("maximum", ofType "number"),
  ("exclusiveMaximum", ofType "number"),
  ("minimum", ofType "number"),
  ("exclusiveMinimum", ofType "number"),
  ("maxLength", size),
  ("minLength", sizeOrZero),
  ("pattern", ofFormat "regex"),
  ("additionalItems", anySchema),
  ("items", .object [("anyOf", .array [anySchema, schemaArray]), ("default", .object [])]),
  ("maxItems", size),
  ("minItems", sizeOrZero),
  ("uniqueItems", withDefault "boolean" (.bool false)),
  ("contains", anySchema),
  ("maxProperties", size),
  ("minProperties", sizeOrZero),
  ("required", stringArray),
  ("additionalProperties", anySchema),
  ("definitions", namedSchemas),
  ("properties", namedSchemas),
  ("patternProperties", namedSchemas),
  ("dependencies", .object [
    ("type", .string "object"),
    ("additionalProperties", .object [("anyOf", .array [anySchema, stringArray])])]),
  ("propertyNames", anySchema),
  ("const", .object []),
  ("enum", .object
    [("type", .string "array"), ("minItems", one), ("uniqueItems", .bool true)]),
  ("type", .object [("anyOf", .array [
    simpleTypes,
    .object [
      ("type", .string "array"),
      ("items", simpleTypes),
      ("minItems", one),
      ("uniqueItems", .bool true)]])]),
  ("format", ofType "string"),
  ("allOf", schemaArray),
  ("anyOf", schemaArray),
  ("oneOf", schemaArray),
  ("not", anySchema)]

/-- The meta-schema as a document. -/
def document : Json := .object [
  ("$schema", .string uri),
  ("$id", .string uri),
  ("title", .string "Core schema meta-schema"),
  ("definitions", definitions),
  ("type", Json.strings ["object", "boolean"]),
  ("properties", properties),
  ("default", .object [])]

/-- The meta-schema. -/
def schema : Schema := (Schema.decode Limits.default document).toOption.getD default

/-- The base that the meta-schema stands in. -/
def base : Url := ⟨"http", some ⟨"", "json-schema.org", none⟩, "/draft-06/schema", none, none⟩

/-- The root of the meta-schema. -/
def node : Node := Node.root .metaSchema schema

end MetaSchema

namespace Pool

/-- The pool of the meta-schema. -/
def draft6 : Pool := empty.addAt .metaSchema MetaSchema.schema MetaSchema.base

/-- The pool of the meta-schema and a document under the implicit base. -/
def ofRoot (root : Schema) : Pool := draft6.addAt .main root Url.implicitBase

end Pool

namespace Schema

/-- The node of a schema that is a document of its own. -/
def node (root : Schema) : Node := Node.root .main root

/-- The failures of a value against a schema that is a document of its own. -/
def failures (root : Schema) (value : Json) : List Failure :=
  (Pool.ofRoot root).failures Limits.default root.node value

/-- Whether a value is valid against a schema that is a document of its own. -/
def accepts (root : Schema) (value : Json) : Bool := (root.failures value).isEmpty

end Schema

end Draft6
