import Draft6.MetaSchema
import Draft6.Proofs.Acceptance
import Draft6.Proofs.Demands
import Draft6.Proofs.Places
import Draft6.Proofs.SingleResource

/-!
# What the meta-schema says about keywords

The meta-schema has a rule for the value of every keyword, which may refer to the meta-schema itself or
to one of its definitions. It is a document of one resource, so each of these references leads to the
schema with the pointer that it names.

A value that a rule grants meets the demand of the keyword. Where schemas stand in it, the meta-schema
accepts the parts, and it does so with fewer levels.
-/

namespace Draft6

namespace MetaSchema

/-- The keywords of the meta-schema. -/
def keywords : ObjectSchema Schema := schema.object?.getD default

/-- The base inside the meta-schema. -/
def inside : Url := base.inside schema.id?

/-- A schema in the meta-schema that others refer to. -/
inductive Definition where
  | schemaArray
  | nonNegativeInteger
  | nonNegativeIntegerDefault0
  | simpleTypes
  | stringArray

namespace Definition

/-- The name of a definition. -/
def name : Definition → String
  | .schemaArray => "schemaArray"
  | .nonNegativeInteger => "nonNegativeInteger"
  | .nonNegativeIntegerDefault0 => "nonNegativeIntegerDefault0"
  | .simpleTypes => "simpleTypes"
  | .stringArray => "stringArray"

/-- A reference to a definition. -/
def reference (d : Definition) : Schema := .object { ref := some ("#/definitions/" ++ d.name) }

end Definition

namespace Rule

/-- The rule for schemas. -/
def any : Schema := .object { ref := some "#" }

/-- The rule for the values of one type. -/
def ofType (type : SimpleType) (notes : Annotations := {}) : Schema :=
  .object { type := .single type, annotations := notes }

/-- The rule for objects of schemas. -/
def named : Schema :=
  .object {
    type := .single .object
    additionalProperties := some any
    annotations := { default := some (.object []) } }

/-- The rule of a definition. -/
def definition : Definition → Schema
  | .schemaArray =>
    .object {
      type := .single .array
      arrays := { minItems := some 1 }
      items := some (.all any) }
  | .nonNegativeInteger =>
    .object { type := .single .integer, numbers := { minimum := some Number.zero } }
  | .nonNegativeIntegerDefault0 =>
    .object {
      allOf := some
        [Definition.nonNegativeInteger.reference,
          .object { annotations := { default := some (.number Number.zero) } }] }
  | .simpleTypes =>
    .object {
      enum := some ((["array", "boolean", "integer", "null", "number", "object", "string"]).map
        .string) }
  | .stringArray =>
    .object {
      type := .single .array
      items := some (.all (ofType .string))
      arrays := { uniqueItems := some true }
      annotations := { default := some (.array []) } }

/-- The rule for the value of a keyword. -/
def keyword : Keyword → Schema
  | .id | .ref => ofType .string { format := some "uri-reference" }
  | .dialect => ofType .string { format := some "uri" }
  | .pattern => ofType .string { format := some "regex" }
  | .title | .description | .format => ofType .string
  | .default | .const => .object {}
  | .examples => .object { type := .single .array, items := some (.all (.object {})) }
  | .enum =>
    .object { type := .single .array, arrays := { minItems := some 1, uniqueItems := some true } }
  | .multipleOf =>
    .object { type := .single .number, numbers := { exclusiveMinimum := some Number.zero } }
  | .maximum | .exclusiveMaximum | .minimum | .exclusiveMinimum => ofType .number
  | .maxLength | .maxItems | .maxProperties => Definition.nonNegativeInteger.reference
  | .minLength | .minItems | .minProperties => Definition.nonNegativeIntegerDefault0.reference
  | .uniqueItems => ofType .boolean { default := some (.bool false) }
  | .type =>
    .object {
      anyOf := some
        [Definition.simpleTypes.reference,
          .object {
            type := .single .array
            items := some (.all Definition.simpleTypes.reference)
            arrays := { minItems := some 1, uniqueItems := some true } }] }
  | .required => Definition.stringArray.reference
  | .additionalItems | .contains | .additionalProperties | .propertyNames | .not => any
  | .allOf | .anyOf | .oneOf => Definition.schemaArray.reference
  | .items =>
    .object {
      anyOf := some [any, Definition.schemaArray.reference]
      annotations := { default := some (.object []) } }
  | .properties | .definitions | .patternProperties => named
  | .dependencies =>
    .object {
      type := .single .object
      additionalProperties := some
        (.object { anyOf := some [any, Definition.stringArray.reference] }) }

end Rule

/-! ## The parts of the meta-schema -/

/-- The node of a definition. -/
def Definition.node (d : Definition) : Node :=
  MetaSchema.node.child ["definitions", d.name] (Rule.definition d)

set_option maxRecDepth 10000 in
/-- The meta-schema is an object. -/
theorem schema_eq : schema = .object keywords := rfl

set_option maxRecDepth 10000 in
/-- The meta-schema has an identifier. -/
theorem id?_schema : schema.id? = some uri := rfl

/-- The meta-schema is what its document is read as. -/
theorem decode_document : Schema.decode Limits.default document = .ok schema := by
  have hschema : schema = (Schema.decode Limits.default document).toOption.getD default := rfl
  cases hread : Schema.decode Limits.default document with
  | error reason =>
    rw [hread, schema_eq] at hschema
    cases hschema
  | ok s =>
    rw [hread] at hschema
    exact congrArg Except.ok hschema.symm

/-- No object in the document of the meta-schema has two members with one name. -/
theorem distinctNames_document : document.distinctNames = true := by decide

/-- The identifier of the meta-schema names its base. -/
theorem inside_eq : inside = base := by
  rw [inside, id?_schema]
  decide

/-- The identifier of the meta-schema is among its keywords. -/
theorem id_keywords : keywords.id = schema.id? := by
  rw [schema_eq]
  rfl

set_option maxRecDepth 10000 in
/-- The definitions are sub-schemas of the meta-schema. -/
theorem definition_mem_children (d : Definition) :
    (["definitions", d.name], Rule.definition d) ∈ schema.children := by
  cases d with
  | schemaArray => exact List.mem_of_getElem? (i := 0) rfl
  | nonNegativeInteger => exact List.mem_of_getElem? (i := 1) rfl
  | nonNegativeIntegerDefault0 => exact List.mem_of_getElem? (i := 2) rfl
  | simpleTypes => exact List.mem_of_getElem? (i := 3) rfl
  | stringArray => exact List.mem_of_getElem? (i := 4) rfl

set_option maxRecDepth 10000 in
/-- Every keyword has its rule in the meta-schema. -/
theorem lookup_keyword (k : Keyword) :
    (keywords.properties.getD []).lookup k.name = some (Rule.keyword k) := by
  cases k <;> rfl

set_option maxRecDepth 10000 in
/-- Only the root of the meta-schema has an identifier. -/
theorem single_schema : schema.Single .metaSchema := by decide +kernel

/-- No two schemas in the meta-schema stand at the same place. -/
theorem separate_schema : schema.Separate :=
  Schema.separate_of_decode decode_document distinctNames_document

/-- The base of the meta-schema has no number sign. -/
theorem signFree_base : base.SignFree := by
  refine ⟨by decide, ?_, ?_, by decide, nofun⟩
  · rintro _ ⟨⟩
    exact List.not_mem_nil
  · rintro _ ⟨⟩
    decide

/-- The identifier of the meta-schema is more than a fragment. -/
theorem rootInside_base : (schema.rootInside .metaSchema base).base = inside :=
  Schema.rootInside_base fun id hid => by
    rw [id?_schema] at hid
    obtain rfl := Option.some.inj hid
    decide

/-- The pointer of a standing schema leads to the schema from inside the meta-schema. -/
theorem resolve_pointer {n : Node} {around : Resource} (h : schema.Stands .metaSchema base n around)
    {reference : String} (hreference : reference = "#" ++ n.place.pointer.fragment fun _ => false) :
    Pool.draft6.resolve reference inside = .ok (Entry.of n base around) := by
  rw [hreference]
  exact Pool.resolve_of_single signFree_base single_schema separate_schema h _

/-- Inside the meta-schema the empty fragment leads to the meta-schema. -/
theorem resolve_root :
    Pool.draft6.resolve "#" inside = .ok (Entry.of node base ⟨base, Pointer.root⟩) :=
  resolve_pointer .root (by decide)

/-- The resource around the definitions of the meta-schema. -/
def Definition.around (d : Definition) : Resource :=
  (schema.rootInside .metaSchema base).descend ["definitions", d.name]

/-- Inside the meta-schema the pointer of a definition leads to the definition. -/
theorem resolve_definition (d : Definition) :
    Pool.draft6.resolve ("#/definitions/" ++ d.name) inside =
      .ok (Entry.of d.node base d.around) := by
  have hstands : schema.Stands .metaSchema base d.node d.around :=
    Schema.Stands.root.child _ _ (definition_mem_children d)
  refine resolve_pointer hstands ?_
  change _ = "#" ++ (⟨["definitions", d.name]⟩ : Pointer).fragment fun _ => false
  cases d <;> decide

end MetaSchema

end Draft6
