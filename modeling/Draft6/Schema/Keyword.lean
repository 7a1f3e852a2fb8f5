/-!
# Keywords

The names that have a meaning in a schema object. Every other name is unknown there.
-/

namespace Draft6

/-- A keyword of a schema object. -/
inductive Keyword where
  | dialect
  | id
  | ref
  | title
  | description
  | default
  | examples
  | format
  | type
  | enum
  | const
  | multipleOf
  | maximum
  | exclusiveMaximum
  | minimum
  | exclusiveMinimum
  | maxLength
  | minLength
  | pattern
  | items
  | additionalItems
  | maxItems
  | minItems
  | uniqueItems
  | contains
  | properties
  | patternProperties
  | additionalProperties
  | required
  | maxProperties
  | minProperties
  | dependencies
  | propertyNames
  | allOf
  | anyOf
  | oneOf
  | not
  | definitions
deriving DecidableEq, Repr

namespace Keyword

/-- The name of a keyword. -/
def name : Keyword → String
  | .dialect => "$schema"
  | .id => "$id"
  | .ref => "$ref"
  | .title => "title"
  | .description => "description"
  | .default => "default"
  | .examples => "examples"
  | .format => "format"
  | .type => "type"
  | .enum => "enum"
  | .const => "const"
  | .multipleOf => "multipleOf"
  | .maximum => "maximum"
  | .exclusiveMaximum => "exclusiveMaximum"
  | .minimum => "minimum"
  | .exclusiveMinimum => "exclusiveMinimum"
  | .maxLength => "maxLength"
  | .minLength => "minLength"
  | .pattern => "pattern"
  | .items => "items"
  | .additionalItems => "additionalItems"
  | .maxItems => "maxItems"
  | .minItems => "minItems"
  | .uniqueItems => "uniqueItems"
  | .contains => "contains"
  | .properties => "properties"
  | .patternProperties => "patternProperties"
  | .additionalProperties => "additionalProperties"
  | .required => "required"
  | .maxProperties => "maxProperties"
  | .minProperties => "minProperties"
  | .dependencies => "dependencies"
  | .propertyNames => "propertyNames"
  | .allOf => "allOf"
  | .anyOf => "anyOf"
  | .oneOf => "oneOf"
  | .not => "not"
  | .definitions => "definitions"

/-- All keywords. -/
def all : List Keyword :=
  [.dialect, .id, .ref, .title, .description, .default, .examples, .format, .type, .enum, .const,
    .multipleOf, .maximum, .exclusiveMaximum, .minimum, .exclusiveMinimum, .maxLength, .minLength,
    .pattern, .items, .additionalItems, .maxItems, .minItems, .uniqueItems, .contains, .properties,
    .patternProperties, .additionalProperties, .required, .maxProperties, .minProperties,
    .dependencies, .propertyNames, .allOf, .anyOf, .oneOf, .not, .definitions]

/-- The keyword with a name. -/
def ofName? (name : String) : Option Keyword := all.find? fun k => k.name = name

/-- The name under which older drafts write an identifier. It counts when it holds a string. -/
def olderId : String := "id"

end Keyword

end Draft6
