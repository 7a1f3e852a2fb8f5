import Draft6.Limits
import Draft6.Located
import Draft6.Schema

/-!
# Schemas of JSON documents

A document is a schema when it is a Boolean or an object whose keywords hold what they must hold.
The members of an object are read in their order and the first one that is wrong is reported.
Unknown keywords are never wrong: one that holds a schema object is kept, and all others are passed
over. References are only recorded here.
-/

namespace Draft6

/-- What a place of a schema document may hold. -/
inductive Expectation where
  | schema
  | string
  | boolean
  | number
  | size
  | array
  | object
  | typeNames
deriving DecidableEq, Repr

/-- The words for what a place may hold. -/
def Expectation.text : Expectation → String
  | .schema => "a schema object or boolean"
  | .string => "string"
  | .boolean => "boolean"
  | .number => "number"
  | .size => "non-negative integer"
  | .array => "array"
  | .object => "object"
  | .typeNames => "string or array of strings"

/-- Why a document is not a schema. -/
inductive DecodeCause where
  | wrongKind (expected : Expectation) (actual : Json)
  | divisorNotPositive
  | unknownType (name : String)
  | noTypes
  | invalidPattern (source : String)
  | tooDeep (maximum : Nat)

/-- The words for a cause. -/
def DecodeCause.message : DecodeCause → String
  | .wrongKind expected actual => "expected " ++ expected.text ++ ", got " ++ actual.kindName
  | .divisorNotPositive => "'multipleOf' must be greater than 0"
  | .unknownType name => "unknown type '" ++ name ++ "'"
  | .noTypes => "'type' list must not be empty"
  | .invalidPattern source => "invalid regular expression '" ++ source ++ "'"
  | .tooDeep maximum => "schema nesting exceeds maximum depth " ++ toString maximum

/-- A cause with its place in the document. -/
abbrev DecodeError := Located DecodeCause

/-- The words for a cause with its place. -/
def DecodeError.text (e : DecodeError) : String :=
  e.cause.message ++ " (at '" ++ e.pointer.text ++ "')"

/-- The result of reading part of a document. -/
abbrev Decoded (α : Type) := Except DecodeError α

namespace Decoded

variable {α : Type}

/-- The result of a part that lies under a segment. -/
def below (segment : String) (result : Decoded α) : Decoded α :=
  result.mapError (Located.below segment)

/-- Refuse a value. -/
def refuse (expected : Expectation) (actual : Json) : Decoded α :=
  .error (Located.here (.wrongKind expected actual))

end Decoded

namespace Json

open Decoded (refuse below)

/-- Read a string. -/
def asString : Json → Decoded String
  | .string s => .ok s
  | value => refuse .string value

/-- Read a Boolean. -/
def asBool : Json → Decoded Bool
  | .bool b => .ok b
  | value => refuse .boolean value

/-- Read a number. -/
def asNumber : Json → Decoded Number
  | .number n => .ok n
  | value => refuse .number value

/-- Read the elements of an array. -/
def asArray : Json → Decoded (List Json)
  | .array items => .ok items
  | value => refuse .array value

/-- Read the members of an object. -/
def asObject : Json → Decoded (List (String × Json))
  | .object members => .ok members
  | value => refuse .object value

/-- The size that a number denotes. A whole binary64 number up to `2 ^ 64` is one, and the last of
these counts as the largest size. -/
def size? : Number → Option UInt64
  | .integer value _ => if 0 ≤ value then some (UInt64.ofNat value.toNat) else none
  | .float x => x.toInt?.bind fun i =>
    if 0 ≤ i ∧ i ≤ 18446744073709551616 then
      some (UInt64.ofNat (min i.toNat 18446744073709551615))
    else none

/-- Read a size. -/
def asSize (value : Json) : Decoded UInt64 :=
  match value with
  | .number n => match size? n with
    | some size => .ok size
    | none => refuse .size value
  | _ => refuse .size value

/-- Read the elements of a list from some position on. -/
def readItems {α : Type} (item : Json → Decoded α) (start : Nat) : List Json → Decoded (List α)
  | [] => .ok []
  | value :: rest => do
    let first ← below (toString start) (item value)
    let others ← readItems item (start + 1) rest
    pure (first :: others)

/-- Read every member of an object. -/
def readMembers {κ α : Type} (name : String → Decoded κ) (item : Json → Decoded α) :
    List (String × Json) → Decoded (List (κ × α))
  | [] => .ok []
  | (key, value) :: rest => do
    let first ← below key (do pure (← name key, ← item value))
    let others ← readMembers name item rest
    pure (first :: others)

/-- Read a list. -/
def asList {α : Type} (item : Json → Decoded α) (value : Json) : Decoded (List α) := do
  readItems item 0 (← value.asArray)

/-- Read an object from names to values. -/
def asNamed {α : Type} (item : Json → Decoded α) (value : Json) : Decoded (List (String × α)) := do
  readMembers pure item (← value.asObject)

/-- Read a type name. -/
def asType (value : Json) : Decoded SimpleType := do
  let name ← value.asString
  match SimpleType.ofName? name with
  | some type => pure type
  | none => .error (Located.here (.unknownType name))

/-- Read a rule for types. -/
def asTypeRule (value : Json) : Decoded TypeRule :=
  match value with
  | .string _ => TypeRule.single <$> value.asType
  | .array [] => .error (Located.here .noTypes)
  | .array _ => TypeRule.ofList <$> value.asList asType
  | _ => refuse .typeNames value

/-- Read a divisor. -/
def asDivisor (value : Json) : Decoded Binary64 := do
  let x := (← value.asNumber).toBinary64
  if x.compare .zero = .gt then pure x else .error (Located.here .divisorNotPositive)

end Json

/-- The pattern with a text. -/
def Pattern.decode (source : String) : Decoded Pattern :=
  match Pattern.ofSource? source with
  | some p => .ok p
  | none => .error (Located.here (.invalidPattern source))

namespace ObjectSchema

variable {σ : Type}

/-- Read schemas for the elements of arrays. -/
def decodeItems (child : Json → Decoded σ) (value : Json) : Decoded (Items σ) :=
  match value with
  | .array _ => Items.each <$> value.asList child
  | _ => Items.all <$> child value

/-- Read what a member demands. -/
def decodeDependency (child : Json → Decoded σ) (value : Json) : Decoded (Dependency σ) :=
  match value with
  | .array _ => Dependency.names <$> value.asList Json.asString
  | _ => Dependency.schema <$> child value

/-- Read the value of a keyword into a schema object. -/
def decodeKeyword (child : Json → Decoded σ) (o : ObjectSchema σ) (k : Keyword) (value : Json) :
    Decoded (ObjectSchema σ) :=
  match k with
  | .dialect => do
    let text ← value.asString
    pure { o with annotations := { o.annotations with dialect := some text } }
  | .id => do pure { o with id := some (← value.asString) }
  | .ref => do pure { o with ref := some (← value.asString) }
  | .title => do
    let text ← value.asString
    pure { o with annotations := { o.annotations with title := some text } }
  | .description => do
    let text ← value.asString
    pure { o with annotations := { o.annotations with description := some text } }
  | .default => pure { o with annotations := { o.annotations with default := some value } }
  | .examples => do
    let items ← value.asArray
    pure { o with annotations := { o.annotations with examples := some items } }
  | .format => do
    let text ← value.asString
    pure { o with annotations := { o.annotations with format := some text } }
  | .type => do pure { o with type := ← value.asTypeRule }
  | .enum => do pure { o with enum := some (← value.asArray) }
  | .const => pure { o with const := some value }
  | .multipleOf => do
    let divisor ← value.asDivisor
    pure { o with numbers := { o.numbers with multipleOf := some divisor } }
  | .maximum => do
    let bound ← value.asNumber
    pure { o with numbers := { o.numbers with maximum := some bound } }
  | .exclusiveMaximum => do
    let bound ← value.asNumber
    pure { o with numbers := { o.numbers with exclusiveMaximum := some bound } }
  | .minimum => do
    let bound ← value.asNumber
    pure { o with numbers := { o.numbers with minimum := some bound } }
  | .exclusiveMinimum => do
    let bound ← value.asNumber
    pure { o with numbers := { o.numbers with exclusiveMinimum := some bound } }
  | .maxLength => do
    let size ← value.asSize
    pure { o with strings := { o.strings with maxLength := some size } }
  | .minLength => do
    let size ← value.asSize
    pure { o with strings := { o.strings with minLength := some size } }
  | .pattern => do
    let pattern ← Pattern.decode (← value.asString)
    pure { o with strings := { o.strings with pattern := some pattern } }
  | .items => do pure { o with items := some (← decodeItems child value) }
  | .additionalItems => do pure { o with additionalItems := some (← child value) }
  | .maxItems => do
    let size ← value.asSize
    pure { o with arrays := { o.arrays with maxItems := some size } }
  | .minItems => do
    let size ← value.asSize
    pure { o with arrays := { o.arrays with minItems := some size } }
  | .uniqueItems => do
    let unique ← value.asBool
    pure { o with arrays := { o.arrays with uniqueItems := some unique } }
  | .contains => do pure { o with contains := some (← child value) }
  | .properties => do pure { o with properties := some (← value.asNamed child) }
  | .patternProperties => do
    let schemas ← Json.readMembers Pattern.decode child (← value.asObject)
    pure { o with patternProperties := some schemas }
  | .additionalProperties => do pure { o with additionalProperties := some (← child value) }
  | .required => do
    let names ← value.asList Json.asString
    pure { o with objects := { o.objects with required := some names } }
  | .maxProperties => do
    let size ← value.asSize
    pure { o with objects := { o.objects with maxProperties := some size } }
  | .minProperties => do
    let size ← value.asSize
    pure { o with objects := { o.objects with minProperties := some size } }
  | .dependencies => do
    pure { o with dependencies := some (← value.asNamed (decodeDependency child)) }
  | .propertyNames => do pure { o with propertyNames := some (← child value) }
  | .allOf => do pure { o with allOf := some (← value.asList child) }
  | .anyOf => do pure { o with anyOf := some (← value.asList child) }
  | .oneOf => do pure { o with oneOf := some (← value.asList child) }
  | .not => do pure { o with not := some (← child value) }
  | .definitions => do pure { o with definitions := some (← value.asNamed child) }

/-- Keep an unknown keyword if it holds a schema object. -/
def keepUnknown (child : Json → Decoded σ) (o : ObjectSchema σ) (name : String) (value : Json) :
    ObjectSchema σ :=
  match value with
  | .object _ => match child value with
    | .ok schema => { o with extra := o.extra ++ [(name, schema)] }
    | .error _ => o
  | _ => o

/-- Read one member into a schema object. -/
def decodeMember (child : Json → Decoded σ) (o : ObjectSchema σ) (name : String) (value : Json) :
    Decoded (ObjectSchema σ) :=
  match Keyword.ofName? name with
  | some k => Decoded.below name (decodeKeyword child o k value)
  | none => .ok (keepUnknown child o name value)

/-- The identifier under its older name, if it is a string. -/
def olderId? (members : List (String × Json)) : Option String :=
  match members.lookup Keyword.olderId with
  | some (.string id) => some id
  | _ => none

/-- Read the members of a schema object. An identifier under its older name counts when there is no
other. -/
def decode (child : Json → Decoded σ) (members : List (String × Json)) :
    Decoded (ObjectSchema σ) :=
  members.foldlM (fun o (name, value) => decodeMember child o name value)
    { id := olderId? members }

end ObjectSchema

namespace Schema

/-- Read a schema that may nest some levels deep. -/
def decodeWithin (maximum : Nat) : (levels : Nat) → Json → Decoded Schema
  | 0, _ => .error (Located.here (.tooDeep maximum))
  | _ + 1, .bool value => .ok (.boolean value)
  | levels + 1, .object members =>
    object <$> ObjectSchema.decode (decodeWithin maximum levels) members
  | _ + 1, value => Decoded.refuse .schema value

/-- Read a schema. -/
def decode (limits : Limits) (document : Json) : Decoded Schema :=
  decodeWithin limits.schemaDepth (limits.schemaDepth + 1) document

end Schema

end Draft6
