import Draft6.Number.Multiple
import Draft6.Pool
import Mathlib.Data.List.Basic

/-!
# What schemas mean

The meaning of a schema is said clause by clause, without visits, failures or an order of checks. A
schema object holds of a value when each of its keywords does, given which sub-schemas hold of which
values. A keyword says nothing about values of another kind than its own.

Schemas refer to one another, also under `not` and `oneOf`, so their meaning is no recursion on the
schema. A verdict on a value is one that follows from verdicts already known: it is the same however
the questions that are still open would be answered. No node has two verdicts on one value, and every
reading that keeps to the clauses agrees with the verdicts.
-/

namespace Draft6

/-! ## Rules for one kind of value -/

/-- Whether an object has a member with a name. -/
def HasMember (members : List (String × Json)) (name : String) : Prop :=
  ∃ part, (name, part) ∈ members

/-- Whether a number is as the rules demand. Bounds are about exact values. -/
structure NumberRules.Admits (r : NumberRules) (n : Number) : Prop where
  multipleOf : ∀ divisor ∈ r.multipleOf, n.isMultipleOf divisor = true
  maximum : ∀ bound ∈ r.maximum, n.toRat ≤ bound.toRat
  exclusiveMaximum : ∀ bound ∈ r.exclusiveMaximum, n.toRat < bound.toRat
  minimum : ∀ bound ∈ r.minimum, bound.toRat ≤ n.toRat
  exclusiveMinimum : ∀ bound ∈ r.exclusiveMinimum, bound.toRat < n.toRat

/-- Whether a string is as the rules demand. Its length is the number of its characters. -/
structure StringRules.Admits (r : StringRules) (s : String) : Prop where
  maxLength : ∀ bound ∈ r.maxLength, s.length ≤ bound.toNat
  minLength : ∀ bound ∈ r.minLength, bound.toNat ≤ s.length
  pattern : ∀ pattern ∈ r.pattern, pattern.isMatch s = true

/-- Whether an array is as the rules for it as a whole demand. -/
structure ArrayRules.Admits (r : ArrayRules) (items : List Json) : Prop where
  maxItems : ∀ bound ∈ r.maxItems, items.length ≤ bound.toNat
  minItems : ∀ bound ∈ r.minItems, bound.toNat ≤ items.length
  uniqueItems : r.uniqueItems = some true →
    items.Pairwise fun earlier later => earlier.equal later = false

/-- Whether an object is as the rules for it as a whole demand. -/
structure ObjectRules.Admits (r : ObjectRules) (members : List (String × Json)) : Prop where
  required : ∀ names ∈ r.required, ∀ name ∈ names, HasMember members name
  maxProperties : ∀ bound ∈ r.maxProperties, members.length ≤ bound.toNat
  minProperties : ∀ bound ∈ r.minProperties, bound.toNat ≤ members.length

/-! ## Schema objects -/

namespace ObjectSchema

variable {α : Type}

/-- Which schema governs the element at a position. At most one does. -/
inductive GovernsItem (o : ObjectSchema α) (position : Nat) (schema : α) : Prop
  | every (h : o.items = some (.all schema))
  | listed (schemas : List α) (h : o.items = some (.each schemas))
      (hschema : schemas[position]? = some schema)
  | further (schemas : List α) (h : o.items = some (.each schemas))
      (hposition : schemas.length ≤ position) (hschema : o.additionalItems = some schema)

/-- Which schemas govern the member with a name. The one for additional members does so only when no
other schema does. -/
inductive GovernsMember (o : ObjectSchema α) (name : String) (schema : α) : Prop
  | named (h : (o.properties.getD []).lookup name = some schema)
  | matching (pattern : Pattern) (h : (pattern, schema) ∈ o.patternProperties.getD [])
      (hmatch : pattern.isMatch name = true)
  | additional (h : o.additionalProperties = some schema)
      (hnamed : (o.properties.getD []).lookup name = none)
      (hmatch : ∀ entry ∈ o.patternProperties.getD [], entry.1.isMatch name = false)

/-- Whether an array is as the keywords for arrays demand. -/
structure ArrayHolds (holds : α → Json → Prop) (o : ObjectSchema α) (items : List Json) :
    Prop where
  rules : o.arrays.Admits items
  governed : ∀ position item schema, items[position]? = some item → o.GovernsItem position schema →
    holds schema item
  contains : ∀ schema ∈ o.contains, ∃ item ∈ items, holds schema item

/-- Whether an object is as the keywords for objects demand. -/
structure MembersHold (holds : α → Json → Prop) (o : ObjectSchema α)
    (members : List (String × Json)) : Prop where
  rules : o.objects.Admits members
  governed : ∀ name part schema, (name, part) ∈ members → o.GovernsMember name schema →
    holds schema part
  demandedNames : ∀ trigger required, (trigger, .names required) ∈ o.dependencies.getD [] →
    HasMember members trigger → ∀ name ∈ required, HasMember members name
  demandedSchemas : ∀ trigger schema, (trigger, .schema schema) ∈ o.dependencies.getD [] →
    HasMember members trigger → holds schema (.object members)
  propertyNames : ∀ schema ∈ o.propertyNames, ∀ name, HasMember members name →
    holds schema (.string name)

/-- Whether a value is as the keywords for its kind demand. -/
def KindHolds (holds : α → Json → Prop) (o : ObjectSchema α) : Json → Prop
  | .null | .bool _ => True
  | .number n => o.numbers.Admits n
  | .string s => o.strings.Admits s
  | .array items => o.ArrayHolds holds items
  | .object members => o.MembersHold holds members

/-- Whether a value is as a schema object demands, given which sub-schemas hold of which values. An
empty list of branches, which no document should have, demands nothing. -/
structure Holds (holds : α → Json → Prop) (o : ObjectSchema α) (value : Json) : Prop where
  type : o.type.accepts value = true
  enum : ∀ allowed ∈ o.enum, ∃ candidate ∈ allowed, candidate.equal value = true
  const : ∀ expected ∈ o.const, expected.equal value = true
  kind : o.KindHolds holds value
  allOf : ∀ schemas ∈ o.allOf, ∀ schema ∈ schemas, holds schema value
  anyOf : ∀ schemas ∈ o.anyOf, schemas ≠ [] → ∃ schema ∈ schemas, holds schema value
  oneOf : ∀ schemas ∈ o.oneOf, ∃ before schema after, schemas = before ++ schema :: after ∧
    holds schema value ∧ ∀ other ∈ before ++ after, ¬ holds other value
  not : ∀ schema ∈ o.not, ¬ holds schema value

end ObjectSchema

/-! ## Nodes -/

/-- The base in effect inside a schema with an identifier. One that is no URL changes nothing. -/
def Url.inside (scope : Url) (id? : Option String) : Url :=
  (id?.bind fun id => (scope.scope? id).toOption).getD scope

namespace Pool

variable {pool : Pool} {scope : Url} {node : Node} {value : Json}

end Pool

end Draft6
