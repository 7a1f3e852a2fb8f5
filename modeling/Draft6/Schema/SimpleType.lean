import Draft6.Json

/-!
# Types of values

The seven type names, and the rule that a schema's type keyword makes of them. Whole numbers are
integers however they are written, and every integer is a number.
-/

namespace Draft6

/-- A type that a schema can name. -/
inductive SimpleType where
  | integer
  | number
  | string
  | boolean
  | array
  | object
  | null
deriving DecidableEq, Repr

namespace SimpleType

/-- The name of a type. -/
def name : SimpleType → String
  | .integer => "integer"
  | .number => "number"
  | .string => "string"
  | .boolean => "boolean"
  | .array => "array"
  | .object => "object"
  | .null => "null"

/-- All types. -/
def all : List SimpleType := [.integer, .number, .string, .boolean, .array, .object, .null]

/-- The type with a name. -/
def ofName? (name : String) : Option SimpleType := all.find? fun t => t.name = name

/-- The most special type of a value. -/
def of : Json → SimpleType
  | .null => .null
  | .bool _ => .boolean
  | .number n => if n.isWhole then .integer else .number
  | .string _ => .string
  | .array _ => .array
  | .object _ => .object

/-- Whether a value has a type. -/
def accepts : SimpleType → Json → Bool
  | .integer, .number n => n.isWhole
  | .number, .number _ => true
  | .string, .string _ => true
  | .boolean, .bool _ => true
  | .array, .array _ => true
  | .object, .object _ => true
  | .null, .null => true
  | _, _ => false

end SimpleType

/-- What a schema demands of the type of a value. -/
inductive TypeRule where
  | any
  | single (type : SimpleType)
  | nullable (type : SimpleType)
  | union (types : List SimpleType)
deriving DecidableEq, Repr

namespace TypeRule

instance : Inhabited TypeRule := ⟨.any⟩

/-- The rule for a list of types. Null and one other type make a rule of their own. -/
def ofList (types : List SimpleType) : TypeRule :=
  match types with
  | [type] => .single type
  | [first, second] =>
    if first = .null ∧ second ≠ .null then .nullable second
    else if second = .null ∧ first ≠ .null then .nullable first
    else .union types
  | _ => .union types

/-- The words for a rule. -/
def text : TypeRule → String
  | .any => "any"
  | .single type => type.name
  | .nullable type => type.name ++ " or null"
  | .union types => "one of [" ++ String.intercalate ", " (types.map SimpleType.name) ++ "]"

/-- The value of the type keyword for a rule, if it needs one. -/
def toJson? : TypeRule → Option Json
  | .any => none
  | .single type => some (.string type.name)
  | .nullable type => some (Json.strings ["null", type.name])
  | .union types => some (Json.strings (types.map SimpleType.name))

/-- Whether a value keeps to a rule. -/
def accepts : TypeRule → Json → Bool
  | .any, _ => true
  | .single type, value => type.accepts value
  | .nullable type, value => SimpleType.null.accepts value || type.accepts value
  | .union types, value => types.any fun type => type.accepts value

end TypeRule

end Draft6
