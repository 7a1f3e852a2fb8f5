import Draft6.Number

/-!
# JSON values

Members of an object keep their order. A document never repeats a member name in one object,
because `Json.setMember` replaces the value of a name that is already there.
-/

namespace Draft6

/-- A JSON value. -/
inductive Json where
  | null
  | bool (value : Bool)
  | number (value : Number)
  | string (value : String)
  | array (items : List Json)
  | object (members : List (String × Json))

namespace Json

instance : Inhabited Json := ⟨.null⟩

/-- The six kinds of JSON values, as error messages name them. -/
def kindName : Json → String
  | .null => "null"
  | .bool _ => "boolean"
  | .number _ => "number"
  | .string _ => "string"
  | .array _ => "array"
  | .object _ => "object"

/-- Put a member at the end, or in the place of the member that has its name. -/
def setMember (members : List (String × Json)) (name : String) (value : Json) :
    List (String × Json) :=
  match members with
  | [] => [(name, value)]
  | (key, old) :: rest =>
    if key = name then (name, value) :: rest else (key, old) :: setMember rest name value

/-- The strings of a list, in the same order. -/
def strings (values : List String) : Json := .array (values.map .string)

mutual

/-- Structural equality, given equality of numbers. The order of members does not count, and
neither does it matter which of the two objects is searched for the other's members. -/
def equalBy (numbers : Number → Number → Bool) : Json → Json → Bool
  | .null, .null => true
  | .bool a, .bool b => a = b
  | .number a, .number b => numbers a b
  | .string a, .string b => a = b
  | .array xs, .array ys => equalItems numbers xs ys
  | .object xs, .object ys => xs.length = ys.length && equalMembers numbers xs ys
  | _, _ => false

/-- Equality of two arrays, element by element. -/
def equalItems (numbers : Number → Number → Bool) : List Json → List Json → Bool
  | [], [] => true
  | x :: xs, y :: ys => equalBy numbers x y && equalItems numbers xs ys
  | _, _ => false

/-- Whether every member of the first list has an equal member of its name in the second. -/
def equalMembers (numbers : Number → Number → Bool) :
    List (String × Json) → List (String × Json) → Bool
  | [], _ => true
  | (name, x) :: xs, ys =>
    (match ys.lookup name with
      | some y => equalBy numbers x y
      | none => false) && equalMembers numbers xs ys

end

/-- Equality of instances: `1` equals `1.0`, and a Boolean never equals a number. -/
def equal : Json → Json → Bool := equalBy Number.equal

/-- Equality of documents: `1` and `1.0` differ. -/
def same : Json → Json → Bool := equalBy Number.same

/-- The first element that occurs again later in the list. -/
def firstDuplicate? : List Json → Option Json
  | [] => none
  | x :: rest => if rest.any (equal x) then some x else firstDuplicate? rest

end Json

end Draft6
