import Draft6.Failure
import Draft6.Number.Multiple
import Draft6.Schema

/-!
# Rules for one kind of value

The keywords that look at one kind of value and at no sub-schema: bounds of numbers, length and
pattern of strings, and the size of arrays and objects. Every rule that is broken is reported, in a
fixed order.
-/

namespace Draft6

/-- A cause when a rule is present and broken. -/
def brokenBy {ρ : Type} (rule? : Option ρ) (broken : ρ → Bool) (cause : ρ → Cause) : List Cause :=
  match rule? with
  | some rule => if broken rule then [cause rule] else []
  | none => []

/-- The rules that a number breaks. -/
def NumberRules.broken (r : NumberRules) (n : Number) : List Cause :=
  brokenBy r.multipleOf (fun d => !n.isMultipleOf d) (.notMultipleOf · n.toBinary64)
    ++ brokenBy r.maximum (fun b => n.compare b = .gt) (.aboveMaximum · n)
    ++ brokenBy r.exclusiveMaximum (fun b => n.compare b ≠ .lt) (.notBelow · n)
    ++ brokenBy r.minimum (fun b => n.compare b = .lt) (.belowMinimum · n)
    ++ brokenBy r.exclusiveMinimum (fun b => n.compare b ≠ .gt) (.notAbove · n)

/-- The rules that a string breaks. Its length is the number of its characters. -/
def StringRules.broken (r : StringRules) (s : String) : List Cause :=
  brokenBy r.maxLength (fun m => m.toNat < s.length) (.tooLong · s.length)
    ++ brokenBy r.minLength (fun m => s.length < m.toNat) (.tooShort · s.length)
    ++ brokenBy r.pattern (fun p => !p.isMatch s) (.patternMismatch · s)

/-- The rules that an array breaks. -/
def ArrayRules.broken (r : ArrayRules) (items : List Json) : List Cause :=
  brokenBy r.maxItems (fun m => m.toNat < items.length) (.tooManyItems · items.length)
    ++ brokenBy r.minItems (fun m => items.length < m.toNat) (.tooFewItems · items.length)
    ++ (if r.uniqueItems = some true then
          (Json.firstDuplicate? items).toList.map .repeatedItem
        else [])

/-- The rules on its number of members that an object breaks. -/
def ObjectRules.broken (r : ObjectRules) (members : List (String × Json)) : List Cause :=
  brokenBy r.maxProperties (fun m => m.toNat < members.length)
      (.tooManyProperties · members.length)
    ++ brokenBy r.minProperties (fun m => members.length < m.toNat)
      (.tooFewProperties · members.length)

/-- The rules for its kind that a value breaks. -/
def ObjectSchema.brokenFacets {σ : Type} (o : ObjectSchema σ) : Json → List Cause
  | .number n => o.numbers.broken n
  | .string s => o.strings.broken s
  | .array items => o.arrays.broken items
  | .object members => o.objects.broken members
  | _ => []

end Draft6
