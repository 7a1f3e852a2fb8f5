import Draft6.Json.Printer
import Draft6.Located
import Draft6.Pattern
import Draft6.ReferenceError
import Draft6.Schema.SimpleType
import Draft6.Text.Quoted

/-!
# Failures of values

What a validation reports: a cause and the pointer to the part of the value that it is about. Two
causes hold the failures that led to them. The failures inside `invalidPropertyName` are about a
member name, so their pointers start at the name and not at the value.
-/

namespace Draft6

/-- Why a value, or a part of it, is not as its schema demands. -/
inductive Cause where
  | neverValid
  | wrongType (expected : TypeRule) (actual : Json)
  | notMultipleOf (divisor actual : Binary64)
  | aboveMaximum (maximum actual : Number)
  | belowMinimum (minimum actual : Number)
  | notBelow (maximum actual : Number)
  | notAbove (minimum actual : Number)
  | tooLong (maximum : UInt64) (length : Nat)
  | tooShort (minimum : UInt64) (length : Nat)
  | patternMismatch (pattern : Pattern) (actual : String)
  | tooManyItems (maximum : UInt64) (count : Nat)
  | tooFewItems (minimum : UInt64) (count : Nat)
  | repeatedItem (item : Json)
  | noItemContained
  | tooManyProperties (maximum : UInt64) (count : Nat)
  | tooFewProperties (minimum : UInt64) (count : Nat)
  | missingProperty (name : String)
  | invalidPropertyName (name : String) (failures : List (Located Cause))
  | notEnumerated (allowed : List Json)
  | notConstant (expected : Json)
  | noBranch (failures : List (Located Cause))
  | severalBranches (count : Nat)
  | forbidden
  | reference (error : ReferenceError)
  | tooDeep (maximum : Nat)

/-- A cause with the pointer to the part of the value that it is about. -/
abbrev Failure := Located Cause

namespace Cause

/-- The words for a cause. -/
def message : Cause → String
  | .neverValid => "false schema always fails"
  | .wrongType expected actual => "expected " ++ expected.text ++ ", got " ++ actual.compact
  | .notMultipleOf divisor actual =>
    DecimalStyle.plain.text actual ++ " is not a multiple of " ++ DecimalStyle.plain.text divisor
  | .aboveMaximum maximum actual =>
    actual.text ++ " is greater than the maximum of " ++ maximum.text
  | .belowMinimum minimum actual =>
    actual.text ++ " is less than the minimum of " ++ minimum.text
  | .notBelow maximum actual => actual.text ++ " is not less than " ++ maximum.text
  | .notAbove minimum actual => actual.text ++ " is not greater than " ++ minimum.text
  | .tooLong maximum length =>
    "string of length " ++ toString length ++ " is longer than " ++ toString maximum
  | .tooShort minimum length =>
    "string of length " ++ toString length ++ " is shorter than " ++ toString minimum
  | .patternMismatch pattern actual =>
    Quoted.text actual ++ " does not match pattern '" ++ pattern.source ++ "'"
  | .tooManyItems maximum count =>
    "array of " ++ toString count ++ " items has more than " ++ toString maximum
  | .tooFewItems minimum count =>
    "array of " ++ toString count ++ " items has fewer than " ++ toString minimum
  | .repeatedItem item => "array contains " ++ item.compact ++ " more than once"
  | .noItemContained => "no array item matches the 'contains' schema"
  | .tooManyProperties maximum count =>
    "object with " ++ toString count ++ " properties has more than " ++ toString maximum
  | .tooFewProperties minimum count =>
    "object with " ++ toString count ++ " properties has fewer than " ++ toString minimum
  | .missingProperty name => "required property '" ++ name ++ "' is missing"
  | .invalidPropertyName name _ => "property name '" ++ name ++ "' is invalid"
  | .notEnumerated _ => "value is not one of the enumerated values"
  | .notConstant expected => "value is not equal to " ++ expected.compact
  | .noBranch _ => "no 'oneOf' branch matches"
  | .severalBranches count =>
    toString count ++ " 'oneOf' branches match, exactly one is allowed"
  | .forbidden => "value must not match the 'not' schema"
  | .reference error => error.message
  | .tooDeep maximum => "validation depth exceeds " ++ toString maximum

/-- Whether a cause tells nothing about the value, because a reference was not followed or the
validation went too deep. -/
def isStructural : Cause → Bool
  | .reference _ => true
  | .tooDeep _ => true
  | _ => false

end Cause

namespace Failure

/-- Whether a failure tells nothing about the value. -/
def isStructural (f : Failure) : Bool := f.cause.isStructural

/-- The line that reports a failure. -/
def text (f : Failure) : String :=
  (if f.pointer.isRoot then "(root)" else f.pointer.text) ++ ": " ++ f.cause.message

/-- The members of a failure as JSON. -/
def members (f : Failure) : List (String × Json) :=
  [("pointer", .string f.pointer.text), ("message", .string f.cause.message)]

/-- A failure as JSON. -/
def toJson (f : Failure) : Json := .object f.members

/-- The report on several failures, one a line. -/
def report (failures : List Failure) : String :=
  String.intercalate "\n" (failures.map text)

end Failure

end Draft6
