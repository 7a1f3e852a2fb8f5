import Draft6.Url

/-!
# Failures of references

A reference may be no URL, or lead to no schema, or lead back to where it is being followed for the
same value.
-/

namespace Draft6

/-- Why a reference cannot be followed. -/
inductive ReferenceError where
  | unresolvable (address : String)
  | invalid (reference : String) (reason : UrlError)
  | cycle (reference : String)
deriving DecidableEq, Repr

/-- The words for a reference that cannot be followed. -/
def ReferenceError.message : ReferenceError → String
  | .unresolvable address => "unresolvable reference '" ++ address ++ "'"
  | .invalid reference reason =>
    "invalid reference '" ++ reference ++ "': " ++ reason.message
  | .cycle reference => "reference cycle through '" ++ reference ++ "'"

end Draft6
