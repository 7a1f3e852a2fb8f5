/-!
# Limits

Three numbers keep hostile input in bounds: the size of a document in bytes, how deep the schemas of
a document nest, and how deep a validation goes. A number is within its limit up to and including
the maximum.
-/

namespace Draft6

/-- The maxima that a reader or a validation keeps to. -/
structure Limits where
  documentSize : Nat := 104857600
  schemaDepth : Nat := 128
  validationDepth : Nat := 128
deriving DecidableEq, Repr

/-- A number beyond its maximum. -/
inductive LimitError where
  | documentSize (size maximum : Nat)
  | schemaDepth (depth maximum : Nat)
  | validationDepth (depth maximum : Nat)
deriving DecidableEq, Repr

/-- The words for a number beyond its maximum. -/
def LimitError.message : LimitError → String
  | .documentSize size maximum =>
    "document size " ++ toString size ++ " bytes exceeds maximum " ++ toString maximum ++ " bytes"
  | .schemaDepth depth maximum =>
    "schema depth " ++ toString depth ++ " exceeds maximum " ++ toString maximum
  | .validationDepth depth maximum =>
    "validation depth " ++ toString depth ++ " exceeds maximum " ++ toString maximum

namespace Limits

/-- The maxima when nothing else is asked for. -/
def default : Limits := {}

/-- Lower maxima, for input that is not trusted. -/
def strict : Limits := ⟨10485760, 64, 64⟩

/-- Higher maxima. -/
def permissive : Limits := ⟨1073741824, 512, 512⟩

instance : Inhabited Limits := ⟨default⟩

/-- Check the size of a document. -/
def checkDocumentSize (l : Limits) (size : Nat) : Except LimitError Unit :=
  if l.documentSize < size then .error (.documentSize size l.documentSize) else .ok ()

/-- Check how deep a schema lies. -/
def checkSchemaDepth (l : Limits) (depth : Nat) : Except LimitError Unit :=
  if l.schemaDepth < depth then .error (.schemaDepth depth l.schemaDepth) else .ok ()

/-- Check how deep a step of a validation lies. -/
def checkValidationDepth (l : Limits) (depth : Nat) : Except LimitError Unit :=
  if l.validationDepth < depth then .error (.validationDepth depth l.validationDepth) else .ok ()

end Limits

end Draft6
