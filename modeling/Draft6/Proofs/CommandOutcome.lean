import Draft6.Command
import Draft6.Proofs.LaterDocuments
import Draft6.Proofs.UrlResource

/-!
# What a validation from the command line leaves behind

A validation loads the schema, then the preloaded schemas, then one document after the other. What a
file holds is said here without the steps of a loader: a text that can be read, is not too large and is
JSON, and for a schema is read as one. The code is two exactly when a file or an argument does not hold
what it should. If everything is there, code and report are those of the validation of each document in
the pool of the meta-schema, the schema and the preloaded schemas. The first document that is missing
ends the report: lines that are written stay, but the report as JSON is written at the end only.
-/

namespace Draft6

/-! ## Steps that succeed -/

section Steps

variable {ε ε' α β : Type}

end Steps

namespace Disk

variable {disk : Disk} {path argument : String} {document : Json} {schema : Schema}

/-- Whether a file holds a document: it can be read, it is not too large, and its text is JSON. -/
def Holds (disk : Disk) (path : String) (document : Json) : Prop :=
  ∃ text, disk.read path = .ok text ∧ text.utf8ByteSize ≤ Limits.default.documentSize ∧
    Json.parse text = .ok document

end Disk

namespace Command

variable {disk : Disk} {path argument : String} {document : Json} {schema : Schema} {pool : Pool}

/-! ## The pool -/

/-- A preloaded schema as a document to be put into a pool. -/
def addition (position : Nat) (remote : String × Schema) : Addition :=
  .under (.extra (toString position)) remote.2 (some remote.1)

/-- The part of a report as JSON on one document: its file, the verdict, and the failures in their order,
each with the part of the document that it is about. -/
def entry (pool : Pool) (schema : Schema) (file : String) (document : Json) : Json :=
  .object [("file", .string file),
    ("valid", .bool (pool.accepts Limits.default schema.node document)),
    ("errors", .array ((pool.failures Limits.default schema.node document).map fun failure =>
      .object [("pointer", .string failure.pointer.text), ("message", .string failure.cause.message),
        ("value", (failure.pointer.lookup? document).getD .null)]))]

/-- The lines of a report on one document: the verdict, and a line for each failure in their order. -/
def lines (pool : Pool) (schema : Schema) (file : String) (document : Json) : String :=
  if pool.accepts Limits.default schema.node document then "✓ " ++ file ++ " is valid\n"
  else "✗ " ++ file ++ " is invalid\n" ++
    String.join ((pool.failures Limits.default schema.node document).map fun failure =>
      "  - " ++ failure.text ++ "\n")

end Command

end Draft6
