import Draft6.Json.Printer
import Draft6.Loading
import Draft6.MetaSchema

/-!
# Commands

What the command line does: validate documents against a schema, check a schema against the
meta-schema, and list the addresses in a schema. A command that cannot be carried out ends with code
two, whatever it has written before; a document that is not valid gives code one.
-/

namespace Draft6

/-- A command with its arguments. -/
inductive Command where
  | validate (schema : String) (files preloads : List String) (asJson : Bool)
  | check (schema : String)
  | inspect (schema : String) (asJson : Bool)
deriving DecidableEq, Repr

/-- Why a command cannot be carried out. -/
inductive CommandError where
  | preloadForm (argument : String)
  | document (error : Error)

/-- The words for a command that cannot be carried out. -/
def CommandError.message : CommandError → String
  | .preloadForm argument => "--preload expects URI=FILE, got '" ++ argument ++ "'"
  | .document error => error.message

/-- What a command leaves behind: its code, and what it wrote as output and as errors. -/
structure Outcome where
  code : Nat
  output : String
  errors : String
deriving DecidableEq, Repr

namespace Outcome

/-- The outcome of a command that was carried out. -/
def done (isValid : Bool) (output : String) : Outcome := ⟨if isValid then 0 else 1, output, ""⟩

/-- The outcome of a command that could not be carried out. -/
def failed (output : String) (error : CommandError) : Outcome :=
  ⟨2, output, "Error: " ++ error.message ++ "\n"⟩

end Outcome

namespace Command

/-- The name and version that the inspection begins with. -/
def banner : String := "json-schema-rs v0.1.0"

/-- A schema file and the base it stands in. -/
def loadSchema (disk : Disk) (path : String) : Except CommandError (Schema × Url) := do
  let schema ← ((Location.path path).loadSchema disk Limits.default).mapError .document
  pure (schema, ((Location.path path).base? disk).getD Url.implicitBase)

/-- A schema file that a preload argument names, with its URL. -/
def loadPreload (disk : Disk) (argument : String) : Except CommandError (String × Schema) :=
  match Text.cut '=' argument.toList with
  | (_, none) => .error (.preloadForm argument)
  | (uri, some path) => do
    let (schema, _) ← loadSchema disk (String.ofList path)
    pure (String.ofList uri, schema)

/-- Put preloaded schemas into a pool. -/
def addPreloads (pool : Pool) : (position : Nat) → List (String × Schema) →
    Except CommandError Pool
  | _, [] => .ok pool
  | position, (uri, schema) :: rest => do
    let pool ← (pool.add (.extra (toString position)) schema (some uri)).mapError
      fun error => .document (.url error)
    addPreloads pool (position + 1) rest

/-- The pool and the schema that documents are validated with. -/
def prepare (disk : Disk) (schema : String) (preloads : List String) :
    Except CommandError (Pool × Schema) := do
  let (schema, base) ← loadSchema disk schema
  let remotes ← preloads.mapM (loadPreload disk)
  let pool ← addPreloads (Pool.draft6.addAt .main schema base) 0 remotes
  pure (pool, schema)

/-- What is found out about one document. -/
structure Verdict where
  file : String
  document : Json
  failures : List Failure

namespace Verdict

/-- Whether the document is valid. -/
def isValid (v : Verdict) : Bool := v.failures.isEmpty

/-- The lines that list failures. -/
def failureLines (failures : List Failure) : String :=
  String.join (failures.map fun failure => "  - " ++ failure.text ++ "\n")

/-- The lines on one document. -/
def text (v : Verdict) : String :=
  if v.isValid then "✓ " ++ v.file ++ " is valid\n"
  else "✗ " ++ v.file ++ " is invalid\n" ++ failureLines v.failures

/-- A failure with the part of the document that it is about. -/
def failureJson (document : Json) (failure : Failure) : Json :=
  .object (failure.members ++ [("value", (failure.pointer.lookup? document).getD .null)])

/-- The report on one document as JSON. -/
def toJson (v : Verdict) : Json :=
  .object [("file", .string v.file), ("valid", .bool v.isValid),
    ("errors", .array (v.failures.map (failureJson v.document)))]

end Verdict

/-- Load a document and validate it. -/
def judge (disk : Disk) (pool : Pool) (schema : Schema) (file : String) :
    Except CommandError Verdict := do
  let document ← ((Location.path file).loadJson disk Limits.default).mapError .document
  pure ⟨file, document, pool.failures Limits.default schema.node document⟩

/-- Validate documents one after the other, up to the first that cannot be loaded. -/
def judgeAll (disk : Disk) (pool : Pool) (schema : Schema) :
    List String → List Verdict × Option CommandError
  | [] => ([], none)
  | file :: rest => match judge disk pool schema file with
    | .error error => ([], some error)
    | .ok verdict =>
      let (verdicts, error?) := judgeAll disk pool schema rest
      (verdict :: verdicts, error?)

/-- The output on several documents. As JSON it is written only when all of them could be loaded. -/
def report (asJson : Bool) (verdicts : List Verdict) (error? : Option CommandError) : Outcome :=
  let lines := String.join (verdicts.map Verdict.text)
  match error? with
  | some error => Outcome.failed (if asJson then "" else lines) error
  | none => Outcome.done (verdicts.all Verdict.isValid)
    (if asJson then (Json.array (verdicts.map Verdict.toJson)).pretty ++ "\n" else lines)

/-- Validate documents against a schema. -/
def runValidate (disk : Disk) (schema : String) (files preloads : List String) (asJson : Bool) :
    Outcome :=
  match prepare disk schema preloads with
  | .error error => Outcome.failed "" error
  | .ok (pool, schema) =>
    let (verdicts, error?) := judgeAll disk pool schema files
    report asJson verdicts error?

/-- Check a schema against the meta-schema. -/
def runCheck (disk : Disk) (path : String) : Outcome :=
  match (Location.path path).loadJson disk Limits.default with
  | .error error => Outcome.failed "" (.document error)
  | .ok document =>
    match Pool.draft6.failures Limits.default MetaSchema.node document with
    | [] => Outcome.done true ("✓ " ++ path ++ " is a valid draft-06 schema\n")
    | failures => Outcome.done false
      ("✗ " ++ path ++ " is not a valid draft-06 schema\n" ++ Verdict.failureLines failures)

/-- List the addresses in a schema. -/
def runInspect (disk : Disk) (path : String) (asJson : Bool) : Outcome :=
  match loadSchema disk path with
  | .error error => Outcome.failed "" error
  | .ok (schema, base) =>
    let addresses := (Pool.empty.addAt .main schema base).addresses
    Outcome.done true
      (if asJson then
        (Json.object [("base", .string base.text), ("addresses", Json.strings addresses)]).pretty
          ++ "\n"
      else
        banner ++ "\nBase: " ++ base.text ++ "\nAddresses: " ++ toString addresses.length ++ "\n"
          ++ String.join (addresses.map fun address => "  " ++ address ++ "\n"))

/-- Carry out a command. -/
def run (disk : Disk) : Command → Outcome
  | .validate schema files preloads asJson => runValidate disk schema files preloads asJson
  | .check schema => runCheck disk schema
  | .inspect schema asJson => runInspect disk schema asJson

end Command

end Draft6
