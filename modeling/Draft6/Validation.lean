import Draft6.Limits
import Draft6.Pool
import Draft6.Schema.Facets

/-!
# Validation

A validation visits a schema together with a value and collects all failures. Each keyword looks at
the value by itself. What it says about parts of the value, or about other schemas for the same
value, comes from further visits, and these are a parameter of the keyword. A reference stands for
the schema that it leads to and for nothing else. It may not lead back to a schema that is being
followed for the same value.

Failures that tell nothing about the value are never dropped, whatever becomes of the branch that
they come from.
-/

namespace Draft6

/-- Where a visit is: the part of the value, the base in effect, and the targets of the references
that are being followed for this part of the value. -/
structure Frame where
  pointer : Pointer
  scope : Url
  active : List Place

namespace Frame

/-- A failure of the visited part. -/
def failure (frame : Frame) (cause : Cause) : Failure := ⟨frame.pointer, cause⟩

/-- The frame of a member or element. -/
def child (frame : Frame) (segment : String) : Frame :=
  { frame with pointer := frame.pointer.join segment, active := [] }

/-- The frame of a member name, which is a value of its own. -/
def memberName (frame : Frame) : Frame := { frame with pointer := Pointer.root, active := [] }

/-- The frame inside a schema with an identifier. One that is no URL changes nothing. -/
def enter (frame : Frame) (id? : Option String) : Frame :=
  match id?.map frame.scope.scope? with
  | some (.ok scope) => { frame with scope }
  | _ => frame

/-- The frame at the target of a reference. -/
def follow (frame : Frame) (target : Entry) : Frame :=
  { frame with scope := target.scope, active := target.node.place :: frame.active }

end Frame

/-- A visit of a schema and a value. -/
abbrev Visit (α : Type) := Frame → α → Json → List Failure

/-- The failures that are never dropped. -/
def structural (failures : List Failure) : List Failure := failures.filter Failure.isStructural

/-- The failures that tell about the value. -/
def ordinary (failures : List Failure) : List Failure :=
  failures.filter fun failure => !failure.isStructural

namespace ObjectSchema

variable {α : Type} (visit : Visit α) (frame : Frame) (o : ObjectSchema α)

/-! ## Keywords for every value -/

/-- Failures of the type. -/
def typeFailures (value : Json) : List Failure :=
  if o.type.accepts value then [] else [frame.failure (.wrongType o.type value)]

/-- Failures of the enumeration. -/
def enumFailures (value : Json) : List Failure :=
  match o.enum with
  | some allowed =>
    if allowed.any fun candidate => candidate.equal value then []
    else [frame.failure (.notEnumerated allowed)]
  | none => []

/-- Failures of the constant. -/
def constFailures (value : Json) : List Failure :=
  match o.const with
  | some expected =>
    if expected.equal value then [] else [frame.failure (.notConstant expected)]
  | none => []

/-- Failures of the rules for one kind of value. -/
def facetFailures (value : Json) : List Failure := (o.brokenFacets value).map frame.failure

/-! ## Keywords for arrays -/

/-- The schema for an element: the one for its position, or else the one for further elements. -/
def itemSchema? (position : Nat) : Option α :=
  match o.items with
  | some (.all schema) => some schema
  | some (.each schemas) => schemas[position]? <|> o.additionalItems
  | none => none

/-- Failures of elements. -/
def itemFailures (items : List Json) : List Failure :=
  (items.mapIdx fun i item =>
    match o.itemSchema? i with
    | some schema => visit (frame.child (toString i)) schema item
    | none => []).flatten

/-- Search an array from some position on for an element that a schema accepts. -/
def searchItems (schema : α) (position : Nat) : List Json → List Failure
  | [] => [frame.failure .noItemContained]
  | item :: rest =>
    let failures := visit (frame.child (toString position)) schema item
    if failures.isEmpty then []
    else structural failures ++ searchItems schema (position + 1) rest

/-- Failures to contain an element. -/
def containsFailures (items : List Json) : List Failure :=
  match o.contains with
  | some schema => searchItems visit frame schema 0 items
  | none => []

/-! ## Keywords for objects -/

/-- Failures of members that are not there. -/
def missingFailures (members : List (String × Json)) (names : List String) : List Failure :=
  (names.filter fun name => (members.lookup name).isNone).map fun name =>
    (frame.child name).failure (.missingProperty name)

/-- Failures of required members. -/
def requiredFailures (members : List (String × Json)) : List Failure :=
  missingFailures frame members (o.objects.required.getD [])

/-- Failures of members that have a schema of their own. -/
def propertyFailures (members : List (String × Json)) : List Failure :=
  members.flatMap fun (name, value) =>
    match (o.properties.getD []).lookup name with
    | some schema => visit (frame.child name) schema value
    | none => []

/-- The schemas of the patterns that a name matches. -/
def patternSchemas (name : String) : List α :=
  ((o.patternProperties.getD []).filter fun entry => entry.1.isMatch name).map Prod.snd

/-- Failures of members whose names match patterns. -/
def patternFailures (members : List (String × Json)) : List Failure :=
  members.flatMap fun (name, value) =>
    (o.patternSchemas name).flatMap fun schema => visit (frame.child name) schema value

/-- Whether a member has no schema by its name or by a pattern. -/
def isAdditional (name : String) : Bool :=
  ((o.properties.getD []).lookup name).isNone && (o.patternSchemas name).isEmpty

/-- Failures of additional members. -/
def additionalFailures (members : List (String × Json)) : List Failure :=
  match o.additionalProperties with
  | some schema => members.flatMap fun (name, value) =>
    if o.isAdditional name then visit (frame.child name) schema value else []
  | none => []

/-- Failures of what members demand of the whole object. -/
def dependencyFailures (members : List (String × Json)) : List Failure :=
  (o.dependencies.getD []).flatMap fun (trigger, dependency) =>
    if (members.lookup trigger).isNone then []
    else match dependency with
      | .names required => missingFailures frame members required
      | .schema schema => visit frame schema (.object members)

/-- Failures of member names. -/
def nameFailures (members : List (String × Json)) : List Failure :=
  match o.propertyNames with
  | some schema => members.flatMap fun (name, _) =>
    let failures := visit frame.memberName schema (.string name)
    if failures.isEmpty then [] else [frame.failure (.invalidPropertyName name failures)]
  | none => []

/-! ## Keywords that combine schemas -/

/-- Failures of schemas that must all accept the value. -/
def allOfFailures (value : Json) : List Failure :=
  (o.allOf.getD []).flatMap fun schema => visit frame schema value

/-- Failures of schemas one of which must accept the value. No schemas at all demand nothing. -/
def anyOfFailures (value : Json) : List Failure :=
  let branches := (o.anyOf.getD []).map fun schema => visit frame schema value
  if branches.any List.isEmpty then structural branches.flatten else branches.flatten

/-- Failures of schemas exactly one of which must accept the value. -/
def oneOfFailures (value : Json) : List Failure :=
  match o.oneOf with
  | some schemas =>
    let branches := schemas.map fun schema => visit frame schema value
    structural branches.flatten ++ match branches.countP List.isEmpty with
      | 0 => [frame.failure (.noBranch (ordinary branches.flatten))]
      | 1 => []
      | count => [frame.failure (.severalBranches count)]
  | none => []

/-- Failures of a schema that must not accept the value. -/
def notFailures (value : Json) : List Failure :=
  match o.not with
  | some schema =>
    let failures := visit frame schema value
    if failures.isEmpty then [frame.failure .forbidden] else structural failures
  | none => []

/-! ## All keywords -/

/-- Failures of the keywords for one kind of value. -/
def kindFailures (value : Json) : List Failure :=
  match value with
  | .array items =>
    o.itemFailures visit frame items ++ o.facetFailures frame value
      ++ o.containsFailures visit frame items
  | .object members =>
    o.facetFailures frame value ++ o.requiredFailures frame members
      ++ o.propertyFailures visit frame members ++ o.patternFailures visit frame members
      ++ o.additionalFailures visit frame members ++ o.dependencyFailures visit frame members
      ++ o.nameFailures visit frame members
  | value => o.facetFailures frame value

/-- Failures of all keywords. -/
def failures (value : Json) : List Failure :=
  o.typeFailures frame value ++ o.enumFailures frame value ++ o.constFailures frame value
    ++ o.kindFailures visit frame value
    ++ o.allOfFailures visit frame value ++ o.anyOfFailures visit frame value
    ++ o.oneOfFailures visit frame value ++ o.notFailures visit frame value

end ObjectSchema

namespace Pool

/-- Failures of what a reference stands for. -/
def referenceFailures (pool : Pool) (visit : Visit Node) (frame : Frame) (reference : String)
    (value : Json) : List Failure :=
  match pool.resolve reference frame.scope with
  | .error error => [frame.failure (.reference error)]
  | .ok target =>
    if frame.active.contains target.node.place then
      [frame.failure (.reference (.cycle reference))]
    else visit (frame.follow target) target.node value

/-- Failures of a node, with further visits as a parameter. -/
def nodeFailures (pool : Pool) (visit : Visit Node) (frame : Frame) (node : Node) (value : Json) :
    List Failure :=
  match node.schema with
  | .boolean true => []
  | .boolean false => [frame.failure .neverValid]
  | .object o =>
    match o.ref with
    | some reference => pool.referenceFailures visit frame reference value
    | none => (o.mapPath node.child).failures visit (frame.enter o.id) value

/-- Visit a node with some levels left below the maximum. -/
def visit (pool : Pool) (maximum : Nat) : (levels : Nat) → Visit Node
  | 0, frame, _, _ => [frame.failure (.tooDeep maximum)]
  | levels + 1, frame, node, value => pool.nodeFailures (visit pool maximum levels) frame node value

/-- Where the validation of a node begins. -/
def start (pool : Pool) (node : Node) : Frame :=
  ⟨Pointer.root, (pool.scopeOf? node.place).getD Url.implicitBase, []⟩

/-- The failures of a value against a node. There are none exactly when the value is valid. -/
def failures (pool : Pool) (limits : Limits) (node : Node) (value : Json) : List Failure :=
  pool.visit limits.validationDepth (limits.validationDepth + 1) (pool.start node) node value

/-- Whether a value is valid against a node. -/
def accepts (pool : Pool) (limits : Limits) (node : Node) (value : Json) : Bool :=
  (pool.failures limits node value).isEmpty

end Pool

end Draft6
