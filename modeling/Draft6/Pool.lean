import Draft6.Address
import Draft6.ReferenceError
import Draft6.Schema.Fold

/-!
# Pools of schemas

A pool knows the schemas of the documents that were put into it, and under which addresses they can
be referred to. Every schema claims its place in its document, its place below the nearest schema
around it that has an identifier with a URL, and its plain name. Of several schemas that claim one
address the first one has it: documents in the order in which they came, and in a document every
schema before its sub-schemas.

How identifiers and references are joined to the base around them is left open where it does not
matter. It is the joining of URLs unless something else is said.
-/

namespace Draft6

/-- What tells the documents of a pool apart. -/
inductive DocumentName where
  | metaSchema
  | main
  | extra (name : String)
deriving DecidableEq, Repr

/-- A place in a document. -/
structure Place where
  document : DocumentName
  pointer : Pointer
deriving DecidableEq, Repr

/-- A schema at its place. -/
structure Node where
  place : Place
  schema : Schema

instance : Inhabited Node := ⟨⟨⟨.metaSchema, Pointer.root⟩, default⟩⟩

namespace Node

/-- The root of a document. -/
def root (document : DocumentName) (schema : Schema) : Node :=
  ⟨⟨document, Pointer.root⟩, schema⟩

/-- A schema below a node. -/
def child (node : Node) (segments : List String) (schema : Schema) : Node :=
  ⟨⟨node.place.document, node.place.pointer ++ ⟨segments⟩⟩, schema⟩

/-- The direct sub-schemas at their places. -/
def children (node : Node) : List Node :=
  node.schema.children.map fun (segments, schema) => node.child segments schema

end Node

/-- A node in a pool: the base in effect where it stands, and the addresses that it claims. -/
structure Entry where
  node : Node
  scope : Url
  addresses : List String

/-- A way to join an identifier or a reference to the base around it. -/
abbrev Joining := Url → String → Except UrlError Url

/-- What is in effect at the root of a resource: the base, and the way from there. -/
structure Resource where
  base : Url
  pointer : Pointer

namespace Resource

/-- What is in effect below some segments. -/
def descend (r : Resource) (segments : List String) : Resource :=
  { r with pointer := r.pointer ++ ⟨segments⟩ }

/-- What is in effect inside a schema with an identifier. One that is only a fragment, and one that
is no URL, begins no resource. -/
def enter (r : Resource) (id? : Option String) (scope? : Joining := Url.scope?) : Resource :=
  match id? with
  | some id =>
    match scope? r.base id with
    | .ok base => if id.toList.head? = some '#' then r else ⟨base, Pointer.root⟩
    | .error _ => r
  | none => r

/-- The address of the plain name that an identifier declares. -/
def anchor? (r : Resource) (id? : Option String) (scope? : Joining := Url.scope?) :
    Option String := do
  let id ← id?
  let name ← Address.anchor? id
  let base ← (scope? r.base id).toOption
  pure (Address.ofAnchor base name)

/-- The address of the place. -/
def address (r : Resource) : String := Address.ofPointer r.base r.pointer

end Resource

/-- The identifier of a schema. -/
def Schema.id? (s : Schema) : Option String := s.object?.bind ObjectSchema.id

/-- The addresses that a node claims. -/
def Node.addresses (node : Node) (document : Url) (around : Resource)
    (scope? : Joining := Url.scope?) : List String :=
  (around.anchor? node.schema.id? scope?).toList
    ++ [(around.enter node.schema.id? scope?).address,
      Address.ofPointer document node.place.pointer]

/-- The entry of one node. -/
def Entry.of (node : Node) (document : Url) (around : Resource) (scope? : Joining := Url.scope?) :
    Entry :=
  ⟨node, around.base, node.addresses document around scope?⟩

/-- How the entries of a schema depend on where it stands. -/
abbrev Indexing := (document : Url) → (place : Place) → (around : Resource) → List Entry

/-- The entries of a schema and all schemas in it, each before its sub-schemas, for some way to join
identifiers. -/
def Schema.entriesBy (scope? : Joining) : Schema → Indexing :=
  fold
    (fun value document place around => [Entry.of ⟨place, .boolean value⟩ document around scope?])
    (fun o document place around =>
      let node : Node := ⟨place, .object (o.map Prod.fst)⟩
      let inside := around.enter o.id scope?
      Entry.of node document around scope? :: o.children.flatMap fun (segments, _, entries) =>
        entries document { place with pointer := place.pointer ++ ⟨segments⟩ }
          (inside.descend segments))

/-- The entries of a schema and all schemas in it, each before its sub-schemas. -/
def Schema.entries : Schema → Indexing := entriesBy Url.scope?

/-- The nodes of a document, each before its sub-schemas. -/
def Schema.nodes (document : DocumentName) (root : Schema) : List Node :=
  (root.entries Url.implicitBase ⟨document, Pointer.root⟩ ⟨Url.implicitBase, Pointer.root⟩).map
    Entry.node

/-- The node of a document at a pointer. -/
def Schema.node? (document : DocumentName) (root : Schema) (pointer : Pointer) : Option Node :=
  (root.nodes document).find? fun node => node.place.pointer = pointer

/-- The nodes of several documents with their addresses. -/
structure Pool where
  entries : List Entry

namespace Pool

/-- The pool of no documents. -/
def empty : Pool := ⟨[]⟩

instance : Inhabited Pool := ⟨empty⟩

/-- Put a document into a pool, with the base that its root stands in. -/
def addAt (pool : Pool) (document : DocumentName) (schema : Schema) (base : Url)
    (scope? : Joining := Url.scope?) : Pool :=
  ⟨pool.entries ++ schema.entriesBy scope? base ⟨document, Pointer.root⟩ ⟨base, Pointer.root⟩⟩

/-- Put a document into a pool, under a URL or the implicit base. -/
def add (pool : Pool) (document : DocumentName) (schema : Schema) (uri? : Option String) :
    Except UrlError Pool := do
  let base ← match uri? with
    | some uri => Url.base? uri
    | none => pure Url.implicitBase
  pure (pool.addAt document schema base)

/-- The entry that has an address. -/
def entry? (pool : Pool) (address : String) : Option Entry :=
  pool.entries.find? fun entry => entry.addresses.contains address

/-- Follow a reference that stands where some base is in effect. -/
def resolve (pool : Pool) (reference : String) (scope : Url) (join? : Joining := Url.join?) :
    Except ReferenceError Entry :=
  match join? scope reference with
  | .error reason => .error (.invalid reference reason)
  | .ok target =>
    match pool.entry? (Address.ofUrl target) with
    | some entry => .ok entry
    | none => .error (.unresolvable (Address.ofUrl target))

/-- The node with a URL, which may be relative to the implicit base. -/
def get? (pool : Pool) (uri : String) : Option Node :=
  (pool.resolve uri Url.implicitBase).toOption.map Entry.node

/-- The base in effect where a node stands. -/
def scopeOf? (pool : Pool) (place : Place) : Option Url :=
  (pool.entries.find? fun entry => entry.node.place = place).map Entry.scope

/-- A sorted list without repetitions. -/
def dedupSorted : List String → List String
  | [] => []
  | [a] => [a]
  | a :: b :: rest => if a = b then dedupSorted (b :: rest) else a :: dedupSorted (b :: rest)

/-- All addresses in order. -/
def addresses (pool : Pool) : List String :=
  dedupSorted ((pool.entries.flatMap Entry.addresses).mergeSort fun a b => decide (a ≤ b))

/-- The number of addresses. -/
def size (pool : Pool) : Nat := pool.addresses.length

/-- Whether there are no addresses. -/
def isEmpty (pool : Pool) : Bool := pool.entries.isEmpty

end Pool

end Draft6
