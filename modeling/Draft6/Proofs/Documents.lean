import Draft6.Proofs.Standing
import Mathlib.Data.List.Nodup

/-!
# Documents of a pool

The entries of a pool are those of its documents, in the order in which the documents came. Which
nodes they belong to does not depend on any base. So when every document has a name of its own, and no
two schemas in one document stand at the same place, a place tells which entry is meant.
-/

namespace Draft6

/-- A document that is put into a pool, with the base that its root stands in. -/
structure Document where
  name : DocumentName
  root : Schema
  base : Url

/-- The entries of a document, each before those of its sub-schemas. -/
def Document.entries (d : Document) (scope? : Joining := Url.scope?) : List Entry :=
  d.root.entriesBy scope? d.base ⟨d.name, Pointer.root⟩ ⟨d.base, Pointer.root⟩

namespace Schema

/-- The pointers of all schemas in a schema. -/
def pointers (s : Schema) : List Pointer := (s.nodes .main).map fun node => node.place.pointer

/-- Whether no two schemas in a schema stand at the same place. -/
def Separate (s : Schema) : Prop := s.pointers.Nodup

instance (s : Schema) : Decidable s.Separate := inferInstanceAs (Decidable (List.Nodup _))

/-- Which nodes the entries of a schema belong to depends on no base and on no joining. -/
theorem map_node_entriesBy (scope? scope?' : Joining) (s : Schema) (document document' : Url)
    (place : Place) (around around' : Resource) :
    (s.entriesBy scope?' document' place around').map Entry.node =
      (s.entriesBy scope? document place around).map Entry.node := by
  induction s using induction_on_children generalizing place around around' with
  | boolean value => rfl
  | object o ih =>
    rw [entriesBy_object, entriesBy_object, List.map_cons, List.map_cons, List.map_flatMap,
      List.map_flatMap]
    exact congrArg _ (List.flatMap_congr fun child hchild => ih child hchild _ _ _)

/-- The nodes of a document that has another name stand at the same pointers. -/
theorem map_pointer_entriesBy (scope? : Joining) (s : Schema) (document : Url)
    (name name' : DocumentName) (pointer : Pointer) (around : Resource) :
    (s.entriesBy scope? document ⟨name', pointer⟩ around).map (fun e => e.node.place.pointer) =
      (s.entriesBy scope? document ⟨name, pointer⟩ around).map fun e => e.node.place.pointer := by
  induction s using induction_on_children generalizing pointer around with
  | boolean value => rfl
  | object o ih =>
    rw [entriesBy_object, entriesBy_object, List.map_cons, List.map_cons, List.map_flatMap,
      List.map_flatMap]
    exact congrArg _ (List.flatMap_congr fun child hchild => ih child hchild _ _)

/-- The nodes of a document stand in it. -/
theorem document_of_mem_entriesBy {scope? : Joining} {s : Schema} {document : Url} {place : Place}
    {around : Resource} {entry : Entry} (h : entry ∈ s.entriesBy scope? document place around) :
    entry.node.place.document = place.document := by
  induction s using induction_on_children generalizing place around with
  | boolean value => rw [List.mem_singleton.mp h]; rfl
  | object o ih =>
    rw [entriesBy_object] at h
    rcases List.mem_cons.mp h with rfl | h
    · rfl
    · obtain ⟨child, hchild, h⟩ := List.mem_flatMap.mp h
      exact (ih child hchild h).trans rfl

end Schema

namespace Document

variable (scope? : Joining) (d : Document)

/-- The entries of a document belong to its nodes. -/
theorem map_node_entries : (d.entries scope?).map Entry.node = d.root.nodes d.name :=
  Schema.map_node_entriesBy _ _ _ _ _ _ _ _

/-- The nodes of a document stand at the pointers of its root. -/
theorem map_pointer_entries :
    (d.entries scope?).map (fun entry => entry.node.place.pointer) = d.root.pointers := by
  rw [Schema.pointers, ← map_node_entries scope? ⟨.main, d.root, d.base⟩, List.map_map]
  exact Schema.map_pointer_entriesBy _ _ _ _ _ _ _

end Document

/-- Whether every document is put into a pool once: each has a name of its own, and no two schemas in
it stand at the same place. -/
structure AddedOnce (documents : List Document) : Prop where
  names : (documents.map Document.name).Nodup
  separate : ∀ d ∈ documents, d.root.Separate

namespace Pool

/-- Put documents into a pool, one after another. -/
def addAll (pool : Pool) (documents : List Document) (scope? : Joining := Url.scope?) : Pool :=
  documents.foldl (fun pool d => pool.addAt d.name d.root d.base scope?) pool

/-- Whether a node is one of those that a pool knows. -/
def Indexes (pool : Pool) (node : Node) : Prop := ∃ entry ∈ pool.entries, entry.node = node

/-- Documents that are put into a pool come behind those that are in it. -/
theorem entries_addAll (pool : Pool) (documents : List Document) (scope? : Joining) :
    (pool.addAll documents scope?).entries =
      pool.entries ++ documents.flatMap fun d => d.entries scope? := by
  induction documents generalizing pool with
  | nil => exact (List.append_nil _).symm
  | cons d rest ih =>
    change ((pool.addAt d.name d.root d.base scope?).addAll rest scope?).entries = _
    rw [ih, List.flatMap_cons, ← List.append_assoc]
    rfl

/-- The entries of a pool are those of the documents that were put into it. -/
theorem mem_entries_addAll {documents : List Document} {scope? : Joining} {entry : Entry} :
    entry ∈ (empty.addAll documents scope?).entries ↔
      ∃ d ∈ documents, entry ∈ d.entries scope? := by
  rw [entries_addAll]
  exact List.mem_flatMap

/-- The base noted for a place is the one that all entries of the place have. -/
theorem scopeOf?_eq_some {pool : Pool} {place : Place} {scope : Url}
    (hentry : ∃ entry ∈ pool.entries, entry.node.place = place)
    (hscope : ∀ entry ∈ pool.entries, entry.node.place = place → entry.scope = scope) :
    pool.scopeOf? place = some scope := by
  obtain ⟨entry, hmem, hplace⟩ := hentry
  rw [scopeOf?, Option.map_eq_some_iff]
  cases hfound : pool.entries.find? fun other : Entry => other.node.place = place with
  | none => exact absurd (decide_eq_true hplace) (List.find?_eq_none.mp hfound entry hmem)
  | some found =>
    have hfoundPlace : found.node.place = place := by simpa using List.find?_some hfound
    exact ⟨found, rfl, hscope found (List.mem_of_find?_eq_some hfound) hfoundPlace⟩

end Pool

namespace AddedOnce

variable {documents : List Document} {scope? : Joining}

/-- No two entries are at one place. -/
theorem nodup_places (h : AddedOnce documents) :
    ((Pool.empty.addAll documents scope?).entries.map fun entry => entry.node.place).Nodup := by
  rw [Pool.entries_addAll]
  change ((documents.flatMap fun d => d.entries scope?).map _).Nodup
  rw [List.map_flatMap, List.nodup_flatMap]
  constructor
  · intro d hd
    refine List.Nodup.of_map Place.pointer ?_
    rw [List.map_map]
    exact (d.map_pointer_entries scope?).symm ▸ h.separate d hd
  · refine (List.pairwise_map.mp h.names).imp fun {d d'} hne => ?_
    intro place hplace hplace'
    obtain ⟨entry, hentry, rfl⟩ := List.mem_map.mp hplace
    obtain ⟨entry', hentry', hsame⟩ := List.mem_map.mp hplace'
    have hname : entry.node.place.document = d.name := Schema.document_of_mem_entriesBy hentry
    have hname' : entry'.node.place.document = d'.name := Schema.document_of_mem_entriesBy hentry'
    exact hne (by rw [← hname, ← hname', hsame])

/-- A place tells which entry is meant. -/
theorem eq_of_place_eq (h : AddedOnce documents) {entry entry' : Entry}
    (hentry : entry ∈ (Pool.empty.addAll documents scope?).entries)
    (hentry' : entry' ∈ (Pool.empty.addAll documents scope?).entries)
    (hplace : entry.node.place = entry'.node.place) : entry = entry' :=
  List.inj_on_of_nodup_map h.nodup_places hentry hentry' hplace

/-- The base in effect where a node stands is the one that its entry has. -/
theorem scopeOf?_eq (h : AddedOnce documents) {entry : Entry}
    (hentry : entry ∈ (Pool.empty.addAll documents scope?).entries) :
    (Pool.empty.addAll documents scope?).scopeOf? entry.node.place = some entry.scope := by
  refine Pool.scopeOf?_eq_some ⟨entry, hentry, rfl⟩ fun found hfound hplace => ?_
  rw [h.eq_of_place_eq hfound hentry hplace]

end AddedOnce

end Draft6
