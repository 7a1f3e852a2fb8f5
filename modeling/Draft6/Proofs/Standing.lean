import Draft6.Pool
import Draft6.Proofs.Traversal

/-!
# Where schemas stand

A schema of a document stands at a place, inside the resource that is around it. The root stands in
the resource of the base, and a sub-schema in the one that is in effect inside the schema that holds
it. The entries of a document are those of all its standing schemas.

The pointer inside a resource is the pointer inside the document as long as no schema on the way
begins a resource of its own. From such a schema on it is shorter.
-/

namespace Draft6

/-- What is in effect inside a node that stands inside a resource. -/
def Node.inside (node : Node) (around : Resource) (scope? : Joining := Url.scope?) : Resource :=
  around.enter node.schema.id? scope?

/-- Where the nodes of a document stand: each inside the resource around it. -/
inductive Schema.Stands (root : Schema) (document : DocumentName) (base : Url) :
    Node → Resource → Prop
  | root : Stands root document base (Node.root document root) ⟨base, Pointer.root⟩
  | child {node : Node} {around : Resource} (h : Stands root document base node around)
      (segments : List String) (schema : Schema)
      (hchild : (segments, schema) ∈ node.schema.children) :
      Stands root document base (node.child segments schema)
        ((node.inside around).descend segments)

namespace Schema

/-- The entries of a schema object: its own, and those of its sub-schemas. This is so however
identifiers are joined. -/
theorem entriesBy_object (scope? : Joining) (o : ObjectSchema Schema) (document : Url)
    (place : Place) (around : Resource) :
    (Schema.object o).entriesBy scope? document place around =
      Entry.of ⟨place, .object o⟩ document around scope? ::
        o.children.flatMap fun child =>
          child.2.entriesBy scope? document { place with pointer := place.pointer ++ ⟨child.1⟩ }
            ((Node.inside ⟨place, .object o⟩ around scope?).descend child.1) := by
  rw [entriesBy, fold_object]
  simp only [ObjectSchema.map_map, ObjectSchema.map_self, ObjectSchema.children_map,
    List.flatMap_map]
  rfl

/-- The entries of a schema object: its own, and those of its sub-schemas. -/
theorem entries_object (o : ObjectSchema Schema) (document : Url) (place : Place)
    (around : Resource) :
    (Schema.object o).entries document place around =
      Entry.of ⟨place, .object o⟩ document around ::
        o.children.flatMap fun child =>
          child.2.entries document { place with pointer := place.pointer ++ ⟨child.1⟩ }
            ((Node.inside ⟨place, .object o⟩ around).descend child.1) :=
  entriesBy_object Url.scope? o document place around

/-- The entries of a schema begin with its own. -/
theorem entry_mem_entries (s : Schema) (document : Url) (place : Place) (around : Resource) :
    Entry.of ⟨place, s⟩ document around ∈ s.entries document place around := by
  cases s with
  | boolean value => exact List.mem_singleton.mpr rfl
  | object o =>
    rw [entries_object]
    exact List.mem_cons_self

/-- The entries of the schemas in a schema are among its own. -/
theorem entries_child_subset {s : Schema} {child : List String × Schema} (h : child ∈ s.children)
    (document : Url) (place : Place) (around : Resource) :
    child.2.entries document { place with pointer := place.pointer ++ ⟨child.1⟩ }
        ((Node.inside ⟨place, s⟩ around).descend child.1) ⊆
      s.entries document place around := by
  cases s with
  | boolean value => cases h
  | object o =>
    intro entry hentry
    rw [entries_object]
    exact List.mem_cons_of_mem _ (List.mem_flatMap.mpr ⟨child, h, hentry⟩)

variable {root : Schema} {document : DocumentName} {base : Url}

/-- The entries of a standing schema are among those of the document. -/
theorem Stands.entries_subset {node : Node} {around : Resource}
    (h : root.Stands document base node around) :
    node.schema.entries base node.place around ⊆
      root.entries base ⟨document, Pointer.root⟩ ⟨base, Pointer.root⟩ := by
  induction h with
  | root => exact List.Subset.refl _
  | child _ segments schema hchild ih =>
    exact List.Subset.trans (entries_child_subset hchild base _ _) ih

/-- The entries of a schema that stands somewhere belong to nodes that stand somewhere. -/
theorem stands_of_mem_entries (s : Schema) {place : Place} {around : Resource}
    (h : root.Stands document base ⟨place, s⟩ around) {entry : Entry}
    (hentry : entry ∈ s.entries base place around) :
    ∃ node around, root.Stands document base node around ∧ entry = Entry.of node base around := by
  induction s using induction_on_children generalizing place around with
  | boolean value => exact ⟨_, _, h, List.mem_singleton.mp hentry⟩
  | object o ih =>
    rw [entries_object] at hentry
    rcases List.mem_cons.mp hentry with rfl | hentry
    · exact ⟨_, _, h, rfl⟩
    · obtain ⟨child, hchild, hentry⟩ := List.mem_flatMap.mp hentry
      exact ih child hchild (h.child child.1 child.2 hchild) hentry

/-- The entries of a document are those of the nodes that stand in it. -/
theorem mem_entries_iff {entry : Entry} :
    entry ∈ root.entries base ⟨document, Pointer.root⟩ ⟨base, Pointer.root⟩ ↔
      ∃ node around, root.Stands document base node around ∧ entry = Entry.of node base around := by
  constructor
  · exact stands_of_mem_entries root Stands.root
  · rintro ⟨node, around, h, rfl⟩
    exact h.entries_subset (node.schema.entry_mem_entries base node.place around)

/-- A node of a document stands in it, whatever the base. -/
theorem exists_stands_of_mem_nodes {node : Node} (h : node ∈ root.nodes document) (base : Url) :
    ∃ around, root.Stands document base node around := by
  obtain ⟨entry, hentry, rfl⟩ := List.mem_map.mp h
  obtain ⟨node, around, hstands, rfl⟩ := mem_entries_iff.mp hentry
  change ∃ around, root.Stands document base node around
  clear h hentry
  induction hstands with
  | root => exact ⟨_, Stands.root⟩
  | child _ segments schema hchild ih =>
    obtain ⟨around, hstands⟩ := ih
    exact ⟨_, hstands.child segments schema hchild⟩

/-- Whether a schema begins a resource of its own inside the resource around it. -/
def Begins (s : Schema) (around : Resource) : Prop :=
  ∃ id scope, s.id? = some id ∧ around.base.scope? id = .ok scope ∧ id.toList.head? ≠ some '#'

end Schema

namespace Node

/-- The pointer inside a resource starts anew in a schema that begins one. -/
theorem inside_of_begins {node : Node} {around : Resource} (h : node.schema.Begins around) :
    (node.inside around).pointer = Pointer.root := by
  obtain ⟨id, scope, hid, hscope, hhead⟩ := h
  simp only [inside, Resource.enter, hid, hscope, if_neg hhead]

/-- Nothing changes inside a schema that begins no resource. -/
theorem inside_of_not_begins {node : Node} {around : Resource} (h : ¬ node.schema.Begins around) :
    node.inside around = around := by
  rw [inside, Resource.enter.eq_def]
  split
  · next id hid =>
    split
    · next scope hscope =>
      split
      · rfl
      · next hhead => exact absurd ⟨id, scope, hid, hscope, hhead⟩ h
    · rfl
  · rfl

end Node

namespace Schema

variable {root : Schema} {document : DocumentName} {base : Url}

/-- Where nodes stand that belong to the resource of the root: no schema below the root, down to the
node itself, begins a resource of its own. -/
inductive Unbroken (root : Schema) (document : DocumentName) (base : Url) :
    Node → Resource → Prop
  | root : Unbroken root document base (Node.root document root) ⟨base, Pointer.root⟩
  | child {node : Node} {around : Resource} (h : Unbroken root document base node around)
      (segments : List String) (schema : Schema)
      (hchild : (segments, schema) ∈ node.schema.children)
      (hbegins : ¬ schema.Begins ((node.inside around).descend segments)) :
      Unbroken root document base (node.child segments schema)
        ((node.inside around).descend segments)

/-- What is in effect inside the root of a document. -/
def rootInside (root : Schema) (document : DocumentName) (base : Url) : Resource :=
  (Node.root document root).inside ⟨base, Pointer.root⟩

/-- A node of the resource of the root stands in its document. -/
theorem Unbroken.stands {node : Node} {around : Resource}
    (h : root.Unbroken document base node around) : root.Stands document base node around := by
  induction h with
  | root => exact Stands.root
  | child _ segments schema hchild _ ih => exact ih.child segments schema hchild

/-- Inside a node of the resource of the root, the base is that of the root and the pointer is that of
the document. -/
theorem Unbroken.inside_eq {node : Node} {around : Resource}
    (h : root.Unbroken document base node around) :
    node.inside around = ⟨(root.rootInside document base).base, node.place.pointer⟩ := by
  induction h with
  | root =>
    by_cases hbegins : root.Begins ⟨base, Pointer.root⟩
    · exact congrArg (Resource.mk _) (Node.inside_of_begins hbegins)
    · exact congrArg (Resource.mk _)
        (congrArg Resource.pointer (Node.inside_of_not_begins hbegins))
  | child _ segments schema hchild hbegins ih =>
    rw [Node.inside_of_not_begins hbegins, ih]
    rfl

/-- A node stands in the resource of the root, or the pointer inside it is shorter than that of the
document. -/
theorem Stands.unbroken_or {node : Node} {around : Resource}
    (h : root.Stands document base node around) :
    root.Unbroken document base node around ∨
      (node.inside around).pointer.length < node.place.pointer.length := by
  -- Both pointers grow by the same segments, so one that has fallen behind stays behind.
  induction h with
  | root => exact .inl .root
  | @child node around h segments schema hchild ih =>
    have hsegments : segments ≠ [] := by
      obtain ⟨place, s⟩ := node
      cases s with
      | boolean value => cases hchild
      | object o => exact ObjectSchema.ne_nil_of_mem_children hchild
    have hpos := List.length_pos_of_ne_nil hsegments
    have hlength (p : Pointer) : (p ++ ⟨segments⟩ : Pointer).length = p.length + segments.length :=
      List.length_append
    by_cases hbegins : schema.Begins ((node.inside around).descend segments)
    · refine .inr ?_
      rw [Node.inside_of_begins hbegins]
      change 0 < (node.place.pointer ++ ⟨segments⟩ : Pointer).length
      rw [hlength]
      omega
    · rcases ih with hunbroken | hshorter
      · exact .inl (hunbroken.child segments schema hchild hbegins)
      · refine .inr ?_
        rw [Node.inside_of_not_begins hbegins]
        change ((node.inside around).pointer ++ ⟨segments⟩ : Pointer).length <
          (node.place.pointer ++ ⟨segments⟩ : Pointer).length
        rw [hlength, hlength]
        omega

end Schema

end Draft6
