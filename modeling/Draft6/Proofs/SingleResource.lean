import Draft6.Proofs.Documents
import Draft6.Proofs.PointerAddress

/-!
# Documents of one resource

A document in which only the root may have an identifier is one resource. No two of its schemas dispute
an address, and in the base inside the root the pointer of every schema leads to the schema.
-/

namespace Draft6

namespace Schema

/-- Whether no schema of a document but the root has an identifier. -/
def Single (root : Schema) (document : DocumentName) : Prop :=
  ∀ node ∈ root.nodes document, node.place.pointer ≠ Pointer.root → node.schema.id? = none

instance (root : Schema) (document : DocumentName) : Decidable (root.Single document) :=
  inferInstanceAs (Decidable (∀ node ∈ _, _ → _ = none))

variable {root : Schema} {document : DocumentName} {base : Url} {node : Node} {around : Resource}

/-- A standing node is one of the nodes of its document. -/
theorem Stands.mem_nodes (h : root.Stands document base node around) :
    node ∈ root.nodes document := by
  have hentry := mem_entries_iff.mpr ⟨node, around, h, rfl⟩
  rw [← Document.map_node_entries Url.scope? ⟨document, root, base⟩]
  exact List.mem_map_of_mem hentry

/-- The sub-schemas of a node are nodes of its document. -/
theorem children_subset_nodes (h : node ∈ root.nodes document) : node.children ⊆ root.nodes document := by
  intro child hchild
  obtain ⟨⟨segments, schema⟩, hmem, rfl⟩ := List.mem_map.mp hchild
  obtain ⟨around, hstands⟩ := exists_stands_of_mem_nodes h Url.implicitBase
  exact (hstands.child segments schema hmem).mem_nodes

/-- A sub-schema is not at the root. -/
theorem pointer_child_ne_root {segments : List String} {schema : Schema}
    (h : (segments, schema) ∈ node.schema.children) :
    (node.child segments schema).place.pointer ≠ Pointer.root := by
  intro hroot
  obtain ⟨place, s⟩ := node
  cases s with
  | boolean value => cases h
  | object o =>
    have hsegments := (List.append_eq_nil_iff.mp (congrArg Pointer.segments hroot)).2
    exact ObjectSchema.ne_nil_of_mem_children h hsegments

/-- A standing node of a single resource is the root or has no identifier. -/
theorem Stands.eq_root_or_id?_eq_none (h : root.Stands document base node around)
    (hsingle : root.Single document) : node = Node.root document root ∨ node.schema.id? = none := by
  cases h with
  | root => exact .inl rfl
  | child h segments schema hchild =>
    exact .inr (hsingle _ (h.child segments schema hchild).mem_nodes (pointer_child_ne_root hchild))

/-- Every standing node of a single resource belongs to it. -/
theorem Stands.unbroken (h : root.Stands document base node around) (hsingle : root.Single document) :
    root.Unbroken document base node around := by
  induction h with
  | root => exact .root
  | @child node around h segments schema hchild ih =>
    refine ih.child segments schema hchild ?_
    rintro ⟨id, scope, hid, _, _⟩
    have hnone : schema.id? = none :=
      hsingle _ (h.child segments schema hchild).mem_nodes (pointer_child_ne_root hchild)
    rw [hnone] at hid
    cases hid

/-- The base inside a root whose identifier is more than a fragment is the one that the identifier
names. -/
theorem rootInside_base (hid : ∀ id ∈ root.id?, id.toList.head? ≠ some '#') :
    (root.rootInside document base).base = base.inside root.id? := by
  change ((Resource.mk base Pointer.root).enter root.id?).base = _
  cases hroot : root.id? with
  | none => rfl
  | some id =>
    cases hscope : base.scope? id with
    | error e => simp only [Resource.enter, Url.inside, hscope, Option.bind_some]; rfl
    | ok scope =>
      simp only [Resource.enter, Url.inside, hscope, if_neg (hid id hroot), Option.bind_some]
      rfl

/-- The bases that the nodes of a single resource stand below. -/
def resources (root : Schema) (base : Url) : List Url := [base.inside root.id?, base]

/-- The bases of a single resource have no number sign. -/
theorem signFree_of_mem_resources (hbase : base.SignFree) {u : Url} (hu : u ∈ root.resources base) :
    u.SignFree := by
  rcases List.mem_pair.mp hu with rfl | rfl
  · exact signFree_inside hbase root.id?
  · exact hbase

/-- In a single resource a node claims its pointer below the bases of the resource. Only the root may
claim a plain name as well, which is the address of no place. -/
theorem Stands.claims (h : root.Stands document base node around) (hbase : base.SignFree)
    (hsingle : root.Single document) {address : String}
    (haddress : address ∈ node.addresses base around) :
    (∃ u ∈ root.resources base, address = Address.ofPointer u node.place.pointer) ∨
      node.place.pointer = Pointer.root ∧
        ∀ u : Url, u.SignFree → ∀ p, address ≠ Address.ofPointer u p := by
  rw [Node.addresses, List.mem_append, Option.mem_toList, List.mem_pair] at haddress
  rcases haddress with hanchor | hplace | hdocument
  · refine .inr ⟨?_, fun u hu p => Resource.anchor?_ne_ofPointer (h.signFree hbase) hanchor hu p⟩
    by_contra hroot
    rw [hsingle node h.mem_nodes hroot] at hanchor
    cases hanchor
  · refine .inl ⟨_, List.mem_cons_self, ?_⟩
    change address = (node.inside around).address at hplace
    rw [hplace, Resource.address, (h.unbroken hsingle).inside_eq, ofPointer_rootInside]
  · exact .inl ⟨base, List.mem_pair.mpr (.inr rfl), hdocument⟩

/-- In a single resource a pointer below a base of the resource is the address of no node that stands
somewhere else. -/
theorem Stands.pointer_eq (h : root.Stands document base node around) (hbase : base.SignFree)
    (hsingle : root.Single document) {u : Url} (hu : u ∈ root.resources base) {p : Pointer}
    (hp : Address.ofPointer u p ∈ node.addresses base around) : node.place.pointer = p := by
  have hsign := signFree_of_mem_resources hbase hu
  rcases h.claims hbase hsingle hp with ⟨v, hv, hplace⟩ | ⟨-, hname⟩
  · exact ((Address.ofPointer_inj hsign (signFree_of_mem_resources hbase hv)).mp hplace).2.symm
  · exact absurd rfl (hname u hsign p)

/-- In a single resource no address is claimed by two nodes. -/
theorem place_eq_of_claimed (hbase : base.SignFree) (hsingle : root.Single document)
    {entry entry' : Entry}
    (hentry : entry ∈ root.entries base ⟨document, Pointer.root⟩ ⟨base, Pointer.root⟩)
    (hentry' : entry' ∈ root.entries base ⟨document, Pointer.root⟩ ⟨base, Pointer.root⟩)
    {address : String} (haddress : address ∈ entry.addresses)
    (haddress' : address ∈ entry'.addresses) : entry.node.place = entry'.node.place := by
  have hdocument := (document_of_mem_entriesBy hentry).trans (document_of_mem_entriesBy hentry').symm
  obtain ⟨node, around, h, rfl⟩ := mem_entries_iff.mp hentry
  obtain ⟨node', around', h', rfl⟩ := mem_entries_iff.mp hentry'
  refine congrArg₂ Place.mk hdocument ?_
  rcases h'.claims hbase hsingle haddress' with ⟨u, hu, rfl⟩ | ⟨hroot', hname'⟩
  · exact h.pointer_eq hbase hsingle hu haddress
  · rcases h.claims hbase hsingle haddress with ⟨u, hu, rfl⟩ | ⟨hroot, -⟩
    · exact absurd rfl (hname' u (signFree_of_mem_resources hbase hu) _)
    · exact hroot.trans hroot'.symm

end Schema

/-- In a single resource the pointer of a node, in a reference that stands in the base inside the root,
leads to the node. -/
theorem Pool.resolve_of_single {root : Schema} {document : DocumentName} {base : Url}
    (hbase : base.SignFree) (hsingle : root.Single document) (hseparate : root.Separate) {node : Node}
    {around : Resource} (h : root.Stands document base node around) (extra : Char → Bool) :
    (Pool.empty.addAt document root base).resolve ("#" ++ node.place.pointer.fragment extra)
      (base.inside root.id?) = .ok (Entry.of node base around) := by
  have honce : AddedOnce [⟨document, root, base⟩] :=
    ⟨List.nodup_singleton _, List.forall_mem_singleton.mpr hseparate⟩
  have hentry := Schema.mem_entries_iff.mpr ⟨node, around, h, rfl⟩
  have haddress := (h.ofPointer_mem_addresses_iff hbase).mpr (.inr (h.unbroken hsingle))
  rw [Pool.resolve_fragment]
  cases hfound : Pool.entry? (Pool.empty.addAt document root base)
      (Address.ofPointer (base.inside root.id?) node.place.pointer) with
  | none => exact absurd haddress (Pool.not_claimed_of_missed hfound hentry)
  | some entry =>
    obtain ⟨hmem, hclaimed⟩ := Pool.claimed_of_found hfound
    obtain ⟨node', around', hstands, rfl⟩ := Schema.mem_entries_iff.mp hmem
    have hpointer := hstands.pointer_eq hbase hsingle List.mem_cons_self hclaimed
    have hdocument : node'.place.document = node.place.document :=
      (Schema.document_of_mem_entriesBy hmem).trans (Schema.document_of_mem_entriesBy hentry).symm
    have hplace : node'.place = node.place := congrArg₂ Place.mk hdocument hpointer
    exact congrArg Except.ok (honce.eq_of_place_eq hmem hentry hplace)

end Draft6
