import Draft6.Proofs.Documents

/-!
# What schemas claim

A schema in a document is a spot: the root, or a sub-schema below another spot. A spot claims its plain
name, its way from the nearest resource around it, and its way from the root of the document. All this
is said looking up from the spot, and for any way to join identifiers. What a pool records for a schema
on its way down says the same.
-/

namespace Draft6

/-- A schema in a document, with all schemas around it. -/
inductive Spot where
  | root (document : Document)
  | child (parent : Spot) (segments : List String) (schema : Schema)

/-- The base of the resource that a schema begins, given the base around it. It begins one when it has
an identifier that is not only a fragment and that can be joined. -/
def Schema.resource? (s : Schema) (scope? : Joining) (around : Url) : Option Url :=
  (s.id?.filter fun id => id.toList.head? ≠ some '#').bind fun id => (scope? around id).toOption

namespace Spot

/-- The document of a spot. -/
def document : Spot → Document
  | root d => d
  | child parent _ _ => parent.document

/-- The schema at a spot. -/
def schema : Spot → Schema
  | root d => d.root
  | child _ _ s => s

/-- The way to a spot from the root of the document. -/
def pointer : Spot → Pointer
  | root _ => Pointer.root
  | child parent segments _ => parent.pointer ++ ⟨segments⟩

/-- The node at a spot. -/
def node (spot : Spot) : Node := ⟨⟨spot.document.name, spot.pointer⟩, spot.schema⟩

variable (scope? : Joining)

/-- The base in effect where a spot is. It changes below a schema that begins a resource. -/
def base : Spot → Url
  | root d => d.base
  | child parent _ _ => (parent.schema.resource? scope? parent.base).getD parent.base

/-- The base of the resource that a spot is the root of, if it is one. The root of a document is one in
any case. -/
def resource? : Spot → Option Url
  | root d => some ((d.root.resource? scope? d.base).getD d.base)
  | child parent segments s => s.resource? scope? ((child parent segments s).base scope?)

/-- The ways to spots that belong to the resource of a spot: on the way down, no other resource
begins. -/
inductive Leads (home : Spot) : Pointer → Spot → Prop
  | home : Leads home Pointer.root home
  | child {pointer : Pointer} {spot : Spot} (h : Leads home pointer spot) (segments : List String)
      (schema : Schema) (hresource : (Spot.child spot segments schema).resource? scope? = none) :
      Leads home (pointer ++ ⟨segments⟩) (.child spot segments schema)

/-- Which addresses a spot claims: its plain name under the base that its identifier names, its way from
the root of the resource that it belongs to, and its way from the root of the document. -/
inductive Claims (spot : Spot) : String → Prop
  | anchor (id name : String) (base : Url) (hid : spot.schema.id? = some id)
      (hname : Address.anchor? id = some name) (hbase : scope? (spot.base scope?) id = .ok base) :
      Claims spot (Address.ofAnchor base name)
  | resource (home : Spot) (base : Url) (pointer : Pointer) (hhome : home.resource? scope? = some base)
      (hleads : home.Leads scope? pointer spot) : Claims spot (Address.ofPointer base pointer)
  | document : Claims spot (Address.ofPointer spot.document.base spot.pointer)

end Spot

/-! ## All spots of a document -/

/-- The spots of a schema and all schemas in it, each before those below it. -/
def Schema.spots : Schema → Spot → List Spot :=
  fold (fun _ spot => [spot]) fun o spot =>
    spot :: o.children.flatMap fun (segments, schema, spots) => spots (.child spot segments schema)

/-- The spots of a document, each before those below it. -/
def Document.spots (d : Document) : List Spot := d.root.spots (.root d)

/-- The spots of a schema object: its own, and those of its sub-schemas. -/
theorem Schema.spots_object (o : ObjectSchema Schema) (spot : Spot) :
    (Schema.object o).spots spot =
      spot :: o.children.flatMap fun child => child.2.spots (.child spot child.1 child.2) := by
  rw [spots, fold_object]
  simp only [ObjectSchema.children_map, List.flatMap_map]

/-! ## What a pool records for a spot -/

/-- What is in effect inside a schema: the resource that it begins, or else the one around it. -/
theorem Resource.enter_eq (around : Resource) (s : Schema) (scope? : Joining) :
    around.enter s.id? scope? =
      ((s.resource? scope? around.base).map fun base => ⟨base, Pointer.root⟩).getD around := by
  rw [enter.eq_def, Schema.resource?]
  cases s.id? with
  | none => rfl
  | some id =>
    by_cases hhead : id.toList.head? = some '#'
    · cases hscope : scope? around.base id <;> simp [Option.filter, hhead, hscope]
    · cases hscope : scope? around.base id <;> simp [Option.filter, hhead, hscope, Except.toOption]

namespace Spot

variable (scope? : Joining)

/-- What is in effect inside a spot. -/
def inside : Spot → Resource
  | root d => (Resource.mk d.base Pointer.root).enter d.root.id? scope?
  | child parent segments s => (parent.inside.descend segments).enter s.id? scope?

/-- What is in effect around a spot. -/
def around : Spot → Resource
  | root d => ⟨d.base, Pointer.root⟩
  | child parent segments _ => (parent.inside scope?).descend segments

/-- The entry of a spot. -/
def entry (spot : Spot) : Entry := Entry.of spot.node spot.document.base (spot.around scope?) scope?

/-- Inside a spot is in effect what its schema makes of what is in effect around it. -/
theorem inside_eq (spot : Spot) :
    spot.inside scope? = (spot.around scope?).enter spot.schema.id? scope? := by
  cases spot <;> rfl

/-- The base around a spot is the one in effect there. -/
theorem base_around (spot : Spot) : (spot.around scope?).base = spot.base scope? := by
  induction spot with
  | root d => rfl
  | child parent segments s ih =>
    change (parent.inside scope?).base = _
    rw [inside_eq, Resource.enter_eq, ih, Spot.base]
    cases parent.schema.resource? scope? (parent.base scope?) with
    | none => exact ih
    | some base => rfl

variable {scope?}

/-- What is in effect inside a spot that is the root of a resource. -/
theorem inside_of_resource? {spot : Spot} {base : Url} (h : spot.resource? scope? = some base) :
    spot.inside scope? = ⟨base, Pointer.root⟩ := by
  rw [inside_eq, Resource.enter_eq, base_around]
  cases spot with
  | root d =>
    obtain rfl := Option.some.inj h
    change ((d.root.resource? scope? d.base).map fun base => Resource.mk base Pointer.root).getD
      ⟨d.base, Pointer.root⟩ = _
    cases d.root.resource? scope? d.base <;> rfl
  | child parent segments s =>
    have hresource : (child parent segments s).schema.resource? scope?
        ((child parent segments s).base scope?) = some base := h
    rw [hresource]
    rfl

/-- A spot that is not the root of a resource changes nothing of what is in effect around it. -/
theorem inside_of_resource?_eq_none {spot : Spot} (h : spot.resource? scope? = none) :
    spot.inside scope? = spot.around scope? := by
  rw [inside_eq, Resource.enter_eq, base_around]
  cases spot with
  | root d => cases h
  | child parent segments s =>
    have hresource : (child parent segments s).schema.resource? scope?
        ((child parent segments s).base scope?) = none := h
    rw [hresource]
    rfl

/-- What is in effect inside a spot that belongs to a resource: the base of the resource and the way
from its root. -/
theorem Leads.inside_eq {home spot : Spot} {base : Url} {pointer : Pointer}
    (h : home.Leads scope? pointer spot) (hhome : home.resource? scope? = some base) :
    spot.inside scope? = ⟨base, pointer⟩ := by
  induction h with
  | home => exact inside_of_resource? hhome
  | child _ segments schema hresource ih =>
    rw [inside_of_resource?_eq_none hresource, around, ih]
    rfl

variable (scope?) in
/-- Every spot belongs to a resource. -/
theorem exists_leads (spot : Spot) :
    ∃ home base pointer, resource? scope? home = some base ∧ home.Leads scope? pointer spot := by
  induction spot with
  | root d => exact ⟨root d, _, Pointer.root, rfl, .home⟩
  | child parent segments s ih =>
    cases hresource : (child parent segments s).resource? scope? with
    | some base => exact ⟨_, base, Pointer.root, hresource, .home⟩
    | none =>
      obtain ⟨home, base, pointer, hhome, hleads⟩ := ih
      exact ⟨home, base, _, hhome, hleads.child segments s hresource⟩

/-- The addresses that a pool records for a spot are those that it claims. -/
theorem mem_addresses_iff {spot : Spot} {address : String} :
    address ∈ (spot.entry scope?).addresses ↔ spot.Claims scope? address := by
  have hmem : address ∈ (spot.entry scope?).addresses ↔
      (spot.around scope?).anchor? spot.schema.id? scope? = some address ∨
        address = (spot.inside scope?).address ∨
          address = Address.ofPointer spot.document.base spot.pointer := by
    rw [inside_eq]
    change address ∈ Node.addresses _ _ _ _ ↔ _
    rw [Node.addresses, List.mem_append, Option.mem_toList, List.mem_pair]
    rfl
  rw [hmem]
  constructor
  · rintro (hanchor | rfl | rfl)
    · obtain ⟨id, hid, hanchor⟩ := Option.bind_eq_some_iff.mp hanchor
      obtain ⟨name, hname, hanchor⟩ := Option.bind_eq_some_iff.mp hanchor
      obtain ⟨base, hbase, hanchor⟩ := Option.bind_eq_some_iff.mp hanchor
      obtain rfl := Option.some.inj hanchor
      rw [base_around] at hbase
      refine .anchor id name base hid hname ?_
      cases hscope : scope? (spot.base scope?) id with
      | error reason =>
        rw [hscope] at hbase
        cases hbase
      | ok base' =>
        rw [hscope] at hbase
        rw [Option.some.inj hbase]
    · obtain ⟨home, base, pointer, hhome, hleads⟩ := spot.exists_leads scope?
      rw [hleads.inside_eq hhome]
      exact .resource home base pointer hhome hleads
    · exact .document
  · rintro (⟨id, name, base, hid, hname, hbase⟩ | ⟨home, base, pointer, hhome, hleads⟩ | _)
    · refine .inl ?_
      simp only [Resource.anchor?, hid, base_around, Option.bind_eq_bind, Option.bind_some, hname,
        hbase]
      rfl
    · exact .inr (.inl (by rw [hleads.inside_eq hhome]; rfl))
    · exact .inr (.inr rfl)

end Spot

/-- The entries of a schema are those of its spots. -/
theorem Schema.entriesBy_eq (scope? : Joining) (s : Schema) (spot : Spot) (hs : spot.schema = s) :
    s.entriesBy scope? spot.document.base spot.node.place (spot.around scope?) =
      (s.spots spot).map (Spot.entry scope?) := by
  induction s using induction_on_children generalizing spot with
  | boolean value =>
    change [Entry.of ⟨spot.node.place, .boolean value⟩ _ _ scope?] = [spot.entry scope?]
    rw [Spot.entry, Spot.node, hs]
  | object o ih =>
    rw [entriesBy_object, spots_object, List.map_cons, List.map_flatMap]
    have hself : Entry.of ⟨spot.node.place, .object o⟩ spot.document.base (spot.around scope?) scope? =
        spot.entry scope? := by
      rw [Spot.entry, Spot.node, hs]
    rw [hself]
    refine congrArg _ (List.flatMap_congr fun child hchild => ?_)
    have hinside : Node.inside ⟨spot.node.place, .object o⟩ (spot.around scope?) scope? =
        spot.inside scope? := by
      rw [Spot.inside_eq, hs]
      rfl
    rw [hinside]
    exact ih child hchild (.child spot child.1 child.2) rfl

/-- The entries of a document are those of its spots. -/
theorem Document.entries_eq (scope? : Joining) (d : Document) :
    d.entries scope? = d.spots.map (Spot.entry scope?) :=
  d.root.entriesBy_eq scope? (.root d) rfl

end Draft6
