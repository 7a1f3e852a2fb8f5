import Draft6.Proofs.Likeness
import Draft6.Proofs.MetaSchemaRules
import Draft6.Proofs.PlainNames

/-!
# Where a document is loaded

A document without identifiers whose references are fragments claims the pointers of its nodes below
its base, and nothing else. The meta-schema claims nothing below another base. So a reference in such a
document finds the node that the fragment is read as a pointer to, or none, and neither depends on the
base. A validation under one base and one under another go through the same nodes and report the same,
but for the address in a report on a reference that finds nothing.
-/

namespace Draft6

/-! ## Failures without addresses -/

mutual

/-- A cause without the addresses that references have not found. -/
def Cause.withoutAddresses : Cause → Cause
  | .reference (.unresolvable _) => .reference (.unresolvable "")
  | .invalidPropertyName name failures => .invalidPropertyName name (withoutAddressesAll failures)
  | .noBranch failures => .noBranch (withoutAddressesAll failures)
  | cause => cause

/-- A failure without the addresses that references have not found. -/
def Failure.withoutAddresses : Failure → Failure
  | ⟨pointer, cause⟩ => ⟨pointer, cause.withoutAddresses⟩

/-- Failures without the addresses that references have not found. -/
def withoutAddressesAll : List Failure → List Failure
  | [] => []
  | failure :: rest => Failure.withoutAddresses failure :: withoutAddressesAll rest

end

/-- The addresses go from each failure of a list. -/
theorem withoutAddressesAll_eq (failures : List Failure) :
    withoutAddressesAll failures = failures.map Failure.withoutAddresses := by
  induction failures with
  | nil => rfl
  | cons failure rest ih => rw [withoutAddressesAll, ih, List.map_cons]

/-- Failures that agree one by one but for addresses agree without them. -/
theorem withoutAddressesAll_eq_of_alike {failures failures' : List Failure}
    (h : Alike false (fun failure failure' : Failure =>
      failure.withoutAddresses = failure'.withoutAddresses) failures failures') :
    withoutAddressesAll failures = withoutAddressesAll failures' := by
  obtain ⟨_, hrelated, rfl⟩ := h
  rw [withoutAddressesAll_eq, withoutAddressesAll_eq, ← List.forall₂_eq_eq_eq,
    List.forall₂_map_left_iff, List.forall₂_map_right_iff]
  exact hrelated

/-- A failure tells about the value or not, whatever the addresses in it. -/
theorem Failure.isStructural_withoutAddresses (failure : Failure) :
    failure.withoutAddresses.isStructural = failure.isStructural := by
  obtain ⟨pointer, cause⟩ := failure
  cases cause with
  | reference error => cases error <;> rfl
  | _ => rfl

/-! ## The addresses of a document without identifiers -/

/-- Whether a base is that of another document than the meta-schema. -/
structure Url.Foreign (base : Url) : Prop where
  signFree : base.SignFree
  other : base.withoutFragment.text ≠ MetaSchema.base.withoutFragment.text

/-- The entry of a node that stands below a base by its pointer alone. -/
def Node.entryAt (base : Url) (node : Node) : Entry :=
  ⟨node, base, [Address.ofPointer base node.place.pointer,
    Address.ofPointer base node.place.pointer]⟩

/-- An address in a document is that of a node which stands below the base of the document exactly when
the fragment is read as the pointer of the node. -/
theorem Node.mem_addresses_entryAt_iff {base : Url} (hbase : base.SignFree) (node : Node)
    (fragment : String) :
    Address.ofFragment base fragment ∈ (node.entryAt base).addresses ↔
      Pointer.parse? fragment = some node.place.pointer := by
  rw [entryAt, List.mem_pair, or_self]
  cases hparse : Pointer.parse? fragment with
  | some p =>
    rw [Address.ofFragment, hparse]
    exact ((Address.ofPointer_inj hbase hbase).trans (and_iff_right rfl)).trans
      (Option.some_inj.symm)
  | none =>
    rw [Address.ofFragment_of_parse? base hparse, Address.ofPointer,
      Address.ofAnchor_inj hbase hbase]
    constructor
    · rintro ⟨-, rfl⟩
      rw [Pointer.parse?_text] at hparse
      cases hparse
    · intro h
      cases h

namespace Schema

/-- Whether no schema of a document has an identifier, and every reference is only a fragment. -/
def SelfContained (root : Schema) : Prop :=
  ∀ node ∈ root.nodes .main, node.schema.id? = none ∧
    ∀ reference ∈ node.schema.object?.bind ObjectSchema.ref, reference.toList.head? = some '#'

instance (root : Schema) : Decidable root.SelfContained :=
  inferInstanceAs (Decidable (∀ node ∈ _, _ = none ∧ ∀ reference ∈ Option.bind _ _, _ = some '#'))

/-- The node of a document that a fragment is read as a pointer to. -/
def target? (root : Schema) (fragment : String) : Option Node :=
  (root.nodes .main).find? fun node =>
    decide (Pointer.parse? (Address.readFragment fragment) = some node.place.pointer)

variable {root : Schema} {base : Url} {node : Node} {around : Resource}

/-- Below a base without identifiers, a node stands by its pointer alone. -/
theorem SelfContained.around_eq (h : root.SelfContained)
    (hstands : root.Stands .main base node around) : around = ⟨base, node.place.pointer⟩ := by
  induction hstands with
  | root => rfl
  | @child node around hstands segments schema hchild ih =>
    rw [Node.inside, (h node hstands.mem_nodes).1, ih]
    rfl

/-- The entries of a document without identifiers are those of nodes that stand below its base. -/
theorem SelfContained.entries_eq (h : root.SelfContained) (base : Url) :
    root.entries base ⟨.main, Pointer.root⟩ ⟨base, Pointer.root⟩ =
      (root.nodes .main).map (Node.entryAt base) := by
  have hentry : ∀ entry ∈ root.entries base ⟨.main, Pointer.root⟩ ⟨base, Pointer.root⟩,
      entry.node.entryAt base = entry := by
    intro entry hentry
    obtain ⟨node, around, hstands, rfl⟩ := mem_entries_iff.mp hentry
    rw [h.around_eq hstands, Entry.of, Node.addresses, (h node hstands.mem_nodes).1]
    rfl
  rw [← Document.map_node_entries Url.scope? ⟨.main, root, base⟩, List.map_map]
  exact ((List.map_congr_left hentry).trans (List.map_id _)).symm

end Schema

/-! ## The addresses of the meta-schema -/

namespace MetaSchema

/-- No schema in the meta-schema declares a plain name. -/
theorem anchor?_eq_none {node : Node} {around : Resource}
    (h : schema.Stands .metaSchema base node around) : around.anchor? node.schema.id? = none := by
  rcases h.eq_root_or_id?_eq_none single_schema with rfl | hnone
  · have huri : Address.anchor? uri = none := by decide
    rw [Node.root, id?_schema, Resource.anchor?, Option.bind_eq_bind, Option.bind_some, huri]
    rfl
  · rw [hnone]
    rfl

/-- The entries of the meta-schema. -/
theorem entries_draft6 : Pool.draft6.entries =
    schema.entries base ⟨.metaSchema, Pointer.root⟩ ⟨base, Pointer.root⟩ :=
  List.nil_append _

/-- Every address that is claimed in the meta-schema is that of a place below its base. -/
theorem exists_of_mem_addresses {entry : Entry} (hentry : entry ∈ Pool.draft6.entries)
    {address : String} (haddress : address ∈ entry.addresses) :
    ∃ p, address = Address.ofPointer base p := by
  rw [entries_draft6] at hentry
  obtain ⟨node, around, hstands, rfl⟩ := Schema.mem_entries_iff.mp hentry
  rw [Entry.of, Node.addresses, anchor?_eq_none hstands] at haddress
  rcases List.mem_pair.mp haddress with rfl | rfl
  · refine ⟨node.place.pointer, ?_⟩
    change (node.inside around).address = _
    rw [(hstands.unbroken single_schema).inside_eq, rootInside_base, inside_eq]
    rfl
  · exact ⟨node.place.pointer, rfl⟩

/-- The meta-schema has nothing under an address in another document. -/
theorem entry?_of_foreign {document : Url} (h : document.Foreign) (fragment : String) :
    Pool.entry? Pool.draft6 (Address.ofFragment document fragment) = none := by
  rw [ Pool.entry?, List.find?_eq_none]
  intro entry hentry hcontains
  obtain ⟨p, hp⟩ := exists_of_mem_addresses hentry (List.contains_iff_mem.mp hcontains)
  obtain ⟨name, hname⟩ := Address.exists_ofFragment_eq document fragment
  rw [hname] at hp
  exact h.other ((Address.ofAnchor_inj h.signFree signFree_base).mp hp).1

end MetaSchema

namespace Schema

variable {root : Schema} {base base' : Url}

/-- The entries of the meta-schema and of a document without identifiers. -/
theorem SelfContained.entries_addAt (h : root.SelfContained) (base : Url) :
    (Pool.draft6.addAt .main root base).entries =
      Pool.draft6.entries ++ (root.nodes .main).map (Node.entryAt base) :=
  congrArg (Pool.draft6.entries ++ ·) (h.entries_eq base)

/-- A fragment finds the node that it is read as a pointer to, below any base. -/
theorem SelfContained.entry?_eq (h : root.SelfContained) (hbase : base.Foreign) (fragment : String) :
    Pool.entry? (Pool.draft6.addAt .main root base)
        (Address.ofFragment base (Address.readFragment fragment)) =
      (root.target? fragment).map (Node.entryAt base) := by
  generalize hread : Address.readFragment fragment = text
  have hnone := MetaSchema.entry?_of_foreign hbase text
  have htest : (fun node : Node =>
      (node.entryAt base).addresses.contains (Address.ofFragment base text)) =
        fun node => decide (Pointer.parse? text = some node.place.pointer) := by
    funext node
    rw [Bool.eq_iff_iff, List.contains_iff_mem, decide_eq_true_iff]
    exact node.mem_addresses_entryAt_iff hbase.signFree text
  rw [ Pool.entry?] at hnone
  rw [ Pool.entry?, h.entries_addAt, List.find?_append, hnone, Option.none_or, List.find?_map, target?,
    hread, ← htest]
  rfl

/-- The root is one of the nodes of its document. -/
theorem root_mem_nodes (root : Schema) : root.node ∈ root.nodes .main := by
  have hroot : root.Stands .main Url.implicitBase root.node ⟨Url.implicitBase, Pointer.root⟩ := .root
  exact hroot.mem_nodes

/-- A validation of the root begins with the base of the document. -/
theorem SelfContained.start_eq (h : root.SelfContained) (base : Url) :
    (Pool.draft6.addAt .main root base).start root.node = ⟨Pointer.root, base, []⟩ := by
  have hroot : root.node.entryAt base ∈ (Pool.draft6.addAt .main root base).entries := by
    rw [h.entries_addAt]
    exact List.mem_append_right _ (List.mem_map_of_mem root.root_mem_nodes)
  have hscope : (Pool.draft6.addAt .main root base).scopeOf? root.node.place = some base := by
    refine Pool.scopeOf?_eq_some ⟨_, hroot, rfl⟩ fun entry hentry hplace => ?_
    rw [h.entries_addAt, MetaSchema.entries_draft6] at hentry
    rcases List.mem_append.mp hentry with hmeta | hmain
    · have hdocument := document_of_mem_entriesBy hmeta
      rw [hplace] at hdocument
      cases hdocument
    · obtain ⟨node, -, rfl⟩ := List.mem_map.mp hmain
      rfl
  rw [Pool.start, hscope]
  rfl

end Schema

/-! ## Validations under two bases -/

/-- Frames under two bases that agree but for the base, and failures that agree but for addresses. -/
def Likeness.rebased (base base' : Url) : Likeness where
  loose := false
  frames frame frame' := frame.scope = base ∧ frame' = { frame with scope := base' }
  values := Eq
  failures failure failure' := failure.withoutAddresses = failure'.withoutAddresses
  nameReports := Alike false fun failure failure' : Failure =>
    failure.withoutAddresses = failure'.withoutAddresses
  child h segment := ⟨h.1, congrArg (Frame.child · segment) h.2⟩
  kind {value value'} h := h ▸ matches_self (fun _ => rfl) false value
  equal_left h other := h ▸ rfl
  equal_right h other := h ▸ rfl
  isStructural {failure failure'} h := by
    rw [← failure.isStructural_withoutAddresses, h, failure'.isStructural_withoutAddresses]
  own := by
    rintro frame _ ⟨-, rfl⟩ cause -
    rfl
  wrongType := by
    rintro frame _ ⟨-, rfl⟩ expected value _ rfl
    rfl
  repeatedItem := by
    rintro frame _ ⟨-, rfl⟩ value _ rfl
    rfl
  noBranch := by
    rintro frame _ ⟨-, rfl⟩ inner inner' hinner
    exact congrArg (fun failures => Located.mk frame.pointer (Cause.noBranch failures))
      (withoutAddressesAll_eq_of_alike hinner)
  isEmpty_eq h := h.isEmpty_eq
  invalidPropertyName := by
    rintro frame _ ⟨-, rfl⟩ name inner inner' hinner
    exact congrArg (fun failures => Located.mk frame.pointer (Cause.invalidPropertyName name failures))
      (withoutAddressesAll_eq_of_alike hinner)

/-- References that find nothing are reported alike, whatever their addresses. -/
theorem Likeness.unresolvable_rebased {base base' : Url} {frame frame' : Frame}
    (h : (rebased base base').frames frame frame') (address address' : String) :
    (rebased base base').failures (frame.failure (.reference (.unresolvable address)))
      (frame'.failure (.reference (.unresolvable address'))) := by
  obtain ⟨-, rfl⟩ := h
  rfl

/-- Under two bases, visits that report alike for values do so for member names. -/
theorem Likeness.visits_rebased {α : Type} {base base' : Url} {schemas : List α}
    {visit visit' : Visit α}
    (h : ∀ schema ∈ schemas, ∀ frame frame', (rebased base base').frames frame frame' → ∀ value,
      (rebased base base').Reports (visit frame schema value) (visit' frame' schema value)) :
    (rebased base base').Visits schemas visit visit' where
  reports schema hschema frame frame' value value' hframes hvalues := by
    obtain rfl : value = value' := hvalues
    exact h schema hschema frame frame' hframes value
  nameReports schema hschema frame frame' hframes name :=
    h schema hschema frame.memberName frame'.memberName
      ⟨hframes.1, congrArg Frame.memberName hframes.2⟩ (.string name)

namespace Schema

variable {root : Schema} {base base' : Url} {frame frame' : Frame}

/-- What a fragment stands for reports alike under two bases when the visits of all nodes do. -/
theorem SelfContained.referenceFailures_rebased (h : root.SelfContained) (hbase : base.Foreign)
    (hbase' : base'.Foreign) {visit visit' : Visit Node}
    (hvisits : (Likeness.rebased base base').Visits (root.nodes .main) visit visit')
    (hframes : (Likeness.rebased base base').frames frame frame') {reference : String}
    (hreference : reference.toList.head? = some '#') (value : Json) :
    (Likeness.rebased base base').Reports
      ((Pool.draft6.addAt .main root base).referenceFailures visit frame reference value)
      ((Pool.draft6.addAt .main root base').referenceFailures visit' frame' reference value) := by
  obtain ⟨cs, hcs⟩ := List.head?_eq_some_iff.mp hreference
  obtain rfl : reference = "#" ++ String.ofList cs := by
    rw [← String.toList_inj, String.toList_append, hcs]
    exact congrArg ('#' :: ·) String.toList_ofList.symm
  have hbases := hframes
  obtain ⟨rfl, rfl⟩ := hbases
  generalize String.ofList cs = fragment
  rw [Pool.referenceFailures.eq_def, Pool.referenceFailures.eq_def, Pool.resolve_sign,
    Pool.resolve_sign, h.entry?_eq hbase, h.entry?_eq hbase']
  cases htarget : root.target? fragment with
  | none => exact alike_singleton (Likeness.unresolvable_rebased hframes _ _)
  | some target =>
    have hmem : target ∈ root.nodes .main := List.mem_of_find?_eq_some htarget
    simp only [Option.map_some, Node.entryAt]
    split
    · exact Likeness.reports_own hframes _
    · exact hvisits.reports target hmem ⟨rfl, rfl⟩ rfl

/-- A node reports alike under two bases when the visits of all nodes do. -/
theorem SelfContained.nodeFailures_rebased (h : root.SelfContained) (hbase : base.Foreign)
    (hbase' : base'.Foreign) {visit visit' : Visit Node}
    (hvisits : (Likeness.rebased base base').Visits (root.nodes .main) visit visit') {node : Node}
    (hnode : node ∈ root.nodes .main) (hframes : (Likeness.rebased base base').frames frame frame')
    (value : Json) :
    (Likeness.rebased base base').Reports
      ((Pool.draft6.addAt .main root base).nodeFailures visit frame node value)
      ((Pool.draft6.addAt .main root base').nodeFailures visit' frame' node value) := by
  obtain ⟨hid, hreference⟩ := h node hnode
  have hchildren := children_subset_nodes hnode
  obtain ⟨place, schema⟩ := node
  cases schema with
  | boolean answer =>
    cases answer with
    | false => exact Likeness.reports_own hframes _
    | true => exact alike_nil
  | object o =>
    simp only [Pool.nodeFailures]
    cases href : o.ref with
    | some reference =>
      exact h.referenceFailures_rebased hbase hbase' hvisits hframes (hreference reference href) value
    | none =>
      -- Without an identifier the keywords are looked at under the base that the frame has.
      have hid : o.id = none := hid
      rw [hid]
      refine ObjectSchema.failures_like (hvisits.mono ?_) hframes rfl
      rw [ObjectSchema.toList_mapPath]
      exact hchildren

/-- All visits of the nodes of a document report alike under two bases. -/
theorem SelfContained.visits_rebased (h : root.SelfContained) (hbase : base.Foreign)
    (hbase' : base'.Foreign) (maximum levels : Nat) :
    (Likeness.rebased base base').Visits (root.nodes .main)
      ((Pool.draft6.addAt .main root base).visit maximum levels)
      ((Pool.draft6.addAt .main root base').visit maximum levels) := by
  induction levels with
  | zero => exact Likeness.visits_rebased fun _ _ _ _ hframes _ => Likeness.reports_own hframes _
  | succ levels ih =>
    exact Likeness.visits_rebased fun node hnode _ _ hframes value =>
      h.nodeFailures_rebased hbase hbase' ih hnode hframes value

/-- It does not matter under which base a document without identifiers is loaded when its references are
fragments. Whatever the value and the limits, the verdict is the same, and so are the failures but for
the addresses that references have not found. -/
theorem failures_rebased (root : Schema) (h : root.SelfContained) (base base' : Url)
    (hbase : base.Foreign) (hbase' : base'.Foreign) (limits : Limits) (value : Json) :
    (Pool.draft6.addAt .main root base).accepts limits root.node value =
        (Pool.draft6.addAt .main root base').accepts limits root.node value ∧
      ((Pool.draft6.addAt .main root base).failures limits root.node value).map
          Failure.withoutAddresses =
        ((Pool.draft6.addAt .main root base').failures limits root.node value).map
          Failure.withoutAddresses := by
  have hreports : (Likeness.rebased base base').Reports
      ((Pool.draft6.addAt .main root base).failures limits root.node value)
      ((Pool.draft6.addAt .main root base').failures limits root.node value) := by
    rw [Pool.failures, Pool.failures, h.start_eq, h.start_eq]
    exact (h.visits_rebased hbase hbase' _ _).reports root.node root.root_mem_nodes ⟨rfl, rfl⟩ rfl
  refine ⟨hreports.isEmpty_eq, ?_⟩
  rw [← withoutAddressesAll_eq, ← withoutAddressesAll_eq]
  exact withoutAddressesAll_eq_of_alike hreports

end Schema

/-- A schema for pairs, the first part of which is a text. What the second part is has been left out. -/
def Schema.unfinished : Schema :=
  .object {
    items := some (.each
      [.object { ref := some "#/definitions/text" }, .object { ref := some "#other" }])
    definitions := some [("text", .object { type := .single .string })] }

set_option maxRecDepth 10000 in
/-- Loaded from a file, a schema reports the same as under the implicit base, but for the address of what
has been left out. -/
theorem Schema.failures_rebased_unfinished :
    let root := Schema.unfinished
    let file := Url.ofFilePath ["pair.json"]
    let pool := Pool.draft6.addAt .main root Url.implicitBase
    let pool' := Pool.draft6.addAt .main root file
    let value := Json.array [.null, .null]
    root.SelfContained ∧ Url.implicitBase.Foreign ∧ file.Foreign ∧
      (pool.failures Limits.default root.node value).map Failure.withoutAddresses =
        (pool'.failures Limits.default root.node value).map Failure.withoutAddresses ∧
      (pool.failures Limits.default root.node value).map Failure.text =
        ["/0: expected string, got null", "/1: unresolvable reference 'json-schema:///#other'"] ∧
      (pool'.failures Limits.default root.node value).map Failure.text =
        ["/0: expected string, got null", "/1: unresolvable reference 'file:///pair.json#other'"] := by
  intro root file pool pool' value
  have hcontained : root.SelfContained := by decide
  have himplicit : Url.implicitBase.Foreign := ⟨Url.signFree_implicitBase, by decide⟩
  have hfile : file.Foreign := ⟨Url.signFree_ofFilePath _, by decide⟩
  exact ⟨hcontained, himplicit, hfile,
    (root.failures_rebased hcontained Url.implicitBase file himplicit hfile Limits.default value).2,
    by decide +kernel, by decide +kernel⟩

end Draft6
