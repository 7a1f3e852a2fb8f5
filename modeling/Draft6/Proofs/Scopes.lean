import Draft6.Location
import Draft6.Proofs.Documents
import Draft6.Proofs.PointerAddress
import Draft6.Proofs.Termination
import Draft6.Proofs.Verdict

/-!
# The bases of a walk

A pool notes the base in effect where each of its nodes stands. A walk does not look this up. It takes
the base along: below a schema with an identifier it joins the identifier, and behind a reference it
takes over the base of the target. Under bases without fragments both say the same at every visit,
however the walk descends and follows references.

The two differ in how they treat identifiers that are only fragments. A pool passes over them and a
walk joins them and drops the fragment, which comes to the same under a base that has no fragment.
-/

namespace Draft6

/-! ## Bases without fragments -/

namespace Url

/-- Whether a URL stays as it is without its fragment. Joining a fragment to it and dropping this
fragment gives the URL back. -/
def IsBare (u : Url) : Prop := u.withoutFragment = u

instance (u : Url) : Decidable u.IsBare := inferInstanceAs (Decidable (_ = _))

/-- A URL stays as it is without its fragment when it has none, and when a rootless path does not end
in blanks. -/
theorem isBare_iff (u : Url) :
    u.IsBare ↔ u.fragment = none ∧
      (u.isRootless = true ∧ u.query = none → trimBlanksRight u.path = u.path) := by
  obtain ⟨scheme, authority, path, query, fragment⟩ := u
  simp only [IsBare, withoutFragment, Url.mk.injEq, true_and, ite_eq_right_iff]
  constructor
  · rintro ⟨hpath, hfragment⟩
    exact ⟨hfragment.symm, hpath⟩
  · rintro ⟨hfragment, hpath⟩
    exact ⟨hpath, hfragment.symm⟩

/-- A URL that has lost its fragment has none. -/
theorem isBare_withoutFragment (u : Url) : u.withoutFragment.IsBare :=
  withoutFragment_withoutFragment u

/-- The implicit base has no fragment. -/
theorem isBare_implicitBase : implicitBase.IsBare := rfl

/-- A base that is given as a text has no fragment. -/
theorem isBare_of_base? {text : String} {u : Url} (h : base? text = .ok u) : u.IsBare := by
  cases hjoin : implicitBase.join? text with
  | error reason =>
    rw [base?, hjoin] at h
    cases h
  | ok target =>
    rw [base?, hjoin] at h
    exact Except.ok.inj h ▸ isBare_withoutFragment target

/-- The base that an identifier names has no fragment. -/
theorem isBare_of_scope? {base u : Url} {id : String} (h : base.scope? id = .ok u) : u.IsBare := by
  cases hjoin : base.join? id with
  | error reason =>
    rw [scope?, hjoin] at h
    cases h
  | ok target =>
    rw [scope?, hjoin] at h
    exact Except.ok.inj h ▸ isBare_withoutFragment target

/-- The base of a file has no fragment. -/
theorem isBare_ofFilePath (components : List String) : (ofFilePath components).IsBare := rfl

end Url

/-- The base of documents from a location has no fragment. -/
theorem Location.isBare_of_base? {disk : Disk} {location : Location} {u : Url}
    (h : location.base? disk = some u) : u.IsBare := by
  cases location with
  | path name =>
    obtain ⟨components, _, rfl⟩ := Option.map_eq_some_iff.mp h
    exact Url.isBare_ofFilePath components
  | url target => exact Option.some.inj h ▸ Url.isBare_withoutFragment target
  | document text => cases h

namespace Resource

variable {around : Resource}

/-- Inside a schema with an identifier, the base that a pool notes is the one that a walk finds. -/
theorem base_enter (h : around.base.IsBare) (id? : Option String) :
    (around.enter id?).base = around.base.inside id? := by
  cases id? with
  | none => rfl
  | some id =>
    rw [enter, Url.inside, Option.bind_some]
    cases hscope : around.base.scope? id with
    | error reason => rfl
    | ok scope =>
      by_cases hhead : id.toList.head? = some '#'
      -- The pool passes over the identifier, and the walk joins it.
      · have hsame : scope = around.base.withoutFragment :=
          Except.ok.inj (hscope.symm.trans (around.base.scope?_of_fragment hhead))
        rw [hsame, h]
        simp only [if_pos hhead]
        rfl
      · simp only [if_neg hhead]
        rfl

/-- The base inside a schema has no fragment. -/
theorem isBare_enter (h : around.base.IsBare) (id? : Option String) :
    (around.enter id?).base.IsBare := by
  rw [enter.eq_def]
  split
  · split
    · next hscope =>
      split
      · exact h
      · exact Url.isBare_of_scope? hscope
    · exact h
  · exact h

end Resource

/-- The base around a standing node has no fragment. -/
theorem Schema.Stands.isBare {root : Schema} {document : DocumentName} {base : Url}
    (hbase : base.IsBare) {node : Node} {around : Resource}
    (h : root.Stands document base node around) : around.base.IsBare := by
  induction h with
  | root => exact hbase
  | child _ _ _ _ ih => exact Resource.isBare_enter ih _

/-! ## The base that a visit carries -/

namespace Pool

/-- Whether a visit carries the base that the pool has noted for the visited node. -/
def Carries (pool : Pool) (frame : Frame) (node : Node) : Prop :=
  ∃ entry ∈ pool.entries, entry.node = node ∧ entry.scope = frame.scope

variable {documents : List Document} {frame : Frame} {node : Node} {value : Json}

/-- A node that a pool has noted a base for stands in one of the documents, inside a resource with this
base. -/
theorem Carries.exists_stands (h : (empty.addAll documents).Carries frame node) :
    ∃ d ∈ documents, ∃ around, d.root.Stands d.name d.base node around ∧
      around.base = frame.scope := by
  obtain ⟨entry, hentry, rfl, hscope⟩ := h
  obtain ⟨d, hd, hentry⟩ := mem_entries_addAll.mp hentry
  obtain ⟨node, around, hstands, rfl⟩ := Schema.mem_entries_iff.mp hentry
  exact ⟨d, hd, around, hstands, hscope⟩

/-- A pool has noted the base of a resource for every node that stands inside it. -/
theorem carries_of_stands {d : Document} (hd : d ∈ documents) {around : Resource}
    (h : d.root.Stands d.name d.base node around) (hscope : around.base = frame.scope) :
    (empty.addAll documents).Carries frame node :=
  ⟨Entry.of node d.base around,
    mem_entries_addAll.mpr ⟨d, hd, Schema.mem_entries_iff.mpr ⟨node, around, h, rfl⟩⟩, rfl, hscope⟩

/-- A visit that carries the base of its node makes calls that do so too. -/
theorem Carries.call (h : (empty.addAll documents).Carries frame node)
    (hbare : ∀ d ∈ documents, d.base.IsBare) {call : Call Node}
    (hcall : (empty.addAll documents).Asks frame node value call) :
    (empty.addAll documents).Carries call.frame call.schema := by
  cases hcall with
  | reference o hschema reference href target htarget hactive hcall =>
    subst hcall
    exact ⟨target, mem_entries_of_resolve htarget, rfl, rfl⟩
  | keyword o hschema href hchild hconcerns =>
    obtain ⟨d, hd, around, hstands, hscope⟩ := h.exists_stands
    obtain ⟨child, hmem, hchild⟩ := List.mem_map.mp hchild
    have haround := hstands.isBare (hbare d hd)
    have hid : node.schema.id? = o.id := by rw [hschema]; rfl
    have hinside : ((node.inside around).descend child.1).base = (frame.enter o.id).scope := by
      change (around.enter node.schema.id?).base = _
      rw [Resource.base_enter haround, Frame.scope_enter, hscope, hid]
    have hframe : call.frame.scope = (frame.enter o.id).scope := by
      cases hconcerns with
      | inPlace _ hframe => rw [hframe]
      | part _ hscope => exact hscope
    rw [← hchild]
    exact carries_of_stands hd (hstands.child child.1 child.2 hmem) (hinside.trans hframe.symm)

/-- All visits of a walk carry the bases of their nodes when the first one does. -/
theorem Carries.walk (h : (empty.addAll documents).Carries frame node)
    (hbare : ∀ d ∈ documents, d.base.IsBare) {maximum levels : Nat} {stop : Stop}
    (hstop : stop ∈ (empty.addAll documents).walk maximum levels frame node value) :
    (empty.addAll documents).Carries stop.frame stop.node :=
  forall_mem_walk (P := fun _ frame node _ => (empty.addAll documents).Carries frame node)
    (fun h hcall => h.call hbare hcall) h stop hstop

/-- A validation begins with the base of its node. -/
theorem carries_start (honce : AddedOnce documents)
    (hnode : (empty.addAll documents).Indexes node) :
    (empty.addAll documents).Carries ((empty.addAll documents).start node) node := by
  obtain ⟨entry, hentry, rfl⟩ := hnode
  refine ⟨entry, hentry, rfl, ?_⟩
  rw [start, honce.scopeOf?_eq hentry]
  rfl

/-- Every visit of a validation is at a node of the pool, and the base that it carries is the one that
the pool has noted for this node, whether keywords or references lead there. -/
theorem scope_of_stop (documents : List Document) (honce : AddedOnce documents)
    (hbare : ∀ d ∈ documents, d.base.IsBare) (node : Node)
    (hnode : (empty.addAll documents).Indexes node) (limits : Limits) (value : Json) (stop : Stop)
    (hstop : stop ∈ (empty.addAll documents).stops limits node value) :
    (empty.addAll documents).Indexes stop.node ∧
      (empty.addAll documents).scopeOf? stop.node.place = some stop.frame.scope := by
  obtain ⟨entry, hentry, hentryNode, hscope⟩ := (carries_start honce hnode).walk hbare hstop
  refine ⟨⟨entry, hentry, hentryNode⟩, ?_⟩
  rw [← hentryNode, ← hscope]
  exact honce.scopeOf?_eq hentry

end Pool

/-- A document for arrays of objects whose members are such objects again. The schema of the elements
has an identifier and refers to itself. -/
def Document.nested : Document where
  name := .main
  root := .object {
    items := some (.all (.object {
      id := some "part.json"
      additionalProperties := some (.object { ref := some "#" }) })) }
  base := Url.implicitBase

/-- Behind the reference, the walk is back at the base around the schema of the elements. -/
theorem scope_of_stop_nested :
    ∃ stop ∈ (Pool.empty.addAll [.nested]).stops Limits.default
        (Node.root .main Document.nested.root) (.array [.object [("a", .object [])]]),
      stop.route = [.items, .additionalProperties, .ref] ∧ stop.frame.scope = Url.implicitBase ∧
        (Pool.empty.addAll [.nested]).scopeOf? stop.node.place = some stop.frame.scope := by
  have hexists : ∃ stop ∈ (Pool.empty.addAll [.nested]).stops Limits.default
      (Node.root .main Document.nested.root) (.array [.object [("a", .object [])]]),
      stop.route = [.items, .additionalProperties, .ref] ∧ stop.frame.scope = Url.implicitBase := by
    decide
  obtain ⟨stop, hstop, hroute, hscope⟩ := hexists
  have honce : AddedOnce [.nested] := ⟨by decide, List.forall_mem_singleton.mpr (by decide)⟩
  have hbare : ∀ d ∈ [Document.nested], d.base.IsBare :=
    List.forall_mem_singleton.mpr Url.isBare_implicitBase
  have hnode : (Pool.empty.addAll [.nested]).Indexes (Node.root .main Document.nested.root) :=
    ⟨_, List.mem_cons_self, rfl⟩
  exact ⟨stop, hstop, hroute, hscope, (Pool.scope_of_stop [.nested] honce hbare
    (Node.root .main Document.nested.root) hnode Limits.default _ stop hstop).2⟩

end Draft6
