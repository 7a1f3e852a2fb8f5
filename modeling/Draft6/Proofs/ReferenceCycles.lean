import Draft6.Proofs.BaseFragments
import Mathlib.Logic.Relation

/-!
# Reference cycles

A walk follows a reference unless it is following its target for the same value already. Between two
visits of one value there are only references and keywords that ask about the value itself. So a target
that is still being followed leads back to itself by these alone. Where no schema does so, no reference
is refused as a cycle, however often and from wherever one target is referred to.
-/

namespace Draft6

open Relation (ReflTransGen TransGen)

/-! ## What is asked about the value itself -/

namespace ObjectSchema

variable {α : Type} (o : ObjectSchema α)

/-- The sub-schemas of the keywords that ask about the value itself. -/
def inPlace : List α :=
  o.allOf.getD [] ++ o.anyOf.getD [] ++ o.oneOf.getD [] ++ o.not.toList
    ++ (o.dependencies.getD []).flatMap fun entry => entry.2.toList

/-- They are among the sub-schemas. -/
theorem inPlace_subset : o.inPlace ⊆ o.toList := by
  intro schema h
  simp only [inPlace, List.mem_append] at h
  rcases h with (((h | h) | h) | h) | h <;> simp only [toList, List.mem_append, h, true_or, or_true]

/-- A call about the value itself asks one of these sub-schemas. -/
theorem mem_inPlace_of_mem_calls {visit : Visit α} {frame : Frame} {value : Json} {call : Call α}
    (h : call ∈ o.calls visit frame value) (hplace : call.keyword.isInPlace = true) :
    call.schema ∈ o.inPlace := by
  simp only [calls, List.mem_append] at h
  rcases h with (((h | h) | h) | h) | h
  · cases value with
    | null | bool | number | string => cases h
    | array items =>
      rcases List.mem_append.mp h with h | h
      · obtain ⟨_, _, _, _, _, rfl⟩ := (o.mem_itemCalls frame).mp h
        cases hplace
      · obtain ⟨_, _, _, _, _, rfl⟩ := o.mem_containsCalls visit frame h
        cases hplace
    | object members =>
      simp only [kindCalls, List.mem_append] at h
      rcases h with (((h | h) | h) | h) | h
      · obtain ⟨_, _, _, _, _, rfl⟩ := (o.mem_propertyCalls frame).mp h
        cases hplace
      · obtain ⟨_, _, _, _, _, rfl⟩ := (o.mem_patternCalls frame).mp h
        cases hplace
      · obtain ⟨_, _, _, _, _, _, rfl⟩ := (o.mem_additionalCalls frame).mp h
        cases hplace
      · obtain ⟨trigger, schema, hentry, _, rfl⟩ := (o.mem_dependencyCalls frame).mp h
        have hmem : schema ∈ (o.dependencies.getD []).flatMap fun entry => entry.2.toList :=
          List.mem_flatMap.mpr ⟨_, hentry, List.mem_singleton.mpr rfl⟩
        simp [inPlace, hmem]
      · obtain ⟨_, _, _, _, _, rfl⟩ := (o.mem_nameCalls frame).mp h
        cases hplace
  · obtain ⟨schema, hschema, rfl⟩ := (mem_listCalls frame).mp h
    simp [inPlace, hschema]
  · obtain ⟨schema, hschema, rfl⟩ := (mem_listCalls frame).mp h
    simp [inPlace, hschema]
  · obtain ⟨schema, hschema, rfl⟩ := (mem_listCalls frame).mp h
    simp [inPlace, hschema]
  · obtain ⟨schema, hschema, rfl⟩ := (o.mem_notCalls frame).mp h
    simp [inPlace, hschema]

end ObjectSchema

/-- The sub-schemas that a node without a reference asks about the value itself. -/
def Node.inPlace (node : Node) : List Node :=
  match node.schema with
  | .boolean _ => []
  | .object o => if o.ref.isSome then [] else (o.mapPath node.child).inPlace

namespace Pool

/-- The node that the reference of a node leads to, from the base that the pool has noted where the node
stands. -/
def target? (pool : Pool) (node : Node) : Option Node := do
  let reference ← node.schema.object?.bind ObjectSchema.ref
  let scope ← pool.scopeOf? node.place
  let target ← (pool.resolve reference scope).toOption
  pure target.node

/-- Whether a node passes the value itself on to another one: through a keyword, or as its reference. -/
def PassesTo (pool : Pool) (node next : Node) : Prop :=
  next ∈ node.inPlace ++ (pool.target? node).toList

/-- Whether a node leads to another one: to a schema below it, or as its reference. -/
def LeadsTo (pool : Pool) (node next : Node) : Prop :=
  next ∈ node.children ++ (pool.target? node).toList

/-- Whether no node that can be reached from some node leads back to itself by passing the value on. -/
def Acyclic (pool : Pool) (start : Node) : Prop :=
  ∀ node, ReflTransGen pool.LeadsTo start node → ¬ TransGen pool.PassesTo node node

end Pool

/-! ## The resource that a visit is in -/

namespace Url

variable {u v : Url}

/-- URLs of one resource both have an authority if they need one, or neither. -/
theorem SameResource.hosted (h : u.SameResource v) (hu : u.Hosted) : v.Hosted := by
  change v.withoutFragment.Hosted
  rw [← h]
  exact hu.withoutFragment

/-- Inside a schema with an identifier, the base that a pool notes and the one that a walk finds are in
one resource when those around it are. -/
theorem SameResource.enter {around : Resource} {scope : Url} (h : around.base.SameResource scope)
    (hhosted : around.base.Hosted) (id? : Option String) :
    (around.enter id?).base.SameResource (scope.inside id?) := by
  cases id? with
  | none => exact h
  | some id =>
    have hsame : around.base.scope? id = scope.scope? id := h.scope?_eq hhosted (h.hosted hhosted) id
    rw [Resource.enter, Url.inside, Option.bind_some, ← hsame]
    cases hscope : around.base.scope? id with
    | error reason => exact h
    | ok base =>
      by_cases hhead : id.toList.head? = some '#'
      -- The pool passes over the identifier, and the walk drops the fragment.
      · have hbase : base = around.base.withoutFragment :=
          Except.ok.inj (hscope.symm.trans (around.base.scope?_of_fragment hhead))
        simp only [if_pos hhead]
        change around.base.withoutFragment = base.withoutFragment
        rw [hbase, withoutFragment_withoutFragment]
      · simp only [if_neg hhead]
        exact rfl

/-- The base inside a schema has an authority if it needs one. -/
theorem Hosted.enter {around : Resource} (h : around.base.Hosted) (id? : Option String) :
    (around.enter id?).base.Hosted := by
  rw [Resource.enter.eq_def]
  split
  · split
    · next hscope =>
      split
      · exact h
      · exact h.scope hscope
    · exact h
  · exact h

end Url

/-- The base around a standing node has an authority if it needs one. -/
theorem Schema.Stands.hosted {root : Schema} {document : DocumentName} {base : Url} (hbase : base.Hosted)
    {node : Node} {around : Resource} (h : root.Stands document base node around) :
    around.base.Hosted := by
  induction h with
  | root => exact hbase
  | child _ _ _ _ ih => exact ih.enter _

namespace Pool

variable {documents : List Document} {frame : Frame} {node : Node} {value : Json}

/-- The bases that a pool has noted have an authority if they need one. -/
theorem hosted_of_mem_entries (hbase : ∀ d ∈ documents, d.base.Hosted) {entry : Entry}
    (h : entry ∈ (empty.addAll documents).entries) : entry.scope.Hosted := by
  obtain ⟨d, hd, h⟩ := mem_entries_addAll.mp h
  obtain ⟨node, around, hstands, rfl⟩ := Schema.mem_entries_iff.mp h
  exact hstands.hosted (hbase d hd)

/-- A pool has noted every schema below a node, with the base inside this node. -/
theorem exists_entry_of_mem_children {entry : Entry} (h : entry ∈ (empty.addAll documents).entries)
    {child : Node} (hchild : child ∈ entry.node.children) :
    ∃ below ∈ (empty.addAll documents).entries, ∃ around : Resource, below.node = child ∧
      around.base = entry.scope ∧ below.scope = (around.enter entry.node.schema.id?).base := by
  obtain ⟨d, hd, h⟩ := mem_entries_addAll.mp h
  obtain ⟨node, around, hstands, rfl⟩ := Schema.mem_entries_iff.mp h
  obtain ⟨child, hmem, rfl⟩ := List.mem_map.mp hchild
  exact ⟨Entry.of _ d.base _, mem_entries_addAll.mpr ⟨d, hd, Schema.mem_entries_iff.mpr
    ⟨_, _, hstands.child child.1 child.2 hmem, rfl⟩⟩, around, rfl, rfl, rfl⟩

/-- Whether a visit is in the resource in which the pool has noted the visited node. -/
def IsWithin (pool : Pool) (frame : Frame) (node : Node) : Prop :=
  ∃ entry ∈ pool.entries, entry.node = node ∧ entry.scope.SameResource frame.scope

/-- A visit in the resource of its node makes calls that are so too. -/
theorem IsWithin.call (h : (empty.addAll documents).IsWithin frame node)
    (hbase : ∀ d ∈ documents, d.base.Hosted) {call : Call Node}
    (hcall : (empty.addAll documents).Asks frame node value call) :
    (empty.addAll documents).IsWithin call.frame call.schema := by
  cases hcall with
  | reference o hschema reference href target htarget hactive hcall =>
    subst hcall
    exact ⟨target, mem_entries_of_resolve htarget, rfl, rfl⟩
  | keyword o hschema href hchild hconcerns =>
    obtain ⟨entry, hentry, rfl, hscope⟩ := h
    obtain ⟨below, hbelow, around, hnode, haround, hinside⟩ :=
      exists_entry_of_mem_children hentry hchild
    have hframe : call.frame.scope = frame.scope.inside entry.node.schema.id? := by
      rw [hschema, ← Frame.scope_enter]
      cases hconcerns with
      | inPlace _ hframe => exact congrArg Frame.scope hframe
      | part _ hscope => exact hscope
    refine ⟨below, hbelow, hnode, ?_⟩
    rw [hinside, hframe]
    rw [← haround] at hscope
    exact hscope.enter (haround ▸ hosted_of_mem_entries hbase hentry) _

/-- A reference that is followed in the resource of its node leads to the target of the node. -/
theorem IsWithin.target?_eq (h : (empty.addAll documents).IsWithin frame node)
    (honce : AddedOnce documents) (hbase : ∀ d ∈ documents, d.base.Hosted)
    {o : ObjectSchema Schema} (hschema : node.schema = .object o) {reference : String}
    (href : o.ref = some reference) {target : Entry}
    (htarget : (empty.addAll documents).resolve reference frame.scope = .ok target) :
    (empty.addAll documents).target? node = some target.node := by
  obtain ⟨entry, hentry, rfl, hscope⟩ := h
  have hhosted := hosted_of_mem_entries hbase hentry
  rw [← Pool.resolve_sameResource _ hscope hhosted (hscope.hosted hhosted)] at htarget
  simp [target?, hschema, Schema.object?, href, honce.scopeOf?_eq hentry, htarget, Except.toOption]

/-! ## What is being followed -/

/-- What a walk from a node keeps true of its visits: they are in the resources of their nodes, they are
at nodes that the first node leads to, and the targets that are being followed pass the value on to the
visited node. -/
structure Tracks (pool : Pool) (start : Node) (frame : Frame) (node : Node) : Prop where
  within : pool.IsWithin frame node
  reached : ReflTransGen pool.LeadsTo start node
  followed : ∀ place ∈ frame.active, ∃ entry ∈ pool.entries, entry.node.place = place ∧
    ReflTransGen pool.LeadsTo start entry.node ∧ ReflTransGen pool.PassesTo entry.node node

variable {start : Node}

/-- The calls of a visit keep the same things true. -/
theorem Tracks.call (h : (empty.addAll documents).Tracks start frame node) (honce : AddedOnce documents)
    (hbase : ∀ d ∈ documents, d.base.Hosted) {visit : Visit Node} {call : Call Node}
    (hcall : call ∈ (empty.addAll documents).calls visit frame node value) :
    (empty.addAll documents).Tracks start call.frame call.schema := by
  have hasks := asks_of_mem_calls hcall
  have hwithin := h.within.call hbase hasks
  cases hasks with
  | reference o hschema reference href target htarget hactive hcall =>
    subst hcall
    have htarget' := h.within.target?_eq honce hbase hschema href htarget
    have hleads : (empty.addAll documents).LeadsTo node target.node := by
      simp [LeadsTo, htarget']
    have hpasses : (empty.addAll documents).PassesTo node target.node := by
      simp [PassesTo, htarget']
    refine ⟨hwithin, h.reached.tail hleads, fun place hplace => ?_⟩
    rcases List.mem_cons.mp hplace with rfl | hplace
    · exact ⟨target, mem_entries_of_resolve htarget, rfl, h.reached.tail hleads, .refl⟩
    · obtain ⟨entry, hentry, hat, hreached, hpath⟩ := h.followed place hplace
      exact ⟨entry, hentry, hat, hreached, hpath.tail hpasses⟩
  | keyword o hschema href hchild hconcerns =>
    have hleads : (empty.addAll documents).LeadsTo node call.schema :=
      List.mem_append_left _ hchild
    refine ⟨hwithin, h.reached.tail hleads, fun place hplace => ?_⟩
    cases hconcerns with
    | part _ _ hnone =>
      rw [hnone] at hplace
      cases hplace
    | inPlace hkeyword hframe =>
      rw [hframe, Frame.active_enter] at hplace
      obtain ⟨entry, hentry, hat, hreached, hpath⟩ := h.followed place hplace
      have hmem : call.schema ∈ node.inPlace := by
        simp only [calls, hschema, href] at hcall
        simpa [Node.inPlace, hschema, href] using
          ObjectSchema.mem_inPlace_of_mem_calls _ hcall hkeyword
      exact ⟨entry, hentry, hat, hreached, hpath.tail (List.mem_append_left _ hmem)⟩

/-- A target that is being followed and is referred to again passes the value on to itself. -/
theorem Tracks.exists_cycle (h : (empty.addAll documents).Tracks start frame node)
    (honce : AddedOnce documents) (hbase : ∀ d ∈ documents, d.base.Hosted)
    {o : ObjectSchema Schema} (hschema : node.schema = .object o) {reference : String}
    (href : o.ref = some reference) {target : Entry}
    (htarget : (empty.addAll documents).resolve reference frame.scope = .ok target)
    (hactive : target.node.place ∈ frame.active) :
    ReflTransGen (empty.addAll documents).LeadsTo start target.node ∧
      TransGen (empty.addAll documents).PassesTo target.node target.node := by
  obtain ⟨entry, hentry, hplace, hreached, hpath⟩ := h.followed _ hactive
  obtain rfl := honce.eq_of_place_eq hentry (mem_entries_of_resolve htarget) hplace
  have htarget' := h.within.target?_eq honce hbase hschema href htarget
  have hpasses : (empty.addAll documents).PassesTo node entry.node := by
    simp [PassesTo, htarget']
  exact ⟨hreached, .tail' hpath hpasses⟩

/-- Looking up a reference finds no cycle. -/
theorem resolve_ne_cycle (pool : Pool) (reference other : String) (scope : Url) :
    pool.resolve reference scope ≠ .error (.cycle other) := by
  intro h
  rw [resolve.eq_def] at h
  split at h
  · cases h
  · split at h <;> cases h

/-- A visit that meets a cycle has a reference to a target that is being followed. -/
theorem exists_of_cycle_mem_obstacles {pool : Pool} {maximum : Nat} {stop : Stop} {reference : String}
    {failure : Failure} (h : failure ∈ pool.obstacles maximum stop)
    (hcause : failure.cause = .reference (.cycle reference)) :
    ∃ o target, stop.node.schema = .object o ∧ o.ref = some reference ∧
      pool.resolve reference stop.frame.scope = .ok target ∧
        target.node.place ∈ stop.frame.active := by
  rw [obstacles] at h
  split at h
  · obtain rfl := List.mem_singleton.mp h
    cases hcause
  · split at h
    · cases h
    · next reference' href =>
      split at h
      · next error herror =>
        obtain rfl := List.mem_singleton.mp h
        obtain rfl := Cause.reference.inj hcause
        exact absurd herror (resolve_ne_cycle _ _ _ _)
      · next target htarget =>
        split at h
        · next hactive =>
          obtain rfl := List.mem_singleton.mp h
          obtain rfl := ReferenceError.cycle.inj (Cause.reference.inj hcause)
          obtain ⟨o, ho, href⟩ := Option.bind_eq_some_iff.mp href
          refine ⟨o, target, ?_, href, htarget, by simpa using hactive⟩
          cases hschema : stop.node.schema with
          | boolean => simp [hschema, Schema.object?] at ho
          | object o' =>
            rw [hschema] at ho
            exact congrArg Schema.object (Option.some.inj ho)
        · cases h

/-- A node that a node of the pool leads to is one of the pool. -/
theorem Indexes.of_leadsTo (h : (empty.addAll documents).Indexes node) {next : Node}
    (hleads : (empty.addAll documents).LeadsTo node next) : (empty.addAll documents).Indexes next := by
  rcases List.mem_append.mp hleads with hchild | htarget
  · obtain ⟨entry, hentry, rfl⟩ := h
    obtain ⟨below, hbelow, _, hnode, -⟩ := exists_entry_of_mem_children hentry hchild
    exact ⟨below, hbelow, hnode⟩
  · simp only [target?, Option.mem_toList, Option.bind_eq_bind, Option.bind_eq_some_iff,
      Option.pure_def, Option.some.injEq] at htarget
    obtain ⟨reference, _, scope, _, target, htarget, rfl⟩ := htarget
    cases hresolve : (empty.addAll documents).resolve reference scope with
    | error reason =>
      rw [hresolve] at htarget
      cases htarget
    | ok found =>
      rw [hresolve] at htarget
      obtain rfl := Option.some.inj htarget
      exact ⟨found, mem_entries_of_resolve hresolve, rfl⟩

/-- A node leads to the nodes that it passes the value on to. -/
theorem PassesTo.leadsTo {pool : Pool} {next : Node} (h : pool.PassesTo node next) :
    pool.LeadsTo node next := by
  rcases List.mem_append.mp h with hplace | htarget
  · refine List.mem_append_left _ ?_
    rw [Node.inPlace] at hplace
    cases hschema : node.schema with
    | boolean => simp [hschema] at hplace
    | object o =>
      simp only [hschema] at hplace
      split at hplace
      · cases hplace
      · have hchild := ObjectSchema.inPlace_subset _ hplace
        rw [ObjectSchema.toList_mapPath] at hchild
        simpa [Node.children, Schema.children, hschema] using hchild
  · exact List.mem_append_right _ htarget

/-- A pool whose nodes pass the value on to nodes of lower rank only has no cycles. -/
theorem acyclic_of_rank (rank : Place → ℕ) (hrank : ∀ entry ∈ (empty.addAll documents).entries,
      ∀ next ∈ entry.node.inPlace ++ ((empty.addAll documents).target? entry.node).toList,
        rank next.place < rank entry.node.place)
    (hstart : (empty.addAll documents).Indexes start) : (empty.addAll documents).Acyclic start := by
  intro node hreached
  have hnode : (empty.addAll documents).Indexes node := by
    induction hreached with
    | refl => exact hstart
    | tail _ hleads ih => exact ih.of_leadsTo hleads
  have hlower {next : Node} (h : TransGen (empty.addAll documents).PassesTo node next) :
      (empty.addAll documents).Indexes next ∧ rank next.place < rank node.place := by
    induction h with
    | single hpasses =>
      obtain ⟨entry, hentry, rfl⟩ := hnode
      exact ⟨Indexes.of_leadsTo ⟨entry, hentry, rfl⟩ hpasses.leadsTo, hrank entry hentry _ hpasses⟩
    | tail _ hpasses ih =>
      obtain ⟨⟨entry, hentry, rfl⟩, hlt⟩ := ih
      exact ⟨Indexes.of_leadsTo ⟨entry, hentry, rfl⟩ hpasses.leadsTo,
        (hrank entry hentry _ hpasses).trans hlt⟩
  exact fun hcycle => (hlower hcycle).2.false

/-- Where no node that can be reached leads back to itself by passing the value on, no visit of a
validation meets a cycle, however often a target is referred to. -/
theorem no_cycle_of_acyclic (documents : List Document) (honce : AddedOnce documents)
    (hbase : ∀ d ∈ documents, d.base.Hosted) (start : Node)
    (hstart : (empty.addAll documents).Indexes start) (hacyclic : (empty.addAll documents).Acyclic start)
    (limits : Limits) (value : Json) (stop : Stop)
    (hstop : stop ∈ (empty.addAll documents).stops limits start value) (failure : Failure)
    (hfailure : failure ∈ (empty.addAll documents).obstacles limits.validationDepth stop)
    (reference : String) : failure.cause ≠ .reference (.cycle reference) := by
  intro hcause
  have hbegin : (empty.addAll documents).Tracks start ((empty.addAll documents).start start) start := by
    obtain ⟨entry, hentry, hnode, hscope⟩ := carries_start honce hstart
    exact ⟨⟨entry, hentry, hnode, hscope ▸ rfl⟩, .refl, nofun⟩
  have htracks := forall_mem_walk_of_calls
    (P := fun _ frame node _ => (empty.addAll documents).Tracks start frame node)
    (fun h hcall => h.call honce hbase hcall) hbegin stop hstop
  obtain ⟨o, target, hschema, href, htarget, hactive⟩ := exists_of_cycle_mem_obstacles hfailure hcause
  obtain ⟨hreached, hcycle⟩ := htracks.exists_cycle honce hbase hschema href htarget hactive
  exact hacyclic _ hreached hcycle

end Pool

/-- A document for arrays of such arrays with at most one element. It refers to one schema twice, from
there to another one twice, and for the elements to itself. -/
def Document.repeated : Document where
  name := .main
  root := .object {
    allOf := some [.object { ref := some "#/definitions/list" },
      .object { ref := some "#/definitions/list" }]
    definitions := some [
      ("list", .object {
        items := some (.all (.object { ref := some "#" }))
        anyOf := some [.object { ref := some "#/definitions/short" },
          .object { ref := some "#/definitions/short" }] }),
      ("short", .object { arrays := { maxItems := some 1 } })] }
  base := Url.implicitBase

/-- How many times the value can still be passed on from a node of the document. -/
def Document.repeatedRank (place : Place) : ℕ :=
  match place.pointer.segments with
  | ["definitions", "list", "items"] => 5
  | [] => 4
  | "allOf" :: _ => 3
  | ["definitions", "list"] => 2
  | "definitions" :: "list" :: "anyOf" :: _ => 1
  | _ => 0

/-- The repeated references are followed every time, for the array and for its element. -/
theorem no_cycle_repeated :
    let pool := Pool.empty.addAll [.repeated]
    let start := Node.root .main Document.repeated.root
    pool.Acyclic start ∧
      ∀ stop ∈ pool.stops Limits.default start (.array [.array []]),
        ∀ failure ∈ pool.obstacles Limits.default.validationDepth stop,
          ∀ reference, failure.cause ≠ .reference (.cycle reference) := by
  intro pool start
  have honce : AddedOnce [.repeated] := ⟨by decide, List.forall_mem_singleton.mpr (by decide)⟩
  have hbase : ∀ d ∈ [Document.repeated], d.base.Hosted :=
    List.forall_mem_singleton.mpr Url.hosted_implicitBase
  have hstart : pool.Indexes start := ⟨_, List.mem_cons_self, rfl⟩
  have hacyclic : pool.Acyclic start := Pool.acyclic_of_rank Document.repeatedRank (by decide) hstart
  exact ⟨hacyclic, fun stop hstop failure hfailure reference =>
    Pool.no_cycle_of_acyclic [.repeated] honce hbase start hstart hacyclic Limits.default _ stop hstop
      failure hfailure reference⟩

end Draft6
