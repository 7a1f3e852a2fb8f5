import Draft6.Proofs.Congruence
import Draft6.Proofs.Documents
import Draft6.Proofs.Termination

/-!
# References are transparent

Validating against a reference is validating against its target one level deeper. The walk behind the
reference differs from the walk that begins at the target in two ways. It has another maximum depth,
which shows only in obstacles. And the target counts as being followed, which would show where it is
referred to for the same value again. But from there the walk that begins at the target would come back
to the same reference and find a cycle. So when this walk meets no obstacle, the two report the same.
-/

namespace Draft6

namespace Pool

variable {pool : Pool} {maximum maximum' levels : Nat} {frame start : Frame} {node : Node}
  {value : Json} {o : ObjectSchema Schema}

/-! ## Walks without obstacles -/

/-- Whether a walk meets no obstacle. -/
def Clear (pool : Pool) (maximum levels : Nat) (frame : Frame) (node : Node) (value : Json) : Prop :=
  ∀ stop ∈ pool.walk maximum levels frame node value, pool.obstacles maximum stop = []

/-- A walk without obstacles has levels. -/
theorem not_clear_zero : ¬ pool.Clear maximum 0 frame node value :=
  fun h => nomatch h _ List.mem_cons_self

/-- The calls of a walk without obstacles begin walks without obstacles. -/
theorem Clear.call (h : pool.Clear maximum (levels + 1) frame node value) (call : Call Node)
    (hcall : call ∈ pool.calls (pool.visit maximum levels) frame node value) :
    pool.Clear maximum levels call.frame call.schema call.value :=
  forall_obstacles_of_mem_calls (P := (· = [])) h hcall

/-- A reference that is met without an obstacle leads to a target that is not being followed yet, and
the walk goes on there without an obstacle. -/
theorem Clear.exists_target (h : pool.Clear maximum (levels + 1) frame node value)
    (hschema : node.schema = .object o) {reference : String} (href : o.ref = some reference) :
    ∃ target, pool.resolve reference frame.scope = .ok target ∧
      target.node.place ∉ frame.active ∧
        pool.Clear maximum levels (frame.follow target) target.node value := by
  have hnone := h _ List.mem_cons_self
  simp only [obstacles, hschema, Schema.object?, Option.bind_some, href, Nat.add_one_ne_zero,
    if_false] at hnone
  cases htarget : pool.resolve reference frame.scope with
  | error reason => simp [htarget] at hnone
  | ok target =>
    simp only [htarget] at hnone
    have hactive : ¬ frame.active.contains target.node.place := by
      intro hactive
      rw [if_pos hactive] at hnone
      cases hnone
    refine ⟨target, rfl, by simpa using hactive, ?_⟩
    refine h.call ⟨.ref, frame.follow target, target.node, value⟩ ?_
    simp only [calls, hschema, href, htarget, if_neg hactive, List.mem_singleton]

/-- What a walk without obstacles reports does not depend on the maximum depth. -/
theorem Clear.visit_eq (h : pool.Clear maximum levels frame node value) :
    pool.visit maximum' levels frame node value = pool.visit maximum levels frame node value := by
  induction levels generalizing frame node value with
  | zero => exact absurd h not_clear_zero
  | succ levels ih =>
    apply nodeFailures_congr
    intro call hcall
    exact ih (h.call call hcall)

/-! ## Visits of the value itself -/

/-- The visits that a walk can make of the value itself: the first one, and those that are called for
by references and by keywords for the same value. -/
inductive Stays (pool : Pool) (start : Frame) (origin : Node) (value : Json) : Frame → Node → Prop
  | origin : Stays pool start origin value start origin
  | reference {frame : Frame} {node : Node} (h : Stays pool start origin value frame node)
      {o : ObjectSchema Schema} (hschema : node.schema = .object o) {reference : String}
      (href : o.ref = some reference) {target : Entry}
      (htarget : pool.resolve reference frame.scope = .ok target) :
      Stays pool start origin value (frame.follow target) target.node
  | keyword {frame : Frame} {node : Node} (h : Stays pool start origin value frame node)
      {o : ObjectSchema Schema} (hschema : node.schema = .object o) (href : o.ref = none)
      {visit : Visit Node} {call : Call Node}
      (hcall : call ∈ (o.mapPath node.child).calls visit (frame.enter o.id) value)
      (hplace : call.keyword.isInPlace = true) :
      Stays pool start origin value call.frame call.schema

/-- The visits of the value itself are about the same part of the validated value. -/
theorem Stays.pointer_eq {origin : Node} (h : pool.Stays start origin value frame node) :
    frame.pointer = start.pointer := by
  induction h with
  | origin => rfl
  | reference _ _ _ _ ih => exact ih
  | keyword _ _ _ hcall hplace ih =>
    rw [(ObjectSchema.of_isInPlace _ _ _ hcall hplace).1, Frame.pointer_enter, ih]

/-- A walk without obstacles that begins in the same way, while more references are being followed, can
make the same visits of the value itself. -/
theorem Stays.exists_clear {origin : Node} (h : pool.Stays start origin value frame node)
    {active : List Place} (hclear : pool.Clear maximum levels (start.withActive active) origin value) :
    ∃ levels' active', active ⊆ active' ∧
      pool.Clear maximum levels' (frame.withActive active') node value := by
  induction h with
  | origin => exact ⟨levels, active, List.Subset.refl _, hclear⟩
  | @reference frame node _ o hschema reference href target htarget ih =>
    obtain ⟨levels', active', hsubset, hclear⟩ := ih
    cases levels' with
    | zero => exact absurd hclear not_clear_zero
    | succ levels' =>
      obtain ⟨target', htarget', _, hclear⟩ := hclear.exists_target hschema href
      obtain rfl : target = target' := Except.ok.inj (htarget.symm.trans htarget')
      exact ⟨levels', target.node.place :: active', List.subset_cons_of_subset _ hsubset, hclear⟩
  | @keyword frame node _ o hschema href visit call hcall hplace ih =>
    obtain ⟨levels', active', hsubset, hclear⟩ := ih
    cases levels' with
    | zero => exact absurd hclear not_clear_zero
    | succ levels' =>
      refine ⟨levels', active', hsubset, ?_⟩
      have hsame := ObjectSchema.withActive_mem_calls hcall hplace (pool.visit maximum levels') active'
      rw [← Frame.enter_withActive] at hsame
      have hbelow := hclear.call (call.withActive active') (by simpa [calls, hschema, href])
      rw [Call.withActive, if_pos hplace] at hbelow
      rwa [← (ObjectSchema.of_isInPlace _ _ _ hcall hplace).2]

/-- In a walk without obstacles that begins at an entry, no visit of the value itself refers to this
entry. -/
theorem Stays.place_ne {origin : Entry}
    (hunique : ∀ entry ∈ pool.entries, entry.node.place = origin.node.place → entry = origin)
    (hstart : start.scope = origin.scope)
    (h : pool.Stays start origin.node value frame node)
    (hclear : pool.Clear maximum (levels + 1) frame node value) (hschema : node.schema = .object o)
    {reference : String} (href : o.ref = some reference) {target : Entry}
    (htarget : pool.resolve reference frame.scope = .ok target) :
    target.node.place ≠ origin.node.place := by
  intro hplace
  obtain rfl := hunique target (mem_entries_of_resolve htarget) hplace
  obtain ⟨target', htarget', _, hagain⟩ := hclear.exists_target hschema href
  obtain rfl : target = target' := Except.ok.inj (htarget.symm.trans htarget')
  -- Behind the reference the walk begins anew, and comes back here while the entry is followed.
  have hframe : frame.follow target = start.withActive (target.node.place :: frame.active) := by
    rw [Frame.follow, Frame.withActive, h.pointer_eq, hstart]
  rw [hframe] at hagain
  obtain ⟨levels', active', hsubset, hclear'⟩ := h.exists_clear hagain
  cases levels' with
  | zero => exact not_clear_zero hclear'
  | succ levels' =>
    obtain ⟨target', htarget', hactive, _⟩ := hclear'.exists_target hschema href
    obtain rfl : target = target' := Except.ok.inj (htarget.symm.trans htarget')
    exact hactive (hsubset List.mem_cons_self)

/-- A walk without obstacles that begins at an entry reports the same when this entry is being
followed. -/
theorem Stays.visit_eq {origin : Entry}
    (hunique : ∀ entry ∈ pool.entries, entry.node.place = origin.node.place → entry = origin)
    (hstart : start.scope = origin.scope)
    (h : pool.Stays start origin.node value frame node)
    (hclear : pool.Clear maximum levels frame node value) :
    pool.visit maximum' levels (frame.withActive (frame.active ++ [origin.node.place])) node value =
      pool.visit maximum levels frame node value := by
  induction levels generalizing frame node with
  | zero => exact absurd hclear not_clear_zero
  | succ levels ih =>
    rw [visit, visit, nodeFailures.eq_def, nodeFailures.eq_def]
    cases hschema : node.schema with
    | boolean answer => cases answer <;> rfl
    | object o =>
      cases href : o.ref with
      | some reference =>
        obtain ⟨target, htarget, hactive, hbehind⟩ := hclear.exists_target hschema href
        have hplace := h.place_ne hunique hstart hclear hschema href htarget
        have hactive' : target.node.place ∉ frame.active ++ [origin.node.place] := by
          simp [hactive, hplace]
        simp only [href, referenceFailures, Frame.withActive, htarget, List.contains_iff_mem,
          if_neg hactive, if_neg hactive']
        exact ih (h.reference hschema href htarget) hbehind
      | none =>
        simp only [href, Frame.enter_withActive]
        refine ObjectSchema.failures_congr fun call hcall => ?_
        have hbelow := hclear.call call (by simpa [calls, hschema, href])
        cases hplace : call.keyword.isInPlace with
        | true =>
          obtain ⟨hframe, hvalue⟩ := ObjectSchema.of_isInPlace _ _ _ hcall hplace
          have hactive : call.frame.active = frame.active := by rw [hframe, Frame.active_enter]
          rw [Call.withActive, if_pos hplace, Call.failures, Call.failures, ← hactive, hvalue]
          exact ih (h.keyword hschema href hcall hplace) (hvalue ▸ hbelow)
        | false =>
          rw [Call.withActive, hplace, if_neg Bool.false_ne_true]
          exact hbelow.visit_eq

/-- A node with a reference reports what the target of the reference reports with one level less, when
nothing obstructs the validation against the target. Other keywords beside the reference do not
matter. -/
theorem failures_reference (documents : List Document) (honce : AddedOnce documents)
    (node : Node) (scope : Url)
    (hscope : (empty.addAll documents).scopeOf? node.place = some scope)
    (o : ObjectSchema Schema) (hschema : node.schema = .object o) (reference : String)
    (href : o.ref = some reference)
    (target : Entry) (htarget : (empty.addAll documents).resolve reference scope = .ok target)
    (limits : Limits) (value : Json)
    (h : (empty.addAll documents).Unobstructed limits target.node value) :
    (empty.addAll documents).failures
        { limits with validationDepth := limits.validationDepth + 1 } node value =
      (empty.addAll documents).failures limits target.node value := by
  have hmem := mem_entries_of_resolve htarget
  have hstart : ((empty.addAll documents).start target.node).scope = target.scope := by
    rw [start, honce.scopeOf?_eq hmem]
    rfl
  have hunique : ∀ entry ∈ (empty.addAll documents).entries,
      entry.node.place = target.node.place → entry = target :=
    fun entry hentry => honce.eq_of_place_eq hentry hmem
  have hbegin : (empty.addAll documents).failures
      { limits with validationDepth := limits.validationDepth + 1 } node value =
        (empty.addAll documents).visit (limits.validationDepth + 1) (limits.validationDepth + 1)
          (((empty.addAll documents).start node).follow target) target.node value := by
    rw [failures, visit, nodeFailures.eq_def]
    simp only [hschema, href, referenceFailures, start, hscope, Option.getD_some, htarget,
      List.contains_nil]
    rfl
  have hframe : ((empty.addAll documents).start node).follow target =
      ((empty.addAll documents).start target.node).withActive [target.node.place] := by
    rw [Frame.follow, Frame.withActive, hstart]
    rfl
  rw [hbegin, hframe]
  exact Stays.visit_eq hunique hstart .origin h

end Pool

/-- A document whose root refers to a schema for lists of lists. What stands beside the reference would
accept nothing. -/
def Document.lists : Document where
  name := .main
  root := .object {
    ref := some "#/definitions/list"
    not := some (.boolean true)
    definitions := some [("list", .object {
      type := .single .array
      items := some (.all (.object { ref := some "#/definitions/list" })) })] }
  base := Url.implicitBase

/-- A list with one element that is no list is reported in the same way by both. -/
theorem failures_lists :
    ∃ target, (Pool.empty.addAll [.lists]).resolve "#/definitions/list" Url.implicitBase =
        .ok target ∧
      (Pool.empty.addAll [.lists]).Unobstructed Limits.default target.node
        (.array [.array [], .null]) ∧
      (Pool.empty.addAll [.lists]).failures { Limits.default with validationDepth := 129 }
          (Node.root .main Document.lists.root) (.array [.array [], .null]) =
        (Pool.empty.addAll [.lists]).failures Limits.default target.node
          (.array [.array [], .null]) ∧
      ((Pool.empty.addAll [.lists]).failures Limits.default target.node
        (.array [.array [], .null])).map Located.pointer = [⟨["1"]⟩] := by
  have honce : AddedOnce [.lists] := ⟨by decide, List.forall_mem_singleton.mpr (by decide)⟩
  have hplace : ((Pool.empty.addAll [.lists]).resolve "#/definitions/list"
      Url.implicitBase).toOption.map (fun target => target.node.place) =
        some ⟨.main, ⟨["definitions", "list"]⟩⟩ := by decide
  have hlist : ∀ entry ∈ (Pool.empty.addAll [.lists]).entries,
      entry.node.place = ⟨.main, ⟨["definitions", "list"]⟩⟩ →
        (Pool.empty.addAll [.lists]).Unobstructed Limits.default entry.node
          (.array [.array [], .null]) ∧
        ((Pool.empty.addAll [.lists]).failures Limits.default entry.node
          (.array [.array [], .null])).map Located.pointer = [⟨["1"]⟩] := by decide
  cases htarget : (Pool.empty.addAll [.lists]).resolve "#/definitions/list" Url.implicitBase with
  | error reason =>
    rw [htarget] at hplace
    cases hplace
  | ok target =>
    rw [htarget] at hplace
    obtain ⟨hclear, hpointers⟩ :=
      hlist target (Pool.mem_entries_of_resolve htarget) (Option.some.inj hplace)
    have hscope : (Pool.empty.addAll [.lists]).scopeOf?
        (Node.root .main Document.lists.root).place = some Url.implicitBase := by decide
    exact ⟨target, rfl, hclear, Pool.failures_reference [.lists] honce
      (Node.root .main Document.lists.root) Url.implicitBase hscope _ rfl _ rfl target htarget
      Limits.default (.array [.array [], .null]) hclear, hpointers⟩

end Draft6
