import Draft6.Proofs.Congruence
import Draft6.Proofs.Obstacles
import Mathlib.Data.List.Dedup
import Mathlib.Data.List.MinMax
import Mathlib.Data.List.Perm.Subperm

/-!
# Validation ends by itself

Schemas may refer to one another in cycles, and still no validation goes on forever without its
maximum depth. Every call goes down in one of three ways. It asks about a part of the value, which
nests less deeply. Or it follows a reference to a node that was not being followed for this value, of
which there are only as many as the pool has nodes. Or it asks a schema below the node, where schema
objects nest less deeply. These three count in this order, and together they bound the levels of a
walk. Above the bound the maximum depth is never met and does not show in the result.
-/

namespace Draft6

/-! ## How deep values nest -/

namespace Json

mutual

/-- How deep arrays and objects nest in a value. -/
def height : Json → Nat
  | .array items => heightItems items + 1
  | .object members => heightMembers members + 1
  | _ => 0

/-- How deep arrays and objects nest in the elements of an array. -/
def heightItems : List Json → Nat
  | [] => 0
  | item :: rest => max item.height (heightItems rest)

/-- How deep arrays and objects nest in the members of an object. -/
def heightMembers : List (String × Json) → Nat
  | [] => 0
  | (_, value) :: rest => max value.height (heightMembers rest)

end

/-- No element nests deeper than all elements. -/
theorem height_le_heightItems {items : List Json} {item : Json} (h : item ∈ items) :
    item.height ≤ heightItems items := by
  induction items with
  | nil => cases h
  | cons first rest ih =>
    rw [heightItems]
    rcases List.mem_cons.mp h with rfl | h
    · exact Nat.le_max_left _ _
    · exact Nat.le_trans (ih h) (Nat.le_max_right _ _)

/-- No member nests deeper than all members. -/
theorem height_le_heightMembers {members : List (String × Json)} {name : String} {value : Json}
    (h : (name, value) ∈ members) : value.height ≤ heightMembers members := by
  induction members with
  | nil => cases h
  | cons first rest ih =>
    obtain ⟨firstName, firstValue⟩ := first
    rw [heightMembers]
    rcases List.mem_cons.mp h with heq | h
    · obtain ⟨rfl, rfl⟩ := Prod.mk.inj heq
      exact Nat.le_max_left _ _
    · exact Nat.le_trans (ih h) (Nat.le_max_right _ _)

/-- What lies directly in a value nests less deeply. A member name does not nest at all. -/
theorem height_lt_of_mem_parts {part value : Json} (h : part ∈ value.parts) :
    part.height < value.height := by
  cases value with
  | null | bool | number | string => cases h
  | array items =>
    rw [height]
    exact Nat.lt_succ_of_le (height_le_heightItems h)
  | object members =>
    obtain ⟨⟨name, value⟩, hmember, hpart⟩ := List.mem_flatMap.mp h
    have hvalue := height_le_heightMembers hmember
    rw [height]
    rcases List.mem_pair.mp hpart with rfl | rfl
    · exact Nat.lt_succ_of_le hvalue
    · exact Nat.succ_pos _

end Json

/-! ## How many levels a visit needs -/

/-- The levels that are enough for a value, given how many nodes references can lead to, how deep
schema objects nest, and how deep the value nests. -/
def levelBound (nodes height nesting : Nat) : Nat := (nesting + 1) * ((nodes + 1) * (height + 1))

namespace Pool

/-- The places of the nodes of a pool, each once. -/
def places (pool : Pool) : List Place := (pool.entries.map fun entry => entry.node.place).dedup

/-- How deep schema objects nest in a node and in the nodes of a pool. -/
def height (pool : Pool) (node : Node) : Nat :=
  (node.schema.depth :: pool.entries.map fun entry => entry.node.schema.depth).foldr max 0

/-- The maximum depth that is enough to validate a value against a node. -/
def enoughDepth (pool : Pool) (node : Node) (value : Json) : Nat :=
  levelBound pool.places.length (pool.height node) value.height

/-- Whether a visit is one that a validation can make: the references that are being followed lead to
different nodes of the pool, and the schema does not nest too deeply. -/
structure Tame (pool : Pool) (height : Nat) (frame : Frame) (node : Node) : Prop where
  nodup : frame.active.Nodup
  known : frame.active ⊆ pool.places
  depth : node.schema.depth ≤ height

/-- The levels that a visit needs: for the parts of the value, for the nodes that references may still
lead to, and for the schemas below the node. -/
def need (pool : Pool) (height : Nat) (frame : Frame) (node : Node) (value : Json) : Nat :=
  value.height * ((pool.places.length + 1) * (height + 1))
    + (pool.places.length - frame.active.length) * (height + 1) + node.schema.depth + 1

variable {pool : Pool} {height : Nat} {frame : Frame} {node : Node} {value : Json}

/-- No more references are being followed than there are nodes. -/
theorem Tame.length_le (h : pool.Tame height frame node) :
    frame.active.length ≤ pool.places.length :=
  (h.nodup.subperm h.known).length_le

/-- A reference leads to a node of the pool. -/
theorem mem_entries_of_resolve {reference : String} {scope : Url} {target : Entry}
    (h : pool.resolve reference scope = .ok target) : target ∈ pool.entries := by
  rw [resolve] at h
  split at h
  · cases h
  · split at h
    · next hentry =>
      cases h
      exact List.mem_of_find?_eq_some hentry
    · cases h

/-- A schema object nests deeper than the nodes below it. -/
theorem depth_lt_of_mem_children {child : Node} (h : child ∈ node.children) :
    child.schema.depth < node.schema.depth := by
  obtain ⟨⟨segments, schema⟩, hmem, rfl⟩ := List.mem_map.mp h
  cases hschema : node.schema with
  | boolean answer =>
    rw [hschema] at hmem
    cases hmem
  | object o =>
    rw [hschema] at hmem
    exact Schema.depth_lt_of_mem_children hmem

/-- A call of a visit that a validation can make is one as well, and needs fewer levels. -/
theorem Tame.call (h : pool.Tame height frame node)
    (hheight : ∀ entry ∈ pool.entries, entry.node.schema.depth ≤ height) {call : Call Node}
    (hcall : pool.Asks frame node value call) :
    pool.Tame height call.frame call.schema ∧
      pool.need height call.frame call.schema call.value < pool.need height frame node value := by
  cases hcall with
  | reference o hschema reference href target htarget hactive hcall =>
    have htarget := mem_entries_of_resolve htarget
    have hplace : target.node.place ∈ pool.places :=
      List.mem_dedup.mpr (List.mem_map_of_mem htarget)
    have hdepth := hheight target htarget
    have htame : pool.Tame height (frame.follow target) target.node :=
      ⟨List.nodup_cons.mpr ⟨hactive, h.nodup⟩, List.cons_subset.mpr ⟨hplace, h.known⟩, hdepth⟩
    subst hcall
    refine ⟨htame, ?_⟩
    change pool.need height (frame.follow target) target.node value < _
    -- One node less is left to be led to, which pays for all schemas below the target.
    have hless : pool.places.length - frame.active.length =
        (pool.places.length - (frame.follow target).active.length) + 1 := by
      have hlength := htame.length_le
      simp only [Frame.follow, List.length_cons] at hlength ⊢
      omega
    have hmul := Nat.add_one_mul (pool.places.length - (frame.follow target).active.length) (height + 1)
    rw [need, need, hless, hmul]
    omega
  | keyword o hschema href hchild hconcerns =>
    have hdepth := depth_lt_of_mem_children hchild
    cases hconcerns with
    | inPlace _ hframe hvalue =>
      have hactive : call.frame.active = frame.active := by rw [hframe, Frame.active_enter]
      refine ⟨⟨hactive ▸ h.nodup, hactive ▸ h.known, by have := h.depth; omega⟩, ?_⟩
      simp only [need, hactive, hvalue]
      omega
    | part _ _ hactive hpart =>
      have hdepth' : call.schema.schema.depth ≤ height := by have := h.depth; omega
      refine ⟨⟨by simp [hactive], by simp [hactive], hdepth'⟩, ?_⟩
      -- The value nests less deeply, which pays for all nodes and all schemas.
      have hnesting : (call.value.height + 1) * ((pool.places.length + 1) * (height + 1)) ≤
          value.height * ((pool.places.length + 1) * (height + 1)) :=
        Nat.mul_le_mul_right _ (Json.height_lt_of_mem_parts hpart)
      have hparts := Nat.add_one_mul call.value.height ((pool.places.length + 1) * (height + 1))
      have hnodes := Nat.add_one_mul pool.places.length (height + 1)
      rw [need, need, hactive, List.length_nil, Nat.sub_zero]
      omega

/-- A visit with the levels that it needs has no stop without levels. -/
theorem Tame.levels_ne_zero (h : pool.Tame height frame node)
    (hheight : ∀ entry ∈ pool.entries, entry.node.schema.depth ≤ height) (maximum : Nat)
    {levels : Nat} (hneed : pool.need height frame node value ≤ levels) {stop : Stop}
    (hstop : stop ∈ pool.walk maximum levels frame node value) : stop.levels ≠ 0 := by
  have hall := forall_mem_walk (P := fun levels frame node value =>
    pool.Tame height frame node ∧ pool.need height frame node value ≤ levels) ?_ ⟨h, hneed⟩ stop hstop
  · have hpos := hall.2
    rw [need] at hpos
    omega
  · rintro levels frame node value call ⟨htame, hneed⟩ hcall
    obtain ⟨htame, hless⟩ := htame.call hheight hcall
    exact ⟨htame, by omega⟩

/-- Two visits with the levels that they need report the same, whatever the maxima are. -/
theorem Tame.visit_eq (h : pool.Tame height frame node)
    (hheight : ∀ entry ∈ pool.entries, entry.node.schema.depth ≤ height) (maximum maximum' : Nat)
    {levels levels' : Nat} (hneed : pool.need height frame node value ≤ levels)
    (hneed' : pool.need height frame node value ≤ levels') :
    pool.visit maximum' levels' frame node value = pool.visit maximum levels frame node value := by
  induction levels generalizing levels' frame node value with
  | zero =>
    rw [need] at hneed
    omega
  | succ levels ih =>
    cases levels' with
    | zero =>
      rw [need] at hneed'
      omega
    | succ levels' =>
      apply nodeFailures_congr
      intro call hcall
      obtain ⟨htame, hless⟩ := h.call hheight (asks_of_mem_calls hcall)
      exact ih htame (by omega) (by omega)

/-- A validation begins with a visit that it can make. -/
theorem tame_start (pool : Pool) (node : Node) :
    pool.Tame (pool.height node) (pool.start node) node :=
  ⟨List.nodup_nil, List.nil_subset _, List.le_max_of_le' 0 List.mem_cons_self le_rfl⟩

/-- The nodes of a pool do not nest more deeply than its height. -/
theorem depth_le_height (node : Node) {entry : Entry} (h : entry ∈ pool.entries) :
    entry.node.schema.depth ≤ pool.height node :=
  List.le_max_of_le' 0 (List.mem_cons_of_mem _ (List.mem_map_of_mem h)) le_rfl

/-- The bound is enough for the visit that a validation begins with. -/
theorem need_start_le (pool : Pool) (node : Node) (value : Json) :
    pool.need (pool.height node) (pool.start node) node value ≤ pool.enoughDepth node value := by
  have hdepth := (pool.tame_start node).depth
  have hnodes := Nat.add_one_mul pool.places.length (pool.height node + 1)
  rw [need, enoughDepth, levelBound, Nat.add_one_mul value.height]
  change _ + pool.places.length * _ + _ + 1 ≤ _
  omega

/-- From the bound on, no call of a validation exceeds the maximum depth, and the result does not
depend on it, whatever cycles there are between the schemas. -/
theorem failures_eq_of_enoughDepth_le (pool : Pool) (node : Node) (value : Json) (limits : Limits)
    (h : pool.enoughDepth node value ≤ limits.validationDepth) :
    (∀ stop ∈ pool.stops limits node value, stop.levels ≠ 0) ∧
      ∀ other : Limits, pool.enoughDepth node value ≤ other.validationDepth →
        pool.failures other node value = pool.failures limits node value := by
  have htame := pool.tame_start node
  have hheight : ∀ entry ∈ pool.entries, entry.node.schema.depth ≤ pool.height node :=
    fun _ => depth_le_height node
  have hneed := pool.need_start_le node value
  constructor
  · intro stop hstop
    exact htame.levels_ne_zero hheight _ (by omega) hstop
  · intro other hother
    exact htame.visit_eq hheight _ _ (by omega) (by omega)

end Pool

/-- A schema for nested arrays that refers to itself, for their elements and also for the same value
again. -/
def Schema.cyclic : Schema :=
  .object {
    items := some (.all (.object { ref := some "#" }))
    anyOf := some [.object { ref := some "#" }, .boolean true] }

/-- The cycle is left well before the default maximum. -/
theorem failures_eq_cyclic :
    (Pool.ofDocument .cyclic).enoughDepth (Node.root .main .cyclic) (.array [.array []]) = 45 ∧
      (∀ stop ∈ (Pool.ofDocument .cyclic).stops Limits.default (Node.root .main .cyclic)
        (.array [.array []]), stop.levels ≠ 0) ∧
      (Pool.ofDocument .cyclic).failures Limits.permissive (Node.root .main .cyclic)
          (.array [.array []]) =
        (Pool.ofDocument .cyclic).failures Limits.default (Node.root .main .cyclic)
          (.array [.array []]) := by
  have hbound : (Pool.ofDocument .cyclic).enoughDepth (Node.root .main .cyclic)
      (.array [.array []]) = 45 := by decide
  obtain ⟨hlevels, hsame⟩ := Pool.failures_eq_of_enoughDepth_le (Pool.ofDocument .cyclic)
    (Node.root .main .cyclic) (.array [.array []]) Limits.default (by rw [hbound]; decide)
  exact ⟨hbound, hlevels, hsame Limits.permissive (by rw [hbound]; decide)⟩

end Draft6
