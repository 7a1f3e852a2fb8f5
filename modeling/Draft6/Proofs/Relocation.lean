import Draft6.Proofs.Replacement
import Draft6.Proofs.Transparency

/-!
# Schemas at other places

A schema can stand at several places, of one pool or of several. What a validation against it reports
depends on the place in two ways only: through the base in effect, and through the schemas that its
references lead to. Where both are the same, a validation that meets no obstacle reports the same, also
when there are more levels.
-/

namespace Draft6

/-- A schema at a place of a pool. -/
structure Site where
  pool : Pool
  node : Node

namespace Site

/-- The schema. -/
def schema (site : Site) : Schema := site.node.schema

/-- Where the validation of a value against the schema begins. -/
def start (site : Site) : Frame := site.pool.start site.node

/-- Whether a value is valid against the schema. -/
def accepts (site : Site) (limits : Limits) (value : Json) : Bool :=
  site.pool.accepts limits site.node value

/-- Whether the validation of a value meets no obstacle. -/
def Unobstructed (site : Site) (limits : Limits) (value : Json) : Prop :=
  site.pool.Unobstructed limits site.node value

instance (site : Site) (limits : Limits) (value : Json) : Decidable (site.Unobstructed limits value) :=
  inferInstanceAs (Decidable (site.pool.Unobstructed limits site.node value))

end Site

/-! ## References that lead to the same schemas -/

/-- Whether a reference that a visit follows leads to the same schema in another pool, with the same base
and at the place that answers to the one in this pool. -/
def Pool.LeadsAlike (pool other : Pool) (move : Place → Place) (stop : Stop) : Prop :=
  ∀ reference target, stop.node.schema.object?.bind ObjectSchema.ref = some reference →
    pool.resolve reference stop.frame.scope = .ok target →
      ∃ target', other.resolve reference stop.frame.scope = .ok target' ∧
        target'.scope = target.scope ∧ target'.node = ⟨move target.node.place, target.node.schema⟩

/-- Whether the schema of a site means the same at another site, as far as the validation of a value goes:
the base in effect is the same, and the references lead to the same schemas. These may stand at other
places, but different places must stay different. -/
def Site.MeansSame (site other : Site) (limits : Limits) (value : Json) : Prop :=
  other.start.scope = site.start.scope ∧
    ∃ move : Place → Place, Function.Injective move ∧
      ∀ stop ∈ site.pool.stops limits site.node value, site.pool.LeadsAlike other.pool move stop

/-- In one pool a schema means the same wherever the same base is in effect. -/
theorem Site.meansSame_of_pool_eq {site other : Site} (hpool : other.pool = site.pool)
    (hscope : other.start.scope = site.start.scope) (limits : Limits) (value : Json) :
    site.MeansSame other limits value :=
  ⟨hscope, id, Function.injective_id, fun _ _ _ target _ htarget =>
    ⟨target, hpool ▸ htarget, rfl, rfl⟩⟩

/-- A schema whose validation meets no references means the same wherever the same base is in effect. -/
theorem Site.meansSame_of_ref_eq_none {site other : Site} (hscope : other.start.scope = site.start.scope)
    {limits : Limits} {value : Json} (h : ∀ stop ∈ site.pool.stops limits site.node value,
      stop.node.schema.object?.bind ObjectSchema.ref = none) : site.MeansSame other limits value :=
  ⟨hscope, id, Function.injective_id, fun stop hstop reference _ href =>
    absurd ((h stop hstop).symm.trans href) (Option.some_ne_none reference).symm⟩

/-! ## Frames with moved targets -/

/-- The frame in which the targets that are being followed stand at other places. -/
def Frame.moved (move : Place → Place) (frame : Frame) : Frame :=
  frame.withActive (frame.active.map move)

/-- A frame follows the same schema at another place. -/
theorem Frame.moved_follow (move : Place → Place) (frame : Frame) {target target' : Entry}
    (hscope : target'.scope = target.scope) (hplace : target'.node.place = move target.node.place) :
    (frame.moved move).follow target' = (frame.follow target).moved move := by
  rw [follow, hscope, hplace]
  rfl

/-- Where no target is being followed, nothing is moved. -/
theorem Frame.moved_of_active_eq_nil (move : Place → Place) {frame : Frame} (h : frame.active = []) :
    frame.moved move = frame := by
  rw [moved, h, List.map_nil, ← h]
  rfl

/-- The calls of a visit with moved targets have moved targets. -/
theorem Call.Concerns.withActive_map {α : Type} (move : Place → Place) {frame : Frame} {value : Json}
    {call : Call α} (h : call.Concerns frame value) :
    call.withActive (frame.active.map move) = { call with frame := call.frame.moved move } := by
  cases h with
  | inPlace hkeyword hframe =>
    rw [Call.withActive, if_pos hkeyword, ← hframe]
    rfl
  | part hkeyword _ hactive =>
    rw [Call.withActive, if_neg (by rw [hkeyword]; exact Bool.false_ne_true),
      Frame.moved_of_active_eq_nil move hactive]

namespace Pool

variable {pool other : Pool} {move : Place → Place} {maximum maximum' levels levels' : Nat}
  {frame : Frame} {node : Node} {value : Json}

/-- A schema object reports the same at another place and with moved targets when its calls come back with
the same failures. -/
theorem failures_moved {o : ObjectSchema Schema} {visit visit' : Visit Node} (node node' : Node)
    (h : ∀ call ∈ (o.mapPath node.child).calls visit frame value, ∀ place,
      visit' (call.frame.moved move) ⟨place, call.schema.schema⟩ call.value = call.failures visit) :
    (o.mapPath node'.child).failures visit' (frame.moved move) value =
      (o.mapPath node.child).failures visit frame value := by
  have hparts (home : Node) : o.mapPath home.child =
      (o.mapPath Prod.mk).map fun part => home.child part.1 part.2 :=
    (ObjectSchema.mapPath_mapPath Prod.mk (fun _ part => home.child part.1 part.2) o).symm
  simp only [hparts, ObjectSchema.failures_map, ObjectSchema.calls_map, List.forall_mem_map] at h ⊢
  refine ObjectSchema.failures_congr fun call hcall => ?_
  rw [(ObjectSchema.of_mem_calls _ _ _ hcall).2.withActive_map move]
  exact h call hcall (node'.child call.schema.1 call.schema.2).place

/-- A walk without obstacles whose references lead to the same schemas reports the same at another place,
in another pool and with more levels. -/
theorem Clear.visit_moved (hmove : Function.Injective move)
    (h : pool.Clear maximum levels frame node value)
    (hleads : ∀ stop ∈ pool.walk maximum levels frame node value, pool.LeadsAlike other move stop)
    (hlevels : levels ≤ levels') (place : Place) :
    other.visit maximum' levels' (frame.moved move) ⟨place, node.schema⟩ value =
      pool.visit maximum levels frame node value := by
  induction levels generalizing levels' frame node value place with
  | zero => exact absurd h not_clear_zero
  | succ levels ih =>
    obtain ⟨levels', rfl⟩ : ∃ fewer, levels' = fewer + 1 := ⟨levels' - 1, by omega⟩
    have hbelow (call : Call Node) (hcall : call ∈ pool.calls (pool.visit maximum levels) frame node value)
        (place : Place) :
        other.visit maximum' levels' (call.frame.moved move) ⟨place, call.schema.schema⟩ call.value =
          call.failures (pool.visit maximum levels) :=
      ih (h.call call hcall)
        (fun stop hstop => hleads (stop.below call.keyword) (below_mem_walk hcall hstop))
        (Nat.le_of_succ_le_succ hlevels) place
    rw [visit, visit, nodeFailures.eq_def, nodeFailures.eq_def]
    cases hschema : node.schema with
    | boolean answer => cases answer <;> rfl
    | object o =>
      cases href : o.ref with
      | some reference =>
        obtain ⟨target, htarget, hactive, _⟩ := h.exists_target hschema href
        obtain ⟨target', htarget', hscope, hnode⟩ := hleads _ List.mem_cons_self reference target
          (by rw [hschema]; exact href) htarget
        have hplace : target'.node.place = move target.node.place := congrArg Node.place hnode
        have hactive' : target'.node.place ∉ (frame.moved move).active := by
          rw [hplace]
          exact fun hmem => hactive ((List.mem_map_of_injective hmove).mp hmem)
        have hcall := hbelow ⟨.ref, frame.follow target, target.node, value⟩
          (by simp [calls, hschema, href, htarget, hactive]) (move target.node.place)
        rw [← frame.moved_follow move hscope hplace, ← hnode] at hcall
        change other.resolve reference (frame.moved move).scope = .ok target' at htarget'
        simp only [href, referenceFailures, htarget, htarget', List.contains_iff_mem, if_neg hactive,
          if_neg hactive']
        exact hcall
      | none =>
        have henter : (frame.moved move).enter o.id = (frame.enter o.id).moved move := by
          rw [Frame.moved, Frame.moved, Frame.enter_withActive, Frame.active_enter]
        simp only [href, henter]
        exact failures_moved node ⟨place, .object o⟩ fun call hcall =>
          hbelow call (by simpa only [calls, hschema, href] using hcall)

end Pool

/-- Where a schema means the same, it accepts the same values, if it meets no obstacle and there are levels
enough. -/
theorem Site.MeansSame.visit_eq {site other : Site} {limits : Limits} {value : Json}
    (h : site.MeansSame other limits value) (hclear : site.Unobstructed limits value)
    {maximum levels : Nat} (hlevels : limits.validationDepth < levels) (place : Place) :
    other.pool.visit maximum levels other.start ⟨place, site.schema⟩ value =
      site.pool.failures limits site.node value := by
  obtain ⟨hscope, move, hmove, hleads⟩ := h
  have hstart : other.start = site.start.moved move := by
    rw [Frame.moved_of_active_eq_nil move rfl, start, start, Pool.start, Pool.start]
    exact congrArg (Frame.mk Pointer.root · []) hscope
  rw [hstart]
  exact Pool.Clear.visit_moved hmove hclear hleads hlevels place

end Draft6
