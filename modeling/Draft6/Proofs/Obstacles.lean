import Draft6.Proofs.Calls
import Mathlib.Data.List.Basic

/-!
# Obstacles of a walk

A walk is the list of all visits that one validation makes, each before the visits that it asks for,
and each with the keywords that lead to it. A visit that cannot tell about the value has met an
obstacle: no levels are left, or a reference is not followed.

Obstacles are reported in the order in which they are met, except those met on account of a member
name, which stay inside the failure about the name. So an obstacle keeps a value from being accepted
unless it is buried: met on account of a member name, below a keyword that weighs whole branches. All
four of these keywords do bury obstacles.
-/

namespace Draft6

/-! ## Walks -/

/-- A visit of a walk: the keywords that lead to it, the levels that are left, and what is
visited. -/
structure Stop where
  route : List Keyword
  levels : Nat
  frame : Frame
  node : Node
  value : Json

namespace Stop

/-- The stop as seen from the visit that asked for it through a keyword. -/
def below (keyword : Keyword) (stop : Stop) : Stop := { stop with route := keyword :: stop.route }

/-- Whether a stop is about a member name and not about a part of the value. -/
def isInName (stop : Stop) : Bool := stop.route.contains .propertyNames

end Stop

/-- Whether a keyword weighs whole branches: it may accept the value although a branch fails. -/
def Keyword.weighs : Keyword → Bool
  | .contains | .anyOf | .oneOf | .not => true
  | _ => false

/-- Whether keywords lead to a member name below a keyword that weighs whole branches. -/
def buried : List Keyword → Bool
  | [] => false
  | keyword :: rest => (keyword.weighs && rest.contains .propertyNames) || buried rest

namespace Pool

/-- The failures of a visit that keep it from telling about the value: no levels are left, or its
reference leads nowhere or back to itself. -/
def obstacles (pool : Pool) (maximum : Nat) (stop : Stop) : List Failure :=
  if stop.levels = 0 then [stop.frame.failure (.tooDeep maximum)]
  else match stop.node.schema.object?.bind ObjectSchema.ref with
    | none => []
    | some reference =>
      match pool.resolve reference stop.frame.scope with
      | .error error => [stop.frame.failure (.reference error)]
      | .ok target =>
        if stop.frame.active.contains target.node.place then
          [stop.frame.failure (.reference (.cycle reference))]
        else []

/-- All visits of a walk with some levels left, in the order in which they begin. -/
def walk (pool : Pool) (maximum : Nat) : (levels : Nat) → Frame → Node → Json → List Stop
  | 0, frame, node, value => [⟨[], 0, frame, node, value⟩]
  | levels + 1, frame, node, value =>
    ⟨[], levels + 1, frame, node, value⟩ ::
      (pool.calls (pool.visit maximum levels) frame node value).flatMap fun call =>
        (walk pool maximum levels call.frame call.schema call.value).map (Stop.below call.keyword)

/-- What each visit hands down to the calls that it makes, all visits of a walk have when the first one
has it. -/
theorem forall_mem_walk_of_calls {pool : Pool} {P : Nat → Frame → Node → Json → Prop}
    (step : ∀ {levels frame node value} {visit : Visit Node} {call}, P (levels + 1) frame node value →
      call ∈ pool.calls visit frame node value → P levels call.frame call.schema call.value)
    {maximum levels : Nat} {frame : Frame} {node : Node} {value : Json}
    (h : P levels frame node value) :
    ∀ stop ∈ pool.walk maximum levels frame node value,
      P stop.levels stop.frame stop.node stop.value := by
  induction levels generalizing frame node value with
  | zero =>
    intro stop hstop
    rwa [List.mem_singleton.mp hstop]
  | succ levels ih =>
    intro stop hstop
    rcases List.mem_cons.mp hstop with rfl | hstop
    · exact h
    · obtain ⟨call, hcall, hstop⟩ := List.mem_flatMap.mp hstop
      obtain ⟨inner, hinner, rfl⟩ := List.mem_map.mp hstop
      exact ih (step h hcall) inner hinner

/-- What each visit hands down to all that it can ask for, all visits of a walk have when the first one
has it. -/
theorem forall_mem_walk {pool : Pool} {P : Nat → Frame → Node → Json → Prop}
    (step : ∀ {levels frame node value call}, P (levels + 1) frame node value →
      pool.Asks frame node value call → P levels call.frame call.schema call.value)
    {maximum levels : Nat} {frame : Frame} {node : Node} {value : Json}
    (h : P levels frame node value) :
    ∀ stop ∈ pool.walk maximum levels frame node value,
      P stop.levels stop.frame stop.node stop.value :=
  forall_mem_walk_of_calls (P := P) (fun h hcall => step h (asks_of_mem_calls hcall)) h

/-- All visits that the validation of a value against a node makes. -/
def stops (pool : Pool) (limits : Limits) (node : Node) (value : Json) : List Stop :=
  pool.walk limits.validationDepth (limits.validationDepth + 1) (pool.start node) node value

/-- Whether no visit of a validation meets an obstacle, not even one about a member name. -/
def Unobstructed (pool : Pool) (limits : Limits) (node : Node) (value : Json) : Prop :=
  ∀ stop ∈ pool.stops limits node value, pool.obstacles limits.validationDepth stop = []

instance (pool : Pool) (limits : Limits) (node : Node) (value : Json) :
    Decidable (pool.Unobstructed limits node value) :=
  inferInstanceAs (Decidable (∀ stop ∈ pool.stops limits node value, _ = []))

/-- Whether a validation meets an obstacle behind some keywords. -/
def Meets (pool : Pool) (limits : Limits) (node : Node) (value : Json) (route : List Keyword) :
    Prop :=
  ∃ stop ∈ pool.stops limits node value, stop.route = route ∧
    pool.obstacles limits.validationDepth stop ≠ []

instance (pool : Pool) (limits : Limits) (node : Node) (value : Json) (route : List Keyword) :
    Decidable (pool.Meets limits node value route) :=
  inferInstanceAs (Decidable (∃ stop ∈ pool.stops limits node value, _ ∧ _ ≠ []))

end Pool

/-! ## What one visit hands on -/

/-- The structural failures that a call hands on. Those about a member name stay behind. -/
def Call.handedOn {α : Type} (visit : Visit α) (call : Call α) : List Failure :=
  if call.keyword = .propertyNames then [] else structural (call.failures visit)

/-- Calls that are not about member names hand on all that is structural. -/
theorem flatMap_handedOn {α : Type} (visit : Visit α) (calls : List (Call α))
    (h : ∀ call ∈ calls, call.keyword ≠ .propertyNames) :
    calls.flatMap (Call.handedOn visit) =
      calls.flatMap fun call => structural (call.failures visit) := by
  refine List.flatMap_congr fun call hcall => ?_
  rw [Call.handedOn, if_neg (h call hcall)]

namespace ObjectSchema

variable {α : Type} (visit : Visit α) (frame : Frame) (o : ObjectSchema α)

/-- The keywords for one kind of value report what their calls hand on. -/
theorem structural_kindFailures (value : Json) :
    structural (o.kindFailures visit frame value) =
      (o.kindCalls visit frame value).flatMap (Call.handedOn visit) := by
  cases value with
  | null | bool | number | string => exact structural_facetFailures frame o _
  | array items =>
    simp only [kindFailures, kindCalls, structural_append, structural_facetFailures,
      List.append_nil, List.flatMap_append, itemFailures_eq, structural_flatMap,
      structural_containsFailures]
    rw [flatMap_handedOn, flatMap_handedOn]
    · intro call hcall
      obtain ⟨_, _, _, _, _, rfl⟩ := o.mem_containsCalls visit frame hcall
      simp
    · intro call hcall
      obtain ⟨_, _, _, _, _, rfl⟩ := (o.mem_itemCalls frame).mp hcall
      simp
  | object members =>
    have hnames : (o.nameCalls frame members).flatMap (Call.handedOn visit) = [] := by
      refine List.flatMap_eq_nil_iff.mpr fun call hcall => ?_
      obtain ⟨_, _, _, _, _, rfl⟩ := (o.mem_nameCalls frame).mp hcall
      rfl
    simp only [kindFailures, kindCalls, structural_append, structural_facetFailures,
      requiredFailures, structural_missingFailures, List.nil_append, List.append_nil,
      List.flatMap_append, propertyFailures_eq, patternFailures_eq, additionalFailures_eq,
      structural_flatMap, structural_dependencyFailures, structural_nameFailures, hnames]
    rw [flatMap_handedOn, flatMap_handedOn, flatMap_handedOn, flatMap_handedOn]
    · intro call hcall
      obtain ⟨_, _, _, _, rfl⟩ := (o.mem_dependencyCalls frame).mp hcall
      simp
    · intro call hcall
      obtain ⟨_, _, _, _, _, _, rfl⟩ := (o.mem_additionalCalls frame).mp hcall
      simp
    · intro call hcall
      obtain ⟨_, _, _, _, _, rfl⟩ := (o.mem_patternCalls frame).mp hcall
      simp
    · intro call hcall
      obtain ⟨_, _, _, _, _, rfl⟩ := (o.mem_propertyCalls frame).mp hcall
      simp

/-- A schema object reports what its calls hand on, in their order, and nothing else that is
structural. -/
theorem structural_failures (value : Json) :
    structural (o.failures visit frame value) =
      (o.calls visit frame value).flatMap (Call.handedOn visit) := by
  have hlist (keyword : Keyword) (schemas : Option (List α)) (hk : keyword ≠ .propertyNames) :=
    flatMap_handedOn visit (listCalls frame keyword schemas value) fun call hcall => by
      obtain ⟨_, _, rfl⟩ := (mem_listCalls frame).mp hcall
      exact hk
  have hnot := flatMap_handedOn visit (o.notCalls frame value) fun call hcall => by
    obtain ⟨_, _, rfl⟩ := (o.mem_notCalls frame).mp hcall
    simp
  rw [failures, calls]
  simp only [structural_append, List.flatMap_append, allOfFailures_eq, structural_flatMap,
    structural_anyOfFailures, structural_oneOfFailures, structural_notFailures,
    structural_kindFailures, hnot, hlist .allOf o.allOf (by simp), hlist .anyOf o.anyOf (by simp),
    hlist .oneOf o.oneOf (by simp)]
  have hvalue := o.structural_valueFailures frame value
  simp only [structural_append, List.append_eq_nil_iff] at hvalue
  simp only [hvalue, List.nil_append]

/-- Keywords for one kind of value that report nothing have no calls that fail, except those that
weigh whole branches. -/
theorem failures_of_kindFailures_eq_nil {value : Json}
    (h : o.kindFailures visit frame value = []) {call : Call α}
    (hcall : call ∈ o.kindCalls visit frame value) :
    call.failures visit = [] ∨ call.keyword.weighs = true := by
  cases value with
  | null | bool | number | string => cases hcall
  | array items =>
    simp only [kindFailures, List.append_eq_nil_iff, itemFailures_eq,
      List.flatMap_eq_nil_iff] at h
    rcases List.mem_append.mp hcall with hcall | hcall
    · exact .inl (h.1.1 call hcall)
    · obtain ⟨_, _, _, _, _, rfl⟩ := o.mem_containsCalls visit frame hcall
      exact .inr rfl
  | object members =>
    simp only [kindFailures, List.append_eq_nil_iff, propertyFailures_eq, patternFailures_eq,
      additionalFailures_eq, List.flatMap_eq_nil_iff, dependencyFailures_eq_nil_iff,
      nameFailures_eq_nil_iff] at h
    obtain ⟨⟨⟨⟨⟨_, hproperties⟩, hpatterns⟩, hadditional⟩, _, hdependencies⟩, hnames⟩ := h
    simp only [kindCalls, List.mem_append] at hcall
    rcases hcall with (((hcall | hcall) | hcall) | hcall) | hcall
    · exact .inl (hproperties call hcall)
    · exact .inl (hpatterns call hcall)
    · exact .inl (hadditional call hcall)
    · exact .inl (hdependencies call hcall)
    · exact .inl (hnames call hcall)

/-- A schema object that reports nothing has no calls that fail, except those of keywords that weigh
whole branches. -/
theorem failures_of_failures_eq_nil {value : Json} (h : o.failures visit frame value = [])
    {call : Call α} (hcall : call ∈ o.calls visit frame value) :
    call.failures visit = [] ∨ call.keyword.weighs = true := by
  simp only [failures, List.append_eq_nil_iff, allOfFailures_eq, List.flatMap_eq_nil_iff] at h
  obtain ⟨⟨⟨⟨⟨_, hkind⟩, hall⟩, _⟩, _⟩, _⟩ := h
  simp only [calls, List.mem_append] at hcall
  rcases hcall with (((hcall | hcall) | hcall) | hcall) | hcall
  · exact o.failures_of_kindFailures_eq_nil visit frame hkind hcall
  · exact .inl (hall call hcall)
  · obtain ⟨_, _, rfl⟩ := (mem_listCalls frame).mp hcall
    exact .inr rfl
  · obtain ⟨_, _, rfl⟩ := (mem_listCalls frame).mp hcall
    exact .inr rfl
  · obtain ⟨_, _, rfl⟩ := (o.mem_notCalls frame).mp hcall
    exact .inr rfl

end ObjectSchema

namespace Pool

/-- A visit with levels left reports its own obstacle and what its calls hand on. -/
theorem structural_nodeFailures (pool : Pool) (visit : Visit Node) (maximum levels : Nat)
    (frame : Frame) (node : Node) (value : Json) :
    structural (pool.nodeFailures visit frame node value) =
      pool.obstacles maximum ⟨[], levels + 1, frame, node, value⟩ ++
        (pool.calls visit frame node value).flatMap (Call.handedOn visit) := by
  obtain ⟨place, schema⟩ := node
  cases schema with
  | boolean answer =>
    cases answer
    · exact structural_failure frame rfl
    · rfl
  | object o =>
    simp only [nodeFailures, calls, obstacles, Schema.object?, Option.bind_some,
      Nat.add_one_ne_zero, if_false]
    cases o.ref with
    | none => exact ObjectSchema.structural_failures visit _ _ value
    | some reference =>
      simp only [referenceFailures]
      cases pool.resolve reference frame.scope with
      | error error => rfl
      | ok target =>
        dsimp only
        split
        · rfl
        · simp [Call.handedOn, Call.failures]

/-! ## What a walk hands on -/

/-- The obstacle of a stop does not depend on the keywords that lead to it. -/
theorem obstacles_below (pool : Pool) (maximum : Nat) (keyword : Keyword) (stop : Stop) :
    pool.obstacles maximum (stop.below keyword) = pool.obstacles maximum stop := rfl

/-- The stops of the walk of a call are stops of the walk that makes it. -/
theorem below_mem_walk {pool : Pool} {maximum levels : Nat} {frame : Frame} {node : Node} {value : Json}
    {call : Call Node} (hcall : call ∈ pool.calls (pool.visit maximum levels) frame node value)
    {stop : Stop} (hstop : stop ∈ pool.walk maximum levels call.frame call.schema call.value) :
    stop.below call.keyword ∈ pool.walk maximum (levels + 1) frame node value :=
  List.mem_cons_of_mem _ (List.mem_flatMap.mpr ⟨call, hcall, List.mem_map_of_mem hstop⟩)

/-- What is said of the obstacles of all stops of a walk holds of those of the walk of a call too. -/
theorem forall_obstacles_of_mem_calls {pool : Pool} {P : List Failure → Prop}
    {maximum levels : Nat} {frame : Frame} {node : Node} {value : Json}
    (h : ∀ stop ∈ pool.walk maximum (levels + 1) frame node value, P (pool.obstacles maximum stop))
    {call : Call Node} (hcall : call ∈ pool.calls (pool.visit maximum levels) frame node value) :
    ∀ stop ∈ pool.walk maximum levels call.frame call.schema call.value,
      P (pool.obstacles maximum stop) := by
  intro stop hstop
  rw [← pool.obstacles_below maximum call.keyword stop]
  exact h _ (below_mem_walk hcall hstop)

/-- A stop is about a member name when a keyword on the way to it is. -/
theorem isInName_below (keyword : Keyword) (stop : Stop) :
    (stop.below keyword).isInName = (keyword == .propertyNames || stop.isInName) := by
  rw [Stop.isInName, Stop.below, List.contains_cons, BEq.comm, Stop.isInName]

/-- The structural failures of a visit are the obstacles of its walk, without those met on account
of member names. -/
theorem structural_visit (pool : Pool) (maximum levels : Nat) (frame : Frame) (node : Node)
    (value : Json) :
    structural (pool.visit maximum levels frame node value) =
      ((pool.walk maximum levels frame node value).filter fun stop => !stop.isInName).flatMap
        (pool.obstacles maximum) := by
  induction levels generalizing frame node value with
  | zero => rfl
  | succ levels ih =>
    have hcall (call : Call Node) : call.handedOn (pool.visit maximum levels) =
        (((pool.walk maximum levels call.frame call.schema call.value).map
          (Stop.below call.keyword)).filter fun stop => !stop.isInName).flatMap
            (pool.obstacles maximum) := by
      rw [Call.handedOn, Call.failures, ih, List.filter_map, List.flatMap_map]
      simp only [obstacles_below, Function.comp_def, isInName_below, Bool.not_or]
      by_cases h : call.keyword = .propertyNames
      · simp [h]
      · rw [if_neg h, beq_false_of_ne h]
        rfl
    rw [visit, structural_nodeFailures pool _ maximum levels, walk,
      List.filter_cons_of_pos (by rfl), List.flatMap_cons, List.filter_flatMap, List.flatMap_assoc]
    congr 1
    exact List.flatMap_congr fun call _ => hcall call

/-- A call of a visit without failures has none itself, unless its keyword weighs whole branches. -/
theorem failures_of_nodeFailures_eq_nil (pool : Pool) (visit : Visit Node) {frame : Frame}
    {node : Node} {value : Json} (h : pool.nodeFailures visit frame node value = [])
    {call : Call Node} (hcall : call ∈ pool.calls visit frame node value) :
    call.failures visit = [] ∨ call.keyword.weighs = true := by
  obtain ⟨place, schema⟩ := node
  cases schema with
  | boolean answer => cases hcall
  | object o =>
    simp only [nodeFailures] at h
    simp only [calls] at hcall
    cases href : o.ref with
    | none =>
      rw [href] at h hcall
      exact ObjectSchema.failures_of_failures_eq_nil visit _ _ h hcall
    | some reference =>
      rw [href] at h hcall
      simp only [referenceFailures] at h
      cases htarget : pool.resolve reference frame.scope with
      | error error =>
        simp [htarget] at hcall
      | ok target =>
        simp only [htarget] at h hcall
        split at hcall
        · cases hcall
        · next hactive =>
          rw [if_neg hactive] at h
          rw [List.mem_singleton.mp hcall]
          exact .inl h

/-- An obstacle in a walk without failures is buried. -/
theorem buried_of_visit_eq_nil (pool : Pool) (maximum levels : Nat) {frame : Frame} {node : Node}
    {value : Json} (h : pool.visit maximum levels frame node value = []) {stop : Stop}
    (hstop : stop ∈ pool.walk maximum levels frame node value)
    (hobstacle : pool.obstacles maximum stop ≠ []) : buried stop.route = true := by
  induction levels generalizing frame node value stop with
  | zero => cases h
  | succ levels ih =>
    have hstructural : structural (pool.visit maximum (levels + 1) frame node value) = [] := by
      rw [h]; rfl
    rw [visit] at h hstructural
    rw [structural_nodeFailures pool _ maximum levels, List.append_eq_nil_iff,
      List.flatMap_eq_nil_iff] at hstructural
    rw [walk, List.mem_cons, List.mem_flatMap] at hstop
    rcases hstop with rfl | ⟨call, hcall, hstop⟩
    · exact absurd hstructural.1 hobstacle
    obtain ⟨inner, hinner, rfl⟩ := List.mem_map.mp hstop
    rw [obstacles_below] at hobstacle
    change (call.keyword.weighs && inner.isInName || buried inner.route) = true
    rw [Bool.or_eq_true, Bool.and_eq_true]
    rcases pool.failures_of_nodeFailures_eq_nil _ h hcall with hnone | hweighs
    · exact .inr (ih hnone hinner hobstacle)
    -- The branch may fail here, but what is structural in its failures would have come up.
    · have hbranch := hstructural.2 call hcall
      rw [Call.handedOn, if_neg (by intro hk; rw [hk] at hweighs; cases hweighs), Call.failures,
        structural_visit, List.flatMap_eq_nil_iff] at hbranch
      have hname : inner.isInName = true := by
        by_contra hname
        exact hobstacle (hbranch inner (List.mem_filter.mpr ⟨hinner, by simpa using hname⟩))
      exact .inl ⟨hweighs, hname⟩

end Pool

/-! ## Which obstacles are reported -/

/-- The pool of one document under the implicit base. -/
def Pool.ofDocument (root : Schema) : Pool := Pool.empty.addAt .main root Url.implicitBase

/-- Whether a document accepts a value although an obstacle is met behind some keywords. -/
def Schema.Ignores (root : Schema) (value : Json) (route : List Keyword) : Prop :=
  (Pool.ofDocument root).Meets Limits.default (Node.root .main root) value route ∧
    (Pool.ofDocument root).accepts Limits.default (Node.root .main root) value = true

instance (root : Schema) (value : Json) (route : List Keyword) :
    Decidable (root.Ignores value route) := inferInstanceAs (Decidable (_ ∧ _))

/-- A schema for objects without members. It meets an obstacle at every member name. -/
def Schema.nameless : Schema :=
  .object { propertyNames := some (.object { ref := some "#/missing" }) }

/-- Every keyword that weighs whole branches has documents in which it buries an obstacle. -/
theorem Schema.exists_ignores {keyword : Keyword} (h : keyword.weighs = true) :
    ∃ (root : Schema) (value : Json), root.Ignores value [keyword, .propertyNames] := by
  cases keyword
  case contains =>
    exact ⟨.object { contains := some nameless },
      .array [.object [("a", .null)], .object []], by decide⟩
  case anyOf =>
    exact ⟨.object { anyOf := some [nameless, .boolean true] }, .object [("a", .null)], by decide⟩
  case oneOf =>
    exact ⟨.object { oneOf := some [nameless, .boolean true] }, .object [("a", .null)], by decide⟩
  case not =>
    exact ⟨.object { not := some nameless }, .object [("a", .null)], by decide⟩
  all_goals cases h

/-- An obstacle that is not buried keeps a value from being accepted. -/
theorem accepts_eq_false_of_meets {pool : Pool} {limits : Limits} {node : Node} {value : Json}
    {route : List Keyword} (hmeets : pool.Meets limits node value route)
    (hroute : buried route = false) : pool.accepts limits node value = false := by
  obtain ⟨stop, hstop, rfl, hobstacle⟩ := hmeets
  by_contra haccepts
  have hnone : pool.failures limits node value = [] := by simpa [Pool.accepts] using haccepts
  have hburied := pool.buried_of_visit_eq_nil _ _ hnone hstop hobstacle
  rw [hburied] at hroute
  cases hroute

/-- The reported obstacles are those not met on account of a member name, in the order in which they
are met. That every obstacle keeps a value from being accepted is true of a value exactly when it is
rejected or no obstacle is buried. Of the keywords directly above the member names, exactly those that
weigh whole branches make some document accept a value in spite of an obstacle. -/
theorem obstacles_reported_unless_buried (pool : Pool) (limits : Limits) (node : Node)
    (value : Json) (keyword : Keyword) :
    structural (pool.failures limits node value) =
        ((pool.stops limits node value).filter fun stop => !stop.isInName).flatMap
          (pool.obstacles limits.validationDepth) ∧
      (((∃ route, pool.Meets limits node value route) →
          pool.accepts limits node value = false) ↔
        (pool.accepts limits node value = true →
          ∀ route, pool.Meets limits node value route → buried route = false)) ∧
      ((∃ (root : Schema) (instanceValue : Json),
          root.Ignores instanceValue [keyword, .propertyNames]) ↔ keyword.weighs = true) := by
  refine ⟨pool.structural_visit _ _ _ _ _, ⟨fun h haccepts route hmeets => ?_, ?_⟩,
    fun ⟨root, instanceValue, hmeets, haccepts⟩ => ?_, Schema.exists_ignores⟩
  · rw [h ⟨route, hmeets⟩] at haccepts
    cases haccepts
  · rintro h ⟨route, hmeets⟩
    by_contra haccepts
    have hroute := h (by simpa using haccepts) route hmeets
    exact haccepts (accepts_eq_false_of_meets hmeets hroute)
  · by_contra hweighs
    have hroute : buried [keyword, .propertyNames] = false := by
      simpa [buried, Keyword.weighs] using hweighs
    rw [accepts_eq_false_of_meets hmeets hroute] at haccepts
    cases haccepts

/-- A reference that leads nowhere goes unnoticed in the names below a schema that must not accept
the value. -/
theorem obstacle_ignored_below_not :
    (Schema.object { not := some Schema.nameless }).Ignores (.object [("a", .null)])
      [.not, .propertyNames] := by
  decide

end Draft6
