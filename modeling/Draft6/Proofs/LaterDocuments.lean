import Draft6.Proofs.Congruence
import Draft6.Proofs.FirstClaim
import Draft6.Proofs.Obstacles

/-!
# Later documents

What is put into a pool later comes behind what is there, and the first claim counts. So a reference
that leads somewhere keeps its target, and the base noted for a node stays. Only a reference that leads
nowhere may find a target in a document that comes later. A validation that meets no such reference,
also not in a branch whose failures are dropped, reports the same for ever.
-/

namespace Draft6

/-- A document to be put into a pool: with the base that its root stands in, or under a URL or the
implicit base. -/
inductive Addition where
  | based (document : DocumentName) (schema : Schema) (base : Url)
  | under (document : DocumentName) (schema : Schema) (uri? : Option String)

/-- Whether a cause is a reference that is joined to a URL and leads to no schema. -/
def Cause.isUnresolvable : Cause → Bool
  | .reference (.unresolvable _) => true
  | _ => false

namespace Pool

/-! ## Pools that grow -/

/-- Put a document into a pool. An addition under a text that is no URL fails, and the pool stays as it
is. -/
def addition (pool : Pool) : Addition → Pool
  | .based document schema base => pool.addAt document schema base
  | .under document schema uri? =>
    match pool.add document schema uri? with
    | .ok pool' => pool'
    | .error _ => pool

/-- Put documents into a pool, one after another. -/
def additions (pool : Pool) (more : List Addition) : Pool := more.foldl addition pool

/-- A pool has come from itself. -/
theorem extends_refl (pool : Pool) : pool.Extends pool := List.prefix_refl pool.entries

/-- A document comes behind what is in the pool. -/
theorem extends_addAt (pool : Pool) (document : DocumentName) (schema : Schema) (base : Url) :
    (pool.addAt document schema base).Extends pool := List.prefix_append _ _

/-- A document is put under a URL with the URL as its base. -/
theorem add_some (pool : Pool) (document : DocumentName) (schema : Schema) (uri : String) :
    pool.add document schema (some uri) =
      (Url.base? uri).map fun base => pool.addAt document schema base := by
  cases hbase : Url.base? uri <;> simp only [add, hbase] <;> rfl

/-- An addition comes behind what is in the pool, or fails. -/
theorem extends_addition (pool : Pool) (addition : Addition) :
    (pool.addition addition).Extends pool := by
  cases addition with
  | based document schema base => exact pool.extends_addAt document schema base
  | under document schema uri? =>
    cases uri? with
    | none => exact pool.extends_addAt document schema Url.implicitBase
    | some uri =>
      rw [Pool.addition, add_some]
      cases Url.base? uri with
      | error reason => exact pool.extends_refl
      | ok base => exact pool.extends_addAt document schema base

/-- A sequence of additions comes behind what is in the pool. -/
theorem extends_additions (pool : Pool) (more : List Addition) :
    (pool.additions more).Extends pool := by
  induction more generalizing pool with
  | nil => exact pool.extends_refl
  | cons addition rest ih => exact (pool.extends_addition addition).trans (ih _)

variable {pool pool' : Pool}

/-- The base noted for a node stays. -/
theorem Extends.start_eq (h : pool'.Extends pool) {node : Node} (hnode : pool.Indexes node) :
    pool'.start node = pool.start node := by
  obtain ⟨entry, hentry, rfl⟩ := hnode
  have hscope : pool'.scopeOf? entry.node.place = pool.scopeOf? entry.node.place := by
    rw [scopeOf?, scopeOf?]
    cases hfound : pool.entries.find? fun other : Entry => other.node.place = entry.node.place with
    | none => exact absurd (decide_eq_true rfl) (List.find?_eq_none.mp hfound entry hentry)
    | some found => rw [h.find? hfound]
  rw [start, start, hscope]

/-! ## Walks without unresolvable references -/

/-- Whether no visit of a validation meets a reference that leads to no schema. -/
def Settled (pool : Pool) (limits : Limits) (node : Node) (value : Json) : Prop :=
  ∀ stop ∈ pool.stops limits node value, ∀ failure ∈ pool.obstacles limits.validationDepth stop,
    failure.cause.isUnresolvable = false

instance (pool : Pool) (limits : Limits) (node : Node) (value : Json) :
    Decidable (pool.Settled limits node value) :=
  inferInstanceAs (Decidable (∀ stop ∈ pool.stops limits node value, ∀ failure ∈ _, _ = false))

variable {maximum levels : Nat} {frame : Frame} {node : Node} {value : Json}

/-- A reference that is not without a target leads to the same schema when more has come, or fails in
the same way. -/
theorem Extends.resolve_eq (h : pool'.Extends pool) {reference : String} {scope : Url}
    (hsettled : ∀ error, pool.resolve reference scope = .error error →
      (Cause.reference error).isUnresolvable = false) :
    pool'.resolve reference scope = pool.resolve reference scope := by
  cases hresolve : pool.resolve reference scope with
  | ok target => exact h.resolve hresolve
  | error error =>
    have herror := hsettled error hresolve
    simp only [Pool.resolve] at hresolve ⊢
    cases hjoin : Url.join? scope reference with
    | error invalid => simpa only [hjoin] using hresolve
    | ok target =>
      -- A reference that is joined to a URL fails in one way only.
      simp only [hjoin] at hresolve
      cases hentry : pool.entry? (Address.ofUrl target) with
      | some entry =>
        simp only [hentry] at hresolve
        cases hresolve
      | none =>
        simp only [hentry, Except.error.injEq] at hresolve
        rw [← hresolve] at herror
        cases herror

/-- A visit reports the same when more has come, unless its reference leads to no schema. -/
theorem Extends.nodeFailures_eq (h : pool'.Extends pool) (visit : Visit Node)
    (hsettled : ∀ failure ∈ pool.obstacles maximum ⟨[], levels + 1, frame, node, value⟩,
      failure.cause.isUnresolvable = false) :
    pool'.nodeFailures visit frame node value = pool.nodeFailures visit frame node value := by
  obtain ⟨place, schema⟩ := node
  cases schema with
  | boolean answer => cases answer <;> simp only [nodeFailures]
  | object o =>
    cases href : o.ref with
    | none => simp only [nodeFailures, href]
    | some reference =>
      have hresolve : pool'.resolve reference frame.scope = pool.resolve reference frame.scope := by
        refine h.resolve_eq fun error herror => ?_
        simp only [obstacles, Schema.object?, Option.bind_some, Nat.add_one_ne_zero,
          if_false, href, herror, List.forall_mem_singleton] at hsettled
        exact hsettled
      simp only [nodeFailures, href, referenceFailures, hresolve]

/-- A walk that meets no reference without a target reports the same when more has come. -/
theorem Extends.visit_eq (h : pool'.Extends pool)
    (hsettled : ∀ stop ∈ pool.walk maximum levels frame node value,
      ∀ failure ∈ pool.obstacles maximum stop, failure.cause.isUnresolvable = false) :
    pool'.visit maximum levels frame node value = pool.visit maximum levels frame node value := by
  induction levels generalizing frame node value with
  | zero => rfl
  | succ levels ih =>
    have hcalls : ∀ call ∈ pool.calls (pool.visit maximum levels) frame node value,
        call.failures (pool'.visit maximum levels) = call.failures (pool.visit maximum levels) := by
      intro call hcall
      exact ih (forall_obstacles_of_mem_calls
        (P := fun failures => ∀ failure ∈ failures, failure.cause.isUnresolvable = false) hsettled hcall)
    calc pool'.visit maximum (levels + 1) frame node value
      _ = pool.nodeFailures (pool'.visit maximum levels) frame node value :=
        h.nodeFailures_eq _ (hsettled _ List.mem_cons_self)
      _ = pool.visit maximum (levels + 1) frame node value := nodeFailures_congr hcalls

/-- What is put into a pool later, also when some of it fails, never changes the result of a validation
that starts at a node of the pool and meets no reference that leads to no schema. -/
theorem failures_additions (pool : Pool) (node : Node) (hnode : pool.Indexes node) (limits : Limits)
    (value : Json) (h : pool.Settled limits node value) (more : List Addition) :
    (pool.additions more).failures limits node value = pool.failures limits node value := by
  have hextends := pool.extends_additions more
  rw [failures, failures, hextends.start_eq hnode]
  exact hextends.visit_eq h

end Pool

/-- A schema for lists of texts. What it says about texts is in a definition. -/
def Schema.texts : Schema :=
  .object {
    items := some (.all (.object { ref := some "#/definitions/text" }))
    definitions := some [("text", .object { type := .single .string })] }

/-- A list with an element that is no text is reported in the same way after another document has
claimed the place of the definition and a third one has failed to come. -/
theorem failures_additions_texts :
    let pool := Pool.ofDocument .texts
    let node := Node.root .main Schema.texts
    let document := Json.array [.string "a", .null]
    let more : List Addition :=
      [.based (.extra "other") (.object { definitions := some [("text", .boolean true)] })
          Url.implicitBase,
        .under (.extra "none") (.boolean false) (some "http://[")]
    pool.Indexes node ∧ pool.Settled Limits.default node document ∧
      (pool.additions more).failures Limits.default node document =
        pool.failures Limits.default node document ∧
      (pool.failures Limits.default node document).map Located.pointer = [⟨["1"]⟩] := by
  intro pool node document more
  have hnode : pool.Indexes node := ⟨_, List.mem_cons_self, rfl⟩
  have hsettled : pool.Settled Limits.default node document := by decide
  exact ⟨hnode, hsettled, pool.failures_additions node hnode Limits.default document hsettled more,
    by decide⟩

end Draft6
