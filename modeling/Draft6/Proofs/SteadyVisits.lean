import Draft6.Proofs.Likeness

/-!
# Visits that differ in the pointer

Two visits of one node may be about different parts of a document, or about values that are alike. As
long as the base and the references that are being followed are the same, both go through the same
nodes. So they report alike however many levels are left, and there is nothing to show but that the
likeness lets frames differ in the pointer alone.
-/

namespace Draft6

namespace Likeness

/-- Whether frames that answer to each other differ in the pointer alone, whatever the base and the
references that are being followed, and whether the same report on a member name is alike. -/
structure Steady (L : Likeness) : Prop where
  eq {frame frame' : Frame} (h : L.frames frame frame') :
    frame' = { frame with pointer := frame'.pointer }
  inside {frame frame' : Frame} (h : L.frames frame frame') (scope : Url) (active : List Place) :
    L.frames { frame with scope, active } { frame' with scope, active }
  nameReports (failures : List Failure) : L.nameReports failures failures

variable {L : Likeness} {frame frame' : Frame}

/-- Frames that answer to each other have the same base. -/
theorem Steady.scope_eq (hL : L.Steady) (h : L.frames frame frame') : frame'.scope = frame.scope := by
  rw [hL.eq h]

/-- In frames that answer to each other the same references are being followed. -/
theorem Steady.active_eq (hL : L.Steady) (h : L.frames frame frame') :
    frame'.active = frame.active := by
  rw [hL.eq h]

/-- Frames that answer to each other have one frame for a member name. -/
theorem Steady.memberName_eq (hL : L.Steady) (h : L.frames frame frame') :
    frame'.memberName = frame.memberName := by
  rw [hL.eq h]
  rfl

/-- Frames answer to each other inside a schema. -/
theorem Steady.enter (hL : L.Steady) (h : L.frames frame frame') (id? : Option String) :
    L.frames (frame.enter id?) (frame'.enter id?) := by
  rw [Frame.enter.eq_def, Frame.enter.eq_def, hL.scope_eq h]
  split
  · next scope _ =>
    rw [hL.active_eq h]
    exact hL.inside h scope frame.active
  · exact h

/-- Frames answer to each other at the target of a reference. -/
theorem Steady.follow (hL : L.Steady) (h : L.frames frame frame') (target : Entry) :
    L.frames (frame.follow target) (frame'.follow target) := by
  rw [Frame.follow, Frame.follow, hL.active_eq h]
  exact hL.inside h target.scope (target.node.place :: frame.active)

/-- Visits that report alike for values do so for member names, which have one frame on both sides. -/
theorem Steady.visits {α : Type} (hL : L.Steady) {visit : Visit α}
    (h : ∀ {frame frame' : Frame} {value value' : Json}, L.frames frame frame' →
      L.values value value' → ∀ schema,
        L.Reports (visit frame schema value) (visit frame' schema value'))
    (schemas : List α) : L.Visits schemas visit visit where
  reports schema _ _ _ _ _ hframes hvalues := h hframes hvalues schema
  nameReports schema _ frame frame' hframes name := by
    rw [hL.memberName_eq hframes]
    exact hL.nameReports _

end Likeness

namespace Pool

variable {L : Likeness} {frame frame' : Frame} {value value' : Json}

/-- A node reports alike when all further visits do. -/
theorem nodeFailures_like (hL : L.Steady) (pool : Pool) {visit : Visit Node}
    (hvisit : ∀ {frame frame' : Frame} {value value' : Json}, L.frames frame frame' →
      L.values value value' → ∀ node,
        L.Reports (visit frame node value) (visit frame' node value'))
    (hframes : L.frames frame frame') (hvalues : L.values value value') (node : Node) :
    L.Reports (pool.nodeFailures visit frame node value)
      (pool.nodeFailures visit frame' node value') := by
  rw [nodeFailures.eq_def, nodeFailures.eq_def]
  cases node.schema with
  | boolean answer =>
    cases answer with
    | true => exact alike_nil
    | false => exact Likeness.reports_own hframes _
  | object o =>
    cases href : o.ref with
    | none =>
      simp only [href]
      exact ObjectSchema.failures_like (hL.visits hvisit _) (hL.enter hframes o.id) hvalues
    | some reference =>
      simp only [href]
      rw [referenceFailures.eq_def, referenceFailures.eq_def, hL.scope_eq hframes,
        hL.active_eq hframes]
      cases pool.resolve reference frame.scope with
      | error error => exact Likeness.reports_own hframes _
      | ok target =>
        dsimp only
        split
        · exact Likeness.reports_own hframes _
        · exact hvisit (hL.follow hframes target) hvalues target.node

/-- Visits report alike, however many levels are left. -/
theorem visit_like (hL : L.Steady) (pool : Pool) (maximum levels : Nat)
    (hframes : L.frames frame frame') (hvalues : L.values value value') (node : Node) :
    L.Reports (pool.visit maximum levels frame node value)
      (pool.visit maximum levels frame' node value') := by
  induction levels generalizing frame frame' value value' node with
  | zero => exact Likeness.reports_own hframes _
  | succ levels ih => exact pool.nodeFailures_like hL ih hframes hvalues node

end Pool

end Draft6
