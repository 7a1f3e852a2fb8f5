import Draft6.Proofs.Obstacles
import Draft6.Proofs.Reordering
import Draft6.Proofs.SteadyVisits

/-!
# The order of members in a value

Two values that differ only in the order of members are both valid or both not. What is reported on
them is about the same parts of the value, with causes of the same kinds, perhaps in another order. The
values that a cause carries may differ in the order of members as well.
-/

namespace Draft6

/-- What a failure is about, and which of the causes it has. -/
def Failure.outline (failure : Failure) : Pointer × Nat := (failure.pointer, failure.cause.ctorIdx)

/-- Whether the outlines of two failures are the same, and both tell about the value or neither does. -/
def Failure.SameOutline (failure failure' : Failure) : Prop :=
  failure.outline = failure'.outline ∧ failure.isStructural = failure'.isStructural

/-- Values that differ in the order of members, in frames that are the same. -/
def Likeness.reordering : Likeness where
  loose := true
  frames := Eq
  values value value' := value.distinctNames = true ∧ value.Reordered value'
  failures := Failure.SameOutline
  nameReports := Eq
  child h segment := congrArg (Frame.child · segment) h
  kind h := Json.DistinctReordered.matches h
  equal_left h other := h.2.equalBy_left other
  equal_right h other := h.2.equalBy_right h.1 other
  isStructural h := h.2
  own h _ _ := h ▸ ⟨rfl, rfl⟩
  wrongType h _ _ _ _ := h ▸ ⟨rfl, rfl⟩
  repeatedItem h _ _ _ := h ▸ ⟨rfl, rfl⟩
  noBranch h _ _ _ := h ▸ ⟨rfl, rfl⟩
  isEmpty_eq h := congrArg List.isEmpty h
  invalidPropertyName h _ _ _ _ := h ▸ ⟨rfl, rfl⟩

/-- The frames are the same on both sides. -/
theorem Likeness.steady_reordering : reordering.Steady where
  eq h := h ▸ rfl
  inside h _ _ := h ▸ rfl
  nameReports _ := rfl

/-- Reports that agree but for the order of members have the same outlines, in some order. -/
theorem Likeness.perm_outlines {failures failures' : List Failure}
    (h : reordering.Reports failures failures') :
    (failures.map Failure.outline).Perm (failures'.map Failure.outline) := by
  obtain ⟨others, hrelated, hperm⟩ := h
  have houtlines : failures.map Failure.outline = others.map Failure.outline := by
    rw [← List.forall₂_eq_eq_eq, List.forall₂_map_left_iff, List.forall₂_map_right_iff]
    exact hrelated.imp fun _ _ hsame => hsame.1
  rw [houtlines]
  exact List.Perm.map Failure.outline hperm

namespace Pool

/-- Visits of values that differ in the order of members report alike. -/
theorem visit_reordered (pool : Pool) (maximum levels : Nat) (frame : Frame) (node : Node)
    {value value' : Json} (hvalue : value.distinctNames = true) (h : value.Reordered value') :
    Likeness.reordering.Reports (pool.visit maximum levels frame node value)
      (pool.visit maximum levels frame node value') :=
  pool.visit_like Likeness.steady_reordering maximum levels rfl ⟨hvalue, h⟩ node

/-- The order of members in a value never counts. Two values that differ in nothing else are valid
against the same nodes, and the failures of one are those of the other in some order, as far as
pointers and kinds of causes are concerned. -/
theorem failures_reordered (pool : Pool) (limits : Limits) (node : Node) (value value' : Json)
    (hvalue : value.distinctNames = true) (h : value.Reordered value') :
    pool.accepts limits node value = pool.accepts limits node value' ∧
      ((pool.failures limits node value).map Failure.outline).Perm
        ((pool.failures limits node value').map Failure.outline) := by
  have hreports := pool.visit_reordered limits.validationDepth (limits.validationDepth + 1)
    (pool.start node) node hvalue h
  exact ⟨hreports.isEmpty_eq, Likeness.perm_outlines hreports⟩

end Pool

/-- A schema that demands two lists of numbers to be different, and other members to be texts. -/
def Schema.pairs : Schema :=
  .object {
    properties := some [("pair", .object { arrays := { uniqueItems := some true } })]
    additionalProperties := some (.object { type := .single .string }) }

/-- Two equal points are reported as equal although their coordinates come in different orders, and what
is no text is reported in the order of the members. -/
theorem failures_reordered_pairs :
    let pool := Pool.ofDocument .pairs
    let node := Node.root .main Schema.pairs
    let zero := Json.number Number.zero
    let pair := Json.array [.object [("x", zero), ("y", .null)], .object [("y", .null), ("x", zero)]]
    let value := Json.object [("pair", pair), ("this", zero), ("that", .null)]
    let value' := Json.object [("that", .null), ("pair", pair), ("this", zero)]
    value.distinctNames = true ∧ value.Reordered value' ∧
      ((pool.failures Limits.default node value).map Failure.outline).Perm
        ((pool.failures Limits.default node value').map Failure.outline) ∧
      (pool.failures Limits.default node value).map Located.pointer =
        [⟨["pair"]⟩, ⟨["this"]⟩, ⟨["that"]⟩] ∧
      (pool.failures Limits.default node value').map Located.pointer =
        [⟨["pair"]⟩, ⟨["that"]⟩, ⟨["this"]⟩] := by
  intro pool node zero pair value value'
  have hvalue : value.distinctNames = true := by decide
  have hperm : [("pair", pair), ("this", zero), ("that", Json.null)].Perm
      [("that", .null), ("pair", pair), ("this", zero)] :=
    ((List.Perm.swap _ _ []).cons _).trans (.swap _ _ _)
  have hreordered : value.Reordered value' := .shuffle hperm
  exact ⟨hvalue, hreordered,
    (pool.failures_reordered Limits.default node value value' hvalue hreordered).2, by decide,
    by decide⟩

end Draft6
