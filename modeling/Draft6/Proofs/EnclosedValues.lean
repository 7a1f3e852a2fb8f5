import Draft6.Proofs.SteadyVisits

/-!
# Values inside larger ones

A part of a document is validated like a document of its own. What is reported for it is what would be
reported for the part alone, with the pointer to the part in front of every pointer. This goes for the
failures of branches as well, at any depth. A member name is a value of its own wherever its object sits,
so what is reported about a name keeps its pointers.
-/

namespace Draft6

mutual

/-- A cause about a value, for the same value behind a pointer. The failures of branches go behind the
pointer too, and what is held about a member name does not. -/
def Cause.under (p : Pointer) : Cause → Cause
  | .noBranch failures => .noBranch (underAll p failures)
  | cause => cause

/-- A failure of a value, for the same value behind a pointer. -/
def Failure.under (p : Pointer) : Failure → Failure
  | ⟨pointer, cause⟩ => ⟨p ++ pointer, cause.under p⟩

/-- Failures of a value, for the same value behind a pointer. -/
def underAll (p : Pointer) : List Failure → List Failure
  | [] => []
  | failure :: rest => Failure.under p failure :: underAll p rest

end

/-- Each failure of a list goes behind the pointer. -/
theorem underAll_eq (p : Pointer) (failures : List Failure) :
    underAll p failures = failures.map (Failure.under p) := by
  induction failures with
  | nil => rfl
  | cons failure rest ih => rw [underAll, ih, List.map_cons]

/-- A cause that holds no failures is the same behind a pointer. -/
theorem Cause.under_eq_self {cause : Cause} (h : cause.nested = []) (p : Pointer) :
    cause.under p = cause := by
  cases cause with
  | noBranch failures =>
    obtain rfl : failures = [] := h
    rfl
  | _ => rfl

/-- A failure tells about the value or not, wherever the value sits. -/
theorem Failure.isStructural_under (p : Pointer) (failure : Failure) :
    (failure.under p).isStructural = failure.isStructural := by
  obtain ⟨pointer, cause⟩ := failure
  cases cause <;> rfl

/-- The pointer to a part, behind another pointer. -/
theorem Pointer.append_join (p q : Pointer) (segment : String) :
    p ++ q.join segment = (p ++ q).join segment :=
  congrArg Pointer.mk (List.append_assoc p.segments q.segments [segment]).symm

/-- Failures that go behind a pointer one by one do so all together. -/
theorem eq_map_under_of_alike {p : Pointer} {failures failures' : List Failure}
    (h : Alike false (fun failure failure' : Failure => failure' = failure.under p)
      failures failures') : failures' = failures.map (Failure.under p) := by
  obtain ⟨_, hrelated, rfl⟩ := h
  rw [← List.forall₂_eq_eq_eq, List.forall₂_map_right_iff]
  exact hrelated.flip

namespace Likeness

/-- Frames of a value by itself and behind a pointer, with the failures that go behind the pointer. -/
def enclosed (p : Pointer) : Likeness where
  loose := false
  frames frame frame' := frame' = { frame with pointer := p ++ frame.pointer }
  values value value' := value' = value
  failures failure failure' := failure' = failure.under p
  nameReports inner inner' := inner' = inner
  child {frame _} h segment := by
    subst h
    exact congrArg (Frame.mk · frame.scope []) (p.append_join frame.pointer segment).symm
  kind {value value'} h := by
    subst h
    refine matches_self (fun value => ?_) false value'
    rfl
  equal_left h other := h ▸ rfl
  equal_right h other := h ▸ rfl
  isStructural {failure _} h := h ▸ (failure.isStructural_under p).symm
  own {frame _} h cause hnested := by
    subst h
    exact congrArg (Located.mk (p ++ frame.pointer)) (Cause.under_eq_self hnested p).symm
  wrongType h expected value value' hvalues := by
    subst h hvalues
    rfl
  repeatedItem h value value' hvalues := by
    subst h hvalues
    rfl
  noBranch {frame _} h inner inner' hinner := by
    subst h
    rw [eq_map_under_of_alike hinner, ← underAll_eq]
    rfl
  isEmpty_eq h := congrArg List.isEmpty h.symm
  invalidPropertyName h name inner inner' hinner := by
    subst h hinner
    rfl

/-- Behind a pointer the base and the references that are being followed are the same. -/
theorem steady_enclosed (p : Pointer) : (enclosed p).Steady where
  eq h := h ▸ rfl
  inside h _ _ := h ▸ rfl
  nameReports _ := rfl

end Likeness

/-- What a validation reports for a value does not depend on where the value sits. At any pointer, under
any base, with any levels left and any references being followed, a visit reports what it reports at the
root, with the pointer in front. -/
theorem Pool.visit_at_pointer (pool : Pool) (maximum levels : Nat) (scope : Url) (active : List Place)
    (p : Pointer) (node : Node) (value : Json) :
    pool.visit maximum levels ⟨p, scope, active⟩ node value =
      (pool.visit maximum levels ⟨Pointer.root, scope, active⟩ node value).map (Failure.under p) := by
  have hframes : (Likeness.enclosed p).frames ⟨Pointer.root, scope, active⟩ ⟨p, scope, active⟩ :=
    congrArg (fun segments => Frame.mk ⟨segments⟩ scope active) (List.append_nil p.segments).symm
  exact eq_map_under_of_alike
    (pool.visit_like (Likeness.steady_enclosed p) maximum levels hframes rfl node)

/-- What a branch reports for a member moves with the object, but the name of the member does not. -/
example :
    let inner : Failure := ⟨Pointer.root, .tooShort 2 1⟩
    let branch (pointer member : Pointer) : Failure :=
      ⟨pointer, .noBranch [⟨member, .invalidPropertyName "x" [inner]⟩]⟩
    (branch Pointer.root ⟨["b"]⟩).under ⟨["a"]⟩ = branch ⟨["a"]⟩ ⟨["a", "b"]⟩ := rfl

end Draft6
