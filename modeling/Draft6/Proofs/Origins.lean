import Draft6.Proofs.Congruence
import Draft6.Proofs.NumberOrder
import Draft6.Proofs.PointerParts

/-!
# Origins of failures

Every failure of a visit is found by the visit itself or comes from a further visit. What is found
by the visit is about the visited value and carries what is in it. What comes from a further visit
is handed on as it is, put among the failures of branches, or put behind a member name.

So pointers can be followed one visit at a time: a further visit is about the same part of the
document, or about the member or element that the next segment of its pointer names.
-/

namespace Draft6

/-! ## What a cause says about a value -/

namespace Cause

/-- The failures that a cause holds. -/
def nested : Cause → List Failure
  | .noBranch failures => failures
  | .invalidPropertyName _ failures => failures
  | _ => []

/-- What a cause says about the value that it is reported for: its kind, what of it the cause
carries, and that it is not as the schema demands. How a number is carried as a binary64 number is
left open. A missing member is not reported for the object but for the place of the member. -/
def IsAbout (carries : Number → Binary64 → Prop) (value : Json) : Cause → Prop
  | .wrongType expected actual => value = actual ∧ expected.accepts value = false
  | .notMultipleOf divisor actual =>
    ∃ n, value = .number n ∧ carries n actual ∧ n.isMultipleOf divisor = false
  | .aboveMaximum maximum actual => value = .number actual ∧ maximum.toRat < actual.toRat
  | .belowMinimum minimum actual => value = .number actual ∧ actual.toRat < minimum.toRat
  | .notBelow maximum actual => value = .number actual ∧ maximum.toRat ≤ actual.toRat
  | .notAbove minimum actual => value = .number actual ∧ actual.toRat ≤ minimum.toRat
  | .tooLong maximum length => ∃ s, value = .string s ∧ s.length = length ∧ maximum.toNat < length
  | .tooShort minimum length => ∃ s, value = .string s ∧ s.length = length ∧ length < minimum.toNat
  | .patternMismatch pattern actual => value = .string actual ∧ pattern.isMatch actual = false
  | .tooManyItems maximum count =>
    ∃ items, value = .array items ∧ items.length = count ∧ maximum.toNat < count
  | .tooFewItems minimum count =>
    ∃ items, value = .array items ∧ items.length = count ∧ count < minimum.toNat
  | .repeatedItem item => ∃ items, value = .array items ∧ Json.firstDuplicate? items = some item
  | .noItemContained => ∃ items, value = .array items
  | .tooManyProperties maximum count =>
    ∃ members, value = .object members ∧ members.length = count ∧ maximum.toNat < count
  | .tooFewProperties minimum count =>
    ∃ members, value = .object members ∧ members.length = count ∧ count < minimum.toNat
  | .missingProperty _ => False
  | .invalidPropertyName name _ =>
    ∃ members, value = .object members ∧ (members.lookup name).isSome = true
  | .notEnumerated allowed => ∀ candidate ∈ allowed, candidate.equal value = false
  | .notConstant expected => expected.equal value = false
  | .neverValid | .noBranch _ | .severalBranches _ | .forbidden | .reference _ | .tooDeep _ => True

end Cause

/-! ## Where a visit finds its failures -/

/-- Where a failure of a visit comes from: the visited value, a member that is not there, a member
name, a further visit of the value or of a part of it, or branches that are visited for the value. -/
inductive Arises {α : Type} (visit : Visit α) (pointer : Pointer) (value : Json) : Failure → Prop
  | own (cause : Cause) (hnested : cause.nested = [])
      (habout : cause.IsAbout (fun n x => x = n.toBinary64) value) :
      Arises visit pointer value ⟨pointer, cause⟩
  | missing (members : List (String × Json)) (name : String) (hvalue : value = .object members)
      (hlookup : members.lookup name = none) :
      Arises visit pointer value ⟨pointer.join name, .missingProperty name⟩
  | memberName (members : List (String × Json)) (name : String) (frame : Frame) (schema : α)
      (hvalue : value = .object members) (hlookup : (members.lookup name).isSome = true)
      (hpointer : frame.pointer = Pointer.root) :
      Arises visit pointer value
        ⟨pointer, .invalidPropertyName name (visit frame schema (.string name))⟩
  | sameValue (failure : Failure) (frame : Frame) (schema : α) (hpointer : frame.pointer = pointer)
      (hfailure : failure ∈ visit frame schema value) : Arises visit pointer value failure
  | part (failure : Failure) (segment : String) (frame : Frame) (schema : α) (part : Json)
      (hpointer : frame.pointer = pointer.join segment)
      (hpart : Pointer.child? segment value = some part)
      (hfailure : failure ∈ visit frame schema part) : Arises visit pointer value failure
  | branches (failures : List Failure) (hfailures : ∀ failure ∈ failures,
      ∃ frame schema, frame.pointer = pointer ∧ failure ∈ visit frame schema value) :
      Arises visit pointer value ⟨pointer, .noBranch failures⟩

/-- A broken rule is there, and it is broken. -/
theorem mem_brokenBy {ρ : Type} {rule? : Option ρ} {broken : ρ → Bool} {cause : ρ → Cause}
    {c : Cause} : c ∈ brokenBy rule? broken cause ↔
      ∃ rule, rule? = some rule ∧ broken rule = true ∧ c = cause rule := by
  cases rule? with
  | none => simp [brokenBy]
  | some rule => cases h : broken rule <;> simp [brokenBy, h]

namespace ObjectSchema

variable {α : Type} (visit : Visit α) (frame : Frame) (o : ObjectSchema α)

/-- The rules that a value breaks are about it, and they hold no further failures. -/
theorem isAbout_of_mem_brokenFacets {value : Json} {cause : Cause}
    (h : cause ∈ o.brokenFacets value) :
    cause.nested = [] ∧ cause.IsAbout (fun n x => x = n.toBinary64) value := by
  cases value with
  | null | bool => cases h
  | number n =>
    simp only [brokenFacets, NumberRules.broken, List.mem_append, mem_brokenBy] at h
    rcases h with (((⟨d, _, hbroken, rfl⟩ | ⟨b, _, hbroken, rfl⟩) | ⟨b, _, hbroken, rfl⟩) |
      ⟨b, _, hbroken, rfl⟩) | ⟨b, _, hbroken, rfl⟩
    · exact ⟨rfl, n, rfl, rfl, by simpa using hbroken⟩
    · exact ⟨rfl, rfl, (Number.compare_eq_gt_iff n b).mp (of_decide_eq_true hbroken)⟩
    · refine ⟨rfl, rfl, ?_⟩
      rw [← not_lt, ← Number.compare_eq_lt_iff]
      exact of_decide_eq_true hbroken
    · exact ⟨rfl, rfl, (Number.compare_eq_lt_iff n b).mp (of_decide_eq_true hbroken)⟩
    · refine ⟨rfl, rfl, ?_⟩
      rw [← not_lt, ← Number.compare_eq_gt_iff]
      exact of_decide_eq_true hbroken
  | string s =>
    simp only [brokenFacets, StringRules.broken, List.mem_append, mem_brokenBy] at h
    rcases h with (⟨m, _, hbroken, rfl⟩ | ⟨m, _, hbroken, rfl⟩) | ⟨p, _, hbroken, rfl⟩
    · exact ⟨rfl, s, rfl, rfl, of_decide_eq_true hbroken⟩
    · exact ⟨rfl, s, rfl, rfl, of_decide_eq_true hbroken⟩
    · exact ⟨rfl, rfl, by simpa using hbroken⟩
  | array items =>
    simp only [brokenFacets, ArrayRules.broken, List.mem_append, mem_brokenBy] at h
    rcases h with (⟨m, _, hbroken, rfl⟩ | ⟨m, _, hbroken, rfl⟩) | h
    · exact ⟨rfl, items, rfl, rfl, of_decide_eq_true hbroken⟩
    · exact ⟨rfl, items, rfl, rfl, of_decide_eq_true hbroken⟩
    · split at h
      · obtain ⟨item, hitem, rfl⟩ := List.mem_map.mp h
        exact ⟨rfl, items, rfl, Option.mem_toList.mp hitem⟩
      · cases h
  | object members =>
    simp only [brokenFacets, ObjectRules.broken, List.mem_append, mem_brokenBy] at h
    rcases h with ⟨m, _, hbroken, rfl⟩ | ⟨m, _, hbroken, rfl⟩ <;>
      exact ⟨rfl, members, rfl, rfl, of_decide_eq_true hbroken⟩

/-- A broken rule for one kind of value is about the value. -/
theorem arises_of_mem_facetFailures {value : Json} {failure : Failure}
    (h : failure ∈ o.facetFailures frame value) : Arises visit frame.pointer value failure := by
  obtain ⟨cause, hcause, rfl⟩ := List.mem_map.mp h
  obtain ⟨hnested, habout⟩ := o.isAbout_of_mem_brokenFacets hcause
  exact .own cause hnested habout

/-- The type, the enumeration and the constant are about the value. -/
theorem arises_of_mem_valueFailures {value : Json} {failure : Failure}
    (h : failure ∈ o.typeFailures frame value ++ o.enumFailures frame value
      ++ o.constFailures frame value) : Arises visit frame.pointer value failure := by
  simp only [typeFailures, enumFailures, constFailures, List.mem_append] at h
  rcases h with (h | h) | h
  · split at h
    · cases h
    · next hreject =>
      rw [List.mem_singleton.mp h]
      exact .own _ rfl ⟨rfl, by simpa using hreject⟩
  · split at h
    · next allowed _ =>
      split at h
      · cases h
      · next hreject =>
        rw [List.mem_singleton.mp h]
        exact .own _ rfl (by simpa [Cause.IsAbout] using hreject)
    · cases h
  · split at h
    · split at h
      · cases h
      · next hreject =>
        rw [List.mem_singleton.mp h]
        exact .own _ rfl (by simpa [Cause.IsAbout] using hreject)
    · cases h

/-- A member that is missing is reported for its place. -/
theorem arises_of_mem_missingFailures {members : List (String × Json)} {names : List String}
    {failure : Failure} (h : failure ∈ missingFailures frame members names) :
    Arises visit frame.pointer (.object members) failure := by
  obtain ⟨name, hname, rfl⟩ := List.mem_map.mp h
  exact .missing members name rfl (by simpa using (List.mem_filter.mp hname).2)

/-- Failures of calls for members and elements are handed on. -/
theorem arises_of_mem_flatMap {calls : List (Call α)} {value : Json} {failure : Failure}
    (hparts : ∀ call ∈ calls, ∃ segment, call.frame = frame.child segment ∧
      Pointer.child? segment value = some call.value)
    (h : failure ∈ calls.flatMap (Call.failures visit)) :
    Arises visit frame.pointer value failure := by
  obtain ⟨call, hcall, hfailure⟩ := List.mem_flatMap.mp h
  obtain ⟨segment, hframe, hpart⟩ := hparts call hcall
  exact .part failure segment call.frame call.schema call.value (hframe ▸ rfl) hpart hfailure

/-- A search reports that it found nothing, or what further visits report about elements. -/
theorem arises_of_mem_searchItems {items rest : List Json} {schema : α} {position : Nat}
    {failure : Failure} (hrest : rest = items.drop position)
    (h : failure ∈ searchItems visit frame schema position rest) :
    Arises visit frame.pointer (.array items) failure := by
  induction rest generalizing position with
  | nil =>
    rw [List.mem_singleton.mp h]
    exact .own .noItemContained rfl ⟨items, rfl⟩
  | cons item rest ih =>
    have hitem : items[position]? = some item := by
      rw [← List.head?_drop, ← hrest, List.head?_cons]
    have htail : rest = items.drop (position + 1) := by
      rw [← List.tail_drop, ← hrest, List.tail_cons]
    rw [searchItems] at h
    split at h
    · cases h
    · rcases List.mem_append.mp h with h | h
      · exact .part failure (toString position) (frame.child (toString position)) schema item rfl
          (Pointer.child?_array hitem) (List.mem_of_mem_filter h)
      · exact ih htail h

/-- The keywords for arrays are about the array and its elements. -/
theorem arises_of_mem_arrayFailures {items : List Json} {failure : Failure}
    (h : failure ∈ o.kindFailures visit frame (.array items)) :
    Arises visit frame.pointer (.array items) failure := by
  simp only [kindFailures, List.mem_append] at h
  rcases h with (h | h) | h
  · rw [itemFailures_eq] at h
    refine arises_of_mem_flatMap visit frame (fun call hcall => ?_) h
    obtain ⟨i, item, schema, hitem, _, rfl⟩ := (o.mem_itemCalls frame).mp hcall
    exact ⟨toString i, rfl, Pointer.child?_array hitem⟩
  · exact o.arises_of_mem_facetFailures visit frame h
  · rw [containsFailures] at h
    split at h
    · exact arises_of_mem_searchItems visit frame rfl h
    · cases h

/-- The keywords for objects are about the object, its members and their names. -/
theorem arises_of_mem_objectFailures {members : List (String × Json)} {failure : Failure}
    (hnames : (members.map Prod.fst).Nodup)
    (h : failure ∈ o.kindFailures visit frame (.object members)) :
    Arises visit frame.pointer (.object members) failure := by
  simp only [kindFailures, List.mem_append] at h
  rcases h with (((((h | h) | h) | h) | h) | h) | h
  · exact o.arises_of_mem_facetFailures visit frame h
  · exact arises_of_mem_missingFailures visit frame h
  · rw [propertyFailures_eq] at h
    refine arises_of_mem_flatMap visit frame (fun call hcall => ?_) h
    obtain ⟨name, value, schema, hmem, _, rfl⟩ := (o.mem_propertyCalls frame).mp hcall
    exact ⟨name, rfl, Pointer.child?_object hnames hmem⟩
  · rw [patternFailures_eq] at h
    refine arises_of_mem_flatMap visit frame (fun call hcall => ?_) h
    obtain ⟨name, value, schema, hmem, _, rfl⟩ := (o.mem_patternCalls frame).mp hcall
    exact ⟨name, rfl, Pointer.child?_object hnames hmem⟩
  · rw [additionalFailures_eq] at h
    refine arises_of_mem_flatMap visit frame (fun call hcall => ?_) h
    obtain ⟨name, value, schema, hmem, _, _, rfl⟩ := (o.mem_additionalCalls frame).mp hcall
    exact ⟨name, rfl, Pointer.child?_object hnames hmem⟩
  · obtain ⟨⟨trigger, dependency⟩, _, h⟩ := List.mem_flatMap.mp h
    dsimp only at h
    split at h
    · cases h
    · cases dependency with
      | names required => exact arises_of_mem_missingFailures visit frame h
      | schema schema => exact .sameValue failure frame schema rfl h
  · rw [nameFailures] at h
    split at h
    · next schema _ =>
      obtain ⟨⟨name, value⟩, hmem, h⟩ := List.mem_flatMap.mp h
      dsimp only at h
      split at h
      · cases h
      · rw [List.mem_singleton.mp h]
        refine .memberName members name frame.memberName schema rfl ?_ rfl
        exact List.lookup_isSome_iff.mpr ⟨(name, value), hmem, beq_self_eq_true name⟩
    · cases h

/-- What several schemas say about the value comes from one of them. -/
theorem exists_of_mem_branches {schemas : List α} {value : Json} {failure : Failure}
    (h : failure ∈ (schemas.map fun schema => visit frame schema value).flatten) :
    ∃ schema ∈ schemas, failure ∈ visit frame schema value := by
  obtain ⟨_, hbranch, hfailure⟩ := List.mem_flatten.mp h
  obtain ⟨schema, hschema, rfl⟩ := List.mem_map.mp hbranch
  exact ⟨schema, hschema, hfailure⟩

/-- The keywords that combine schemas are about the value and what further visits say about it. -/
theorem arises_of_mem_combinedFailures {value : Json} {failure : Failure}
    (h : failure ∈ o.allOfFailures visit frame value ++ o.anyOfFailures visit frame value
      ++ o.oneOfFailures visit frame value ++ o.notFailures visit frame value) :
    Arises visit frame.pointer value failure := by
  have hbranches {schemas : List α}
      (h : failure ∈ (schemas.map fun schema => visit frame schema value).flatten) :
      Arises visit frame.pointer value failure := by
    obtain ⟨schema, _, hfailure⟩ := exists_of_mem_branches visit frame h
    exact .sameValue failure frame schema rfl hfailure
  simp only [List.mem_append] at h
  rcases h with ((h | h) | h) | h
  · obtain ⟨schema, _, hfailure⟩ := List.mem_flatMap.mp h
    exact .sameValue failure frame schema rfl hfailure
  · simp only [anyOfFailures] at h
    split at h
    · exact hbranches (List.mem_of_mem_filter h)
    · exact hbranches h
  · rw [oneOfFailures] at h
    split at h
    · rcases List.mem_append.mp h with h | h
      · exact hbranches (List.mem_of_mem_filter h)
      · split at h
        · rw [List.mem_singleton.mp h]
          refine .branches _ fun failure hfailure => ?_
          obtain ⟨schema, _, hmem⟩ :=
            exists_of_mem_branches visit frame (List.mem_of_mem_filter hfailure)
          exact ⟨frame, schema, rfl, hmem⟩
        · cases h
        · rw [List.mem_singleton.mp h]
          exact .own _ rfl trivial
    · cases h
  · rw [notFailures] at h
    split at h
    · next schema _ =>
      dsimp only at h
      split at h
      · rw [List.mem_singleton.mp h]
        exact .own _ rfl trivial
      · exact .sameValue failure frame schema rfl (List.mem_of_mem_filter h)
    · cases h

/-- Every failure of a schema object is about the value or comes from a further visit. -/
theorem arises_of_mem_failures {value : Json} {failure : Failure}
    (hvalue : value.distinctNames = true) (h : failure ∈ o.failures visit frame value) :
    Arises visit frame.pointer value failure := by
  rw [failures, List.append_assoc, List.append_assoc, List.append_assoc] at h
  rcases List.mem_append.mp h with h | h
  · rcases List.mem_append.mp h with h | h
    · exact o.arises_of_mem_valueFailures visit frame h
    · cases value with
      | null | bool | number | string => exact o.arises_of_mem_facetFailures visit frame h
      | array items => exact o.arises_of_mem_arrayFailures visit frame h
      | object members =>
        exact o.arises_of_mem_objectFailures visit frame (Json.distinctNames_object.mp hvalue).1 h
  · refine o.arises_of_mem_combinedFailures visit frame ?_
    rwa [List.append_assoc, List.append_assoc]

end ObjectSchema

/-- Every failure of a node is about the value or comes from a further visit. -/
theorem Pool.arises_of_mem_nodeFailures {pool : Pool} {visit : Visit Node} {frame : Frame}
    {node : Node} {value : Json} {failure : Failure} (hvalue : value.distinctNames = true)
    (h : failure ∈ pool.nodeFailures visit frame node value) :
    Arises visit frame.pointer value failure := by
  rw [nodeFailures] at h
  split at h
  · cases h
  · rw [List.mem_singleton.mp h]
    exact .own .neverValid rfl trivial
  · next o _ =>
    split at h
    · rw [referenceFailures] at h
      split at h
      · rw [List.mem_singleton.mp h]
        exact .own _ rfl trivial
      · next target _ =>
        split at h
        · rw [List.mem_singleton.mp h]
          exact .own _ rfl trivial
        · exact .sameValue failure (frame.follow target) target.node rfl h
    · have := (o.mapPath node.child).arises_of_mem_failures visit (frame.enter o.id) hvalue h
      rwa [Frame.pointer_enter] at this

end Draft6
