import Draft6.Proofs.Calls

/-!
# What a visit owes to its calls

The failures of a visit are determined by the failures of its calls. Two visits of one value whose
calls come back with the same failures report the same, in the same order. This is so also when other
references are being followed: these reach the calls about the value itself, and no others.
-/

namespace Draft6

/-- The frame of a visit of the same value with other references being followed. -/
def Frame.withActive (frame : Frame) (active : List Place) : Frame := { frame with active }

/-- Other references being followed do not change the base inside a schema. -/
theorem Frame.enter_withActive (frame : Frame) (active : List Place) (id? : Option String) :
    (frame.withActive active).enter id? = (frame.enter id?).withActive active := by
  cases id? with
  | none => rfl
  | some id =>
    simp only [enter, withActive, Option.map_some]
    cases frame.scope.scope? id <;> rfl

/-- The references that are being followed stay the same inside a schema. -/
theorem Frame.active_enter (frame : Frame) (id? : Option String) :
    (frame.enter id?).active = frame.active := by
  rw [enter]
  split <;> rfl

/-- The visited part of the value stays the same inside a schema. -/
theorem Frame.pointer_enter (frame : Frame) (id? : Option String) :
    (frame.enter id?).pointer = frame.pointer := by
  rw [enter]
  split <;> rfl

/-- The call that a visit makes in place of one of its own when other references are being
followed. -/
def Call.withActive {α : Type} (active : List Place) (call : Call α) : Call α :=
  if call.keyword.isInPlace then { call with frame := call.frame.withActive active } else call

/-- A call of a visit stays when the references that are being followed stay. -/
theorem Call.Concerns.withActive_self {α : Type} {frame : Frame} {value : Json} {call : Call α}
    (h : call.Concerns frame value) : call.withActive frame.active = call := by
  cases h with
  | inPlace hkeyword hframe =>
    rw [Call.withActive, if_pos hkeyword, ← hframe]
    rfl
  | part hkeyword => rw [Call.withActive, if_neg (by rw [hkeyword]; simp)]

namespace ObjectSchema

variable {α : Type} {visit visit' : Visit α} {frame : Frame} {active : List Place}
  {o : ObjectSchema α}

/-- Whether some calls of a visit come back with the same failures from another visit, in which other
references are being followed. -/
def Agree (visit visit' : Visit α) (active : List Place) (calls : List (Call α)) : Prop :=
  ∀ call ∈ calls, (call.withActive active).failures visit' = call.failures visit

/-! ## Keywords for arrays -/

/-- The failures of elements are determined by those of the calls for elements. -/
theorem itemFailures_congr {items : List Json}
    (h : Agree visit visit' active (o.itemCalls frame items)) :
    o.itemFailures visit' (frame.withActive active) items = o.itemFailures visit frame items := by
  rw [itemFailures_eq, itemFailures_eq]
  refine List.flatMap_congr fun call hcall => ?_
  have hsame := h call hcall
  obtain ⟨_, _, _, _, _, rfl⟩ := (o.mem_itemCalls frame).mp hcall
  exact hsame

/-- A search is determined by the calls that it makes. -/
theorem searchItems_congr {schema : α} {position : Nat} {items : List Json}
    (h : Agree visit visit' active (searchCalls visit frame schema position items)) :
    searchItems visit' (frame.withActive active) schema position items =
      searchItems visit frame schema position items := by
  induction items generalizing position with
  | nil => rfl
  | cons item rest ih =>
    have hfirst : visit' (frame.child (toString position)) schema item =
        visit (frame.child (toString position)) schema item := h _ List.mem_cons_self
    rw [searchItems, searchItems]
    change (if (visit' (frame.child (toString position)) schema item).isEmpty then [] else
      structural (visit' (frame.child (toString position)) schema item) ++ _) = _
    rw [hfirst]
    by_cases hnone : (visit (frame.child (toString position)) schema item).isEmpty
    · rw [if_pos hnone, if_pos hnone]
    · have hrest : Agree visit visit' active (searchCalls visit frame schema (position + 1) rest) := by
        intro call hcall
        refine h call (List.mem_cons_of_mem _ ?_)
        rw [Call.failures, if_neg hnone]
        exact hcall
      rw [if_neg hnone, if_neg hnone, ih hrest]

/-- The failures to contain an element are determined by the calls of the search. -/
theorem containsFailures_congr {items : List Json}
    (h : Agree visit visit' active (o.containsCalls visit frame items)) :
    o.containsFailures visit' (frame.withActive active) items =
      o.containsFailures visit frame items := by
  unfold containsFailures
  unfold containsCalls at h
  cases hschema : o.contains with
  | none => rfl
  | some schema =>
    rw [hschema, Option.toList_some, List.flatMap_singleton] at h
    exact searchItems_congr h

/-! ## Keywords for objects -/

/-- The failures of members with a schema of their own are determined by their calls. -/
theorem propertyFailures_congr {members : List (String × Json)}
    (h : Agree visit visit' active (o.propertyCalls frame members)) :
    o.propertyFailures visit' (frame.withActive active) members =
      o.propertyFailures visit frame members := by
  rw [propertyFailures_eq, propertyFailures_eq]
  refine List.flatMap_congr fun call hcall => ?_
  have hsame := h call hcall
  obtain ⟨_, _, _, _, _, rfl⟩ := (o.mem_propertyCalls frame).mp hcall
  exact hsame

/-- The failures of members whose names match patterns are determined by their calls. -/
theorem patternFailures_congr {members : List (String × Json)}
    (h : Agree visit visit' active (o.patternCalls frame members)) :
    o.patternFailures visit' (frame.withActive active) members =
      o.patternFailures visit frame members := by
  rw [patternFailures_eq, patternFailures_eq]
  refine List.flatMap_congr fun call hcall => ?_
  have hsame := h call hcall
  obtain ⟨_, _, _, _, _, rfl⟩ := (o.mem_patternCalls frame).mp hcall
  exact hsame

/-- The failures of additional members are determined by their calls. -/
theorem additionalFailures_congr {members : List (String × Json)}
    (h : Agree visit visit' active (o.additionalCalls frame members)) :
    o.additionalFailures visit' (frame.withActive active) members =
      o.additionalFailures visit frame members := by
  rw [additionalFailures_eq, additionalFailures_eq]
  refine List.flatMap_congr fun call hcall => ?_
  have hsame := h call hcall
  obtain ⟨_, _, _, _, _, _, rfl⟩ := (o.mem_additionalCalls frame).mp hcall
  exact hsame

/-- What members demand of the whole object is determined by the calls about it. -/
theorem dependencyFailures_congr {members : List (String × Json)}
    (h : Agree visit visit' active (o.dependencyCalls frame members)) :
    o.dependencyFailures visit' (frame.withActive active) members =
      o.dependencyFailures visit frame members := by
  refine List.flatMap_congr fun entry hentry => ?_
  obtain ⟨trigger, dependency⟩ := entry
  dsimp only
  split
  · rfl
  · next hpresent =>
    cases dependency with
    | names required => rfl
    | schema schema =>
      have hsome : (members.lookup trigger).isSome = true := by simpa using hpresent
      exact h _ ((o.mem_dependencyCalls frame).mpr ⟨trigger, schema, hentry, hsome, rfl⟩)

/-- The failures of member names are determined by the calls about them. -/
theorem nameFailures_congr {members : List (String × Json)}
    (h : Agree visit visit' active (o.nameCalls frame members)) :
    o.nameFailures visit' (frame.withActive active) members =
      o.nameFailures visit frame members := by
  unfold nameFailures
  cases hschema : o.propertyNames with
  | none => rfl
  | some schema =>
    refine List.flatMap_congr fun member hmember => ?_
    obtain ⟨name, value⟩ := member
    have hsame : visit' frame.memberName schema (.string name) =
        visit frame.memberName schema (.string name) :=
      h _ ((o.mem_nameCalls frame).mpr ⟨name, value, schema, hmember, hschema, rfl⟩)
    change (if (visit' frame.memberName schema (.string name)).isEmpty then [] else
      [frame.failure (.invalidPropertyName name (visit' frame.memberName schema (.string name)))]) = _
    rw [hsame]

/-! ## Keywords that combine schemas -/

/-- The branches of a keyword are determined by its calls. -/
theorem branches_congr {keyword : Keyword} (hkeyword : keyword.isInPlace = true)
    {schemas : Option (List α)} {value : Json}
    (h : Agree visit visit' active (listCalls frame keyword schemas value)) :
    ((schemas.getD []).map fun schema => visit' (frame.withActive active) schema value) =
      (schemas.getD []).map fun schema => visit frame schema value := by
  apply List.map_congr_left
  intro schema hschema
  have hsame := h ⟨keyword, frame, schema, value⟩ ((mem_listCalls frame).mpr ⟨schema, hschema, rfl⟩)
  rw [Call.withActive, if_pos hkeyword] at hsame
  exact hsame

/-- The failures of schemas that must all accept the value are determined by their calls. -/
theorem allOfFailures_congr {value : Json}
    (h : Agree visit visit' active (listCalls frame .allOf o.allOf value)) :
    o.allOfFailures visit' (frame.withActive active) value = o.allOfFailures visit frame value := by
  unfold allOfFailures
  rw [List.flatMap_def, List.flatMap_def, branches_congr rfl h]

/-- The failures of schemas one of which must accept the value are determined by their calls. -/
theorem anyOfFailures_congr {value : Json}
    (h : Agree visit visit' active (listCalls frame .anyOf o.anyOf value)) :
    o.anyOfFailures visit' (frame.withActive active) value = o.anyOfFailures visit frame value := by
  unfold anyOfFailures
  rw [branches_congr rfl h]

/-- The failures of schemas exactly one of which must accept the value are determined by their
calls. -/
theorem oneOfFailures_congr {value : Json}
    (h : Agree visit visit' active (listCalls frame .oneOf o.oneOf value)) :
    o.oneOfFailures visit' (frame.withActive active) value = o.oneOfFailures visit frame value := by
  have hbranches := branches_congr rfl h
  unfold oneOfFailures
  cases hschemas : o.oneOf with
  | none => rfl
  | some schemas =>
    rw [hschemas, Option.getD_some] at hbranches
    dsimp only
    rw [hbranches]
    rfl

/-- The failures of a schema that must not accept the value are determined by its call. -/
theorem notFailures_congr {value : Json}
    (h : Agree visit visit' active (o.notCalls frame value)) :
    o.notFailures visit' (frame.withActive active) value = o.notFailures visit frame value := by
  unfold notFailures
  cases hschema : o.not with
  | none => rfl
  | some schema =>
    have hsame : visit' (frame.withActive active) schema value = visit frame schema value :=
      h _ ((o.mem_notCalls frame).mpr ⟨schema, hschema, rfl⟩)
    dsimp only
    rw [hsame]
    rfl

/-! ## All keywords -/

/-- The failures of the keywords for one kind of value are determined by their calls. -/
theorem kindFailures_congr {value : Json}
    (h : Agree visit visit' active (o.kindCalls visit frame value)) :
    o.kindFailures visit' (frame.withActive active) value = o.kindFailures visit frame value := by
  cases value with
  | null | bool | number | string => rfl
  | array items =>
    simp only [Agree, kindCalls, List.forall_mem_append] at h
    obtain ⟨hitems, hcontains⟩ := h
    simp only [kindFailures]
    rw [itemFailures_congr hitems, containsFailures_congr hcontains]
    rfl
  | object members =>
    simp only [Agree, kindCalls, List.forall_mem_append] at h
    obtain ⟨⟨⟨⟨hproperties, hpatterns⟩, hadditional⟩, hdependencies⟩, hnames⟩ := h
    simp only [kindFailures]
    rw [propertyFailures_congr hproperties, patternFailures_congr hpatterns,
      additionalFailures_congr hadditional, dependencyFailures_congr hdependencies,
      nameFailures_congr hnames]
    rfl

/-- The failures of a schema object are determined by those of its calls. -/
theorem failures_congr {value : Json} (h : Agree visit visit' active (o.calls visit frame value)) :
    o.failures visit' (frame.withActive active) value = o.failures visit frame value := by
  simp only [Agree, calls, List.forall_mem_append] at h
  obtain ⟨⟨⟨⟨hkind, hall⟩, hany⟩, hone⟩, hnot⟩ := h
  unfold failures
  rw [kindFailures_congr hkind, allOfFailures_congr hall, anyOfFailures_congr hany,
    oneOfFailures_congr hone, notFailures_congr hnot]
  rfl

/-! ## Calls about the value itself -/

/-- A call about the value itself does not depend on other calls, nor on the references that are being
followed. -/
theorem withActive_mem_calls {value : Json} {call : Call α} (h : call ∈ o.calls visit frame value)
    (hplace : call.keyword.isInPlace = true) (visit' : Visit α) (active : List Place) :
    call.withActive active ∈ o.calls visit' (frame.withActive active) value := by
  have hlist {keyword : Keyword} {schemas : Option (List α)}
      (hcall : call ∈ listCalls frame keyword schemas value) :
      call.withActive active ∈ listCalls (frame.withActive active) keyword schemas value := by
    rw [Call.withActive, if_pos hplace]
    obtain ⟨schema, hschema, rfl⟩ := (mem_listCalls frame).mp hcall
    exact (mem_listCalls _).mpr ⟨schema, hschema, rfl⟩
  simp only [calls, List.mem_append] at h ⊢
  rcases h with (((h | h) | h) | h) | h
  · refine .inl (.inl (.inl (.inl ?_)))
    cases value with
    | null | bool | number | string => cases h
    | array items =>
      rcases List.mem_append.mp h with h | h
      · obtain ⟨_, _, _, _, _, rfl⟩ := (o.mem_itemCalls frame).mp h
        cases hplace
      · obtain ⟨_, _, _, _, _, rfl⟩ := o.mem_containsCalls visit frame h
        cases hplace
    | object members =>
      simp only [kindCalls, List.mem_append] at h ⊢
      rcases h with (((h | h) | h) | h) | h
      · obtain ⟨_, _, _, _, _, rfl⟩ := (o.mem_propertyCalls frame).mp h
        cases hplace
      · obtain ⟨_, _, _, _, _, rfl⟩ := (o.mem_patternCalls frame).mp h
        cases hplace
      · obtain ⟨_, _, _, _, _, _, rfl⟩ := (o.mem_additionalCalls frame).mp h
        cases hplace
      · rw [Call.withActive, if_pos hplace]
        obtain ⟨trigger, schema, hentry, hpresent, rfl⟩ := (o.mem_dependencyCalls frame).mp h
        exact .inl (.inr ((o.mem_dependencyCalls _).mpr ⟨trigger, schema, hentry, hpresent, rfl⟩))
      · obtain ⟨_, _, _, _, _, rfl⟩ := (o.mem_nameCalls frame).mp h
        cases hplace
  · exact .inl (.inl (.inl (.inr (hlist h))))
  · exact .inl (.inl (.inr (hlist h)))
  · exact .inl (.inr (hlist h))
  · rw [Call.withActive, if_pos hplace]
    obtain ⟨schema, hschema, rfl⟩ := (o.mem_notCalls frame).mp h
    exact .inr ((o.mem_notCalls _).mpr ⟨schema, hschema, rfl⟩)

end ObjectSchema

/-- The failures of a node are determined by those of its calls. -/
theorem Pool.nodeFailures_congr {pool : Pool} {visit visit' : Visit Node} {frame : Frame}
    {node : Node} {value : Json}
    (h : ∀ call ∈ pool.calls visit frame node value,
      call.failures visit' = call.failures visit) :
    pool.nodeFailures visit' frame node value = pool.nodeFailures visit frame node value := by
  unfold nodeFailures
  unfold calls at h
  cases hschema : node.schema with
  | boolean answer => cases answer <;> rfl
  | object o =>
    simp only [hschema] at h ⊢
    cases href : o.ref with
    | none =>
      simp only [href] at h ⊢
      refine ObjectSchema.failures_congr fun call hcall => ?_
      rw [(ObjectSchema.of_mem_calls _ _ _ hcall).2.withActive_self]
      exact h call hcall
    | some reference =>
      simp only [href, referenceFailures] at h ⊢
      cases htarget : pool.resolve reference frame.scope with
      | error error => rfl
      | ok target =>
        simp only [htarget] at h ⊢
        split
        · rfl
        · next hactive =>
          rw [if_neg hactive] at h
          exact h _ (List.mem_singleton.mpr rfl)

end Draft6
