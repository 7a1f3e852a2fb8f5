import Draft6.Proofs.ChangedValues

/-!
# Documents with one more unknown keyword

An unknown keyword that is added to a schema object somewhere in a document is never wrong, so the
document is still read. It is then the same schema as before, or one where a schema object on the way has
one more sub-schema: the one that is kept for the value of the keyword. All others keep their order and
their places, and no identifier changes.

The way to the schema object leaves every other schema object by a keyword, or by an unknown one. Nothing
is kept for unknown keywords whose values are no schemas, and the keyword that is added does not make a
schema of a value that was none.
-/

namespace Draft6

/-- Whether a value has one more unknown keyword than another one, to which some segments lead. It stands
in the schema object itself, in a schema under a keyword, or in the value of another unknown keyword. -/
inductive Json.Gains : List String → Json → Json → Prop
  | here (before after : List (String × Json)) {name : String} (value : Json)
      (hname : Keyword.ofName? name = none) (hid : name ≠ Keyword.olderId) :
      Gains [name] (.object (before ++ after)) (.object (before ++ (name, value) :: after))
  | keyword (before after : List (String × Json)) {k : Keyword} {route : List String} {value value' : Json}
      (h : k.demand.Changes Gains route value value') :
      Gains (k.name :: route) (.object (before ++ (k.name, value) :: after))
        (.object (before ++ (k.name, value') :: after))
  | unknown (before after : List (String × Json)) {name : String} (hname : Keyword.ofName? name = none)
      {route : List String} {value value' : Json} (h : Gains route value value') :
      Gains (name :: route) (.object (before ++ (name, value) :: after))
        (.object (before ++ (name, value') :: after))

namespace ObjectSchema

open Decoded (Follows)

/-! ## Schema objects that grow -/

section Grown

variable {σ : Type} {S : List String → σ → σ → Prop} {route : List String} {o o' : ObjectSchema σ}

/-- Whether a schema object is another one, has one more sub-schema, or has one that has changed. Some
segments lead to what is new, if anything is. The identifier is the same. -/
inductive Grown (S : List String → σ → σ → Prop) : List String → ObjectSchema σ → ObjectSchema σ → Prop
  | same (route : List String) (o : ObjectSchema σ) : Grown S route o o
  | added {o o' : ObjectSchema σ} (hid : o'.id = o.id) (before after : List (List String × σ))
      (segments : List String) (s : σ) (h : o.children = before ++ after)
      (h' : o'.children = before ++ (segments, s) :: after) : Grown S segments o o'
  | below {o o' : ObjectSchema σ} (hid : o'.id = o.id) {route : List String}
      (h : Replaced S route o.children o'.children) : Grown S route o o'

/-- Nothing is under a keyword that holds no sub-schemas. -/
theorem parts_of_not_mem_holders (o : ObjectSchema σ) {k : Keyword} (hk : k ∉ holders) :
    o.parts k = [] := by
  cases k
  case definitions | items | additionalItems | contains | properties | patternProperties
      | additionalProperties | dependencies | propertyNames | allOf | anyOf | oneOf | not =>
    exact absurd (by decide) hk
  all_goals rfl

/-- The sub-schemas of a schema object are those under its keywords, and then those under unknown ones. -/
theorem children_eq_parts (o : ObjectSchema σ) :
    o.children = (holders.flatMap fun k => (o.parts k).map fun part => (k.name :: part.1, part.2)) ++
      named (fun name => name) o.extra := by
  rw [children_eq_branches, branches, List.flatMap_append, List.flatMap_map, List.flatMap_map]
  exact congrArg _ List.map_eq_flatMap.symm

/-- Of the sub-schemas of a schema object one changes when one under a keyword does. -/
theorem Replaced.children {k : Keyword} (h : Replaced S route (o.parts k) (o'.parts k))
    (hparts : ∀ j, j ≠ k → o'.parts j = o.parts j) (hextra : o'.extra = o.extra) :
    Replaced S (k.name :: route) o.children o'.children := by
  have hk : k ∈ holders := by
    by_contra hnot
    exact h.ne_nil (o.parts_of_not_mem_holders hnot)
  obtain ⟨before, after, hholders⟩ := List.append_of_mem hk
  have hnodup : (before ++ k :: after).Nodup := hholders ▸ (by decide : holders.Nodup)
  rw [List.nodup_middle, List.nodup_cons, List.mem_append, not_or] at hnodup
  -- What is under the other keywords is the same, and it stands before and behind.
  have hothers {ks : List Keyword} (hks : k ∉ ks) :
      (ks.flatMap fun j => (o'.parts j).map fun part => (j.name :: part.1, part.2)) =
        ks.flatMap fun j => (o.parts j).map fun part => (j.name :: part.1, part.2) :=
    List.flatMap_congr fun j hj => by rw [hparts j fun heq => hks (heq ▸ hj)]
  rw [children_eq_parts, children_eq_parts, hholders, hextra, List.flatMap_append, List.flatMap_append,
    List.flatMap_cons, List.flatMap_cons, hothers hnodup.1.1, hothers hnodup.1.2]
  simpa only [List.append_assoc] using h.below _ _ _

variable {child : Json → Decoded σ} {before after : List (String × Json)} {name : String}
  {value value' : Json}

/-- A member does not count for another name. -/
theorem lookup_insert {key : String} (h : key ≠ name) :
    (before ++ (name, value) :: after).lookup key = (before ++ after).lookup key := by
  rw [List.lookup_append, List.lookup_append, List.lookup_cons, beq_false_of_ne h]

/-- A member with a name of its own does not count for a keyword. -/
theorem source_insert {k : Keyword} (h : k.name ≠ name) (first : Keyword → ObjectSchema σ) :
    source child (before ++ (name, value) :: after) first k = source child (before ++ after) first k := by
  rw [source, source, lookup_insert h]

/-- A member with another name than the older one of the identifier does not count for it. -/
theorem olderId?_insert (h : Keyword.olderId ≠ name) :
    olderId? (before ++ (name, value) :: after) = olderId? (before ++ after) := by
  rw [olderId?, olderId?, lookup_insert h]

/-- What is kept for an unknown keyword comes between what is kept for the members around it. -/
theorem unknowns_insert (hname : Keyword.ofName? name = none) :
    unknowns child (before ++ (name, value) :: after) =
      unknowns child before ++ ((unknown? child value).toList.map (Prod.mk name) ++ unknowns child after) :=
  List.flatMap_append.trans (congrArg _ (unknowns_cons_of_none hname value))

/-- Whether names are repeated does not depend on the values. -/
theorem nodup_names_iff : ((before ++ (name, value) :: after).map Prod.fst).Nodup ↔
    ((before ++ (name, value') :: after).map Prod.fst).Nodup := by
  rw [List.map_append, List.map_cons, List.map_append, List.map_cons]

/-- A member whose value is an object does not count for the identifier. -/
theorem olderId?_object (before after : List (String × Json)) (name : String)
    (members : List (String × Json)) :
    olderId? (before ++ (name, .object members) :: after) =
      olderId? (before ++ (name, .object []) :: after) := by
  rw [olderId?, olderId?, List.lookup_append, List.lookup_append, List.lookup_cons, List.lookup_cons]
  cases before.lookup Keyword.olderId <;> cases Keyword.olderId == name <;> rfl

/-- More unknown keywords come behind all other sub-schemas. -/
theorem children_gather_append (pick : Keyword → ObjectSchema σ) (extra more : List (String × σ)) :
    (gather pick (extra ++ more)).children =
      (gather pick extra).children ++ named (fun name => name) more := by
  have hextra : named (fun name => name) (extra ++ more) =
      named (fun name => name) extra ++ named (fun name => name) more := List.map_append
  rw [children_eq_parts, children_eq_parts, List.append_assoc]
  simp only [parts_gather]
  exact congrArg _ hextra

/-- Where one more unknown keyword is kept there is one more sub-schema. -/
theorem grown_gather (pick : Keyword → ObjectSchema σ) (before after : List (String × σ)) (name : String)
    (s : σ) : Grown S [name] (gather pick (before ++ after)) (gather pick (before ++ (name, s) :: after)) := by
  have hid : (gather pick (before ++ (name, s) :: after)).id = (gather pick (before ++ after)).id := rfl
  exact .added hid _ _ [name] s (children_gather_append pick before after)
    (children_gather_append pick before _)

/-- Where the schema of an unknown keyword changes a sub-schema does. -/
theorem grown_gather_below (pick : Keyword → ObjectSchema σ) (before after : List (String × σ))
    (name : String) {s s' : σ} (h : S route s s') : Grown S (name :: route)
      (gather pick (before ++ (name, s) :: after)) (gather pick (before ++ (name, s') :: after)) := by
  have hid : (gather pick (before ++ (name, s') :: after)).id =
      (gather pick (before ++ (name, s) :: after)).id := rfl
  refine .below hid ?_
  rw [children_gather_append, children_gather_append]
  exact .intro _ _ [name] h

/-- A schema object with one more unknown keyword is read as the same one, or as one with one more
sub-schema. -/
theorem decode_added (hname : Keyword.ofName? name = none) (hid : name ≠ Keyword.olderId)
    (hnames : ((before ++ (name, value) :: after).map Prod.fst).Nodup) :
    Follows (Grown S [name]) (decode child (before ++ after))
      (decode child (before ++ (name, value) :: after)) := by
  intro o ho
  have hfewer : ((before ++ after).map Prod.fst).Nodup :=
    hnames.sublist (((List.sublist_cons_self _ after).append_left before).map Prod.fst)
  obtain ⟨pick, hpick, rfl⟩ := (decode_eq_ok_iff hfewer).mp ho
  refine ⟨_, (decode_eq_ok_iff hnames).mpr ⟨pick, fun k => ?_, rfl⟩, ?_⟩
  · rw [source_insert (name_ne_of_ofName?_eq_none hname k), ← hpick k]
    simp only [source, older, olderId?_insert hid.symm]
  · have hunknowns : unknowns child (before ++ after) = unknowns child before ++ unknowns child after :=
      List.flatMap_append
    rw [unknowns_insert hname, hunknowns]
    cases unknown? child value with
    | none => exact .same _ _
    | some s => exact grown_gather pick _ _ name s

variable {R : List String → Json → Json → Prop}
  (hchild : ∀ route value value', R route value value' → Follows (S route) (child value) (child value'))
  (hR : ∀ route value value', R route value value' →
    ∃ members members', value = .object members ∧ value' = .object members')

include hchild hR

/-- A schema object with another value of a keyword is read as one where a sub-schema has changed. -/
theorem decode_changes {k : Keyword} (hnames' : ((before ++ (k.name, value') :: after).map Prod.fst).Nodup)
    (h : k.demand.Changes R route value value') :
    Follows (Grown S (k.name :: route)) (decode child (before ++ (k.name, value) :: after))
      (decode child (before ++ (k.name, value') :: after)) := by
  intro o ho
  have hlookup (part : Json) (hnames : ((before ++ (k.name, part) :: after).map Prod.fst).Nodup) :
      (before ++ (k.name, part) :: after).lookup k.name = some part :=
    (lookup_eq_some_iff_mem hnames).mpr (List.mem_append_right _ List.mem_cons_self)
  have hnames : ((before ++ (k.name, value) :: after).map Prod.fst).Nodup := nodup_names_iff.mp hnames'
  have hunknowns (part : Json) : unknowns child (before ++ (k.name, part) :: after) =
      unknowns child before ++ unknowns child after :=
    List.flatMap_append.trans (congrArg _ (unknowns_cons_of_some (ofName?_name k) part))
  have holder : older (σ := σ) (before ++ (k.name, value') :: after) =
      older (before ++ (k.name, value) :: after) := by
    have hne : Keyword.olderId ≠ k.name := by cases k <;> decide
    funext j
    rw [older, older, olderId?_insert hne, olderId?_insert hne]
  obtain ⟨pick, hpick, rfl⟩ := (decode_eq_ok_iff hnames).mp ho
  have hk := hpick k
  rw [source, hlookup value hnames] at hk
  obtain ⟨p, hp, hparts⟩ := decodeKeyword_changes hchild hR h (pick k) hk
  have hother {j : Keyword} (hj : j ≠ k) : j.name ≠ k.name := Keyword.name_injective.ne hj
  refine ⟨_, (decode_eq_ok_iff hnames').mpr ⟨Function.update pick k p, fun j => ?_, rfl⟩, .below ?_ ?_⟩
  · by_cases hj : j = k
    · subst hj
      rw [source, hlookup value' hnames', Function.update_self]
      exact hp
    · rw [source_insert (hother hj), holder, Function.update_of_ne hj, ← hpick j,
        source_insert (hother hj)]
  · have hid : Keyword.id ≠ k := by
      rintro rfl
      cases h
    change (Function.update pick k p Keyword.id).id = (pick Keyword.id).id
    rw [Function.update_of_ne hid]
  · refine Replaced.children ?_ (fun j hj => ?_) ?_
    · rw [parts_gather, parts_gather, Function.update_self]
      exact hparts
    · rw [parts_gather, parts_gather, Function.update_of_ne hj]
    · exact (hunknowns value').trans (hunknowns value).symm

/-- A schema object with another value of an unknown keyword is read as the same one, or as one where a
sub-schema has changed. -/
theorem decode_changes_unknown
    (hback : ∀ route value value', R route value value' → (child value').Succeeds → (child value).Succeeds)
    (hname : Keyword.ofName? name = none)
    (hnames' : ((before ++ (name, value') :: after).map Prod.fst).Nodup) (h : R route value value') :
    Follows (Grown S (name :: route)) (decode child (before ++ (name, value) :: after))
      (decode child (before ++ (name, value') :: after)) := by
  intro o ho
  obtain ⟨pick, hpick, rfl⟩ := (decode_eq_ok_iff (nodup_names_iff.mp hnames')).mp ho
  obtain ⟨members, members', rfl, rfl⟩ := hR _ _ _ h
  refine ⟨_, (decode_eq_ok_iff hnames').mpr ⟨pick, fun k => ?_, rfl⟩, ?_⟩
  · have hne := name_ne_of_ofName?_eq_none hname k
    rw [← hpick k, source_insert hne, source_insert hne]
    simp only [source, older, olderId?_object before after name members,
      olderId?_object before after name members']
  · rw [unknowns_insert hname, unknowns_insert hname, unknown?, unknown?]
    have hfollows := hchild _ _ _ h
    cases hread : child (.object members) with
    | ok s =>
      obtain ⟨s', hread', hs⟩ := hfollows s hread
      rw [hread']
      exact grown_gather_below pick _ _ name hs
    | error e =>
      -- The schema that was none is none now, so nothing is kept either way.
      cases hread' : child (.object members') with
      | error e' => exact .same _ _
      | ok s' =>
        obtain ⟨s, hs⟩ := hback _ _ _ h ⟨s', hread'⟩
        cases hread.symm.trans hs

end Grown

end ObjectSchema

namespace Schema

open Decoded (Follows Succeeds not_succeeds_error)

/-! ## Documents -/

/-- Whether a schema is another one where a schema object on the way has one more sub-schema, to which
some segments lead, or is the same. -/
inductive Grown : List String → Schema → Schema → Prop
  | object {route : List String} {o o' : ObjectSchema Schema} (h : ObjectSchema.Grown Grown route o o') :
      Grown route (.object o) (.object o')

variable {maximum levels : Nat} {route : List String} {value value' : Json}

/-- Only objects have unknown keywords. -/
theorem objects_of_gains (route : List String) (value value' : Json) (h : Json.Gains route value value') :
    ∃ members members', value = .object members ∧ value' = .object members' := by
  cases h with
  | here before after value => exact ⟨_, _, rfl, rfl⟩
  | keyword before after h => exact ⟨_, _, rfl, rfl⟩
  | unknown before after hname h => exact ⟨_, _, rfl, rfl⟩

/-- One more unknown keyword does not make a schema of a value that was none. -/
theorem succeeds_of_gains (route : List String) (value value' : Json) (h : Json.Gains route value value')
    (hread : (decodeWithin maximum levels value').Succeeds) :
    (decodeWithin maximum levels value).Succeeds := by
  have hothers {before after : List (String × Json)} {name : String} (value value' : Json)
      {member : String × Json} (hmember : member ∈ before ++ (name, value) :: after) :
      member = (name, value) ∨ member ∈ before ++ (name, value') :: after := by
    simp only [List.mem_append, List.mem_cons] at hmember ⊢
    tauto
  induction levels generalizing route value value' with
  | zero => exact absurd hread (not_succeeds_error _)
  | succ levels ih =>
    cases h with
    | here before after value =>
      rw [succeeds_decodeWithin_object_iff] at hread ⊢
      intro k part hmember
      refine hread k part ?_
      rw [List.mem_append] at hmember ⊢
      exact hmember.imp_right (List.mem_cons_of_mem _)
    | @keyword before after k rest value value' h =>
      rw [succeeds_decodeWithin_object_iff] at hread ⊢
      intro j part hmember
      rcases hothers value value' hmember with heq | hmember
      · obtain ⟨hname, rfl⟩ := Prod.mk.inj heq
        obtain rfl := Keyword.name_injective hname
        have hpart := hread j value' (List.mem_append_right _ List.mem_cons_self)
        rw [← ObjectSchema.succeeds_decodeKeyword_iff {}] at hpart ⊢
        exact ObjectSchema.succeeds_of_changes objects_of_gains ih h hpart
      · exact hread j part hmember
    | @unknown before after name hname rest value value' h =>
      rw [succeeds_decodeWithin_object_iff] at hread ⊢
      intro j part hmember
      rcases hothers value value' hmember with heq | hmember
      · exact absurd (Prod.mk.inj heq).1 (ObjectSchema.name_ne_of_ofName?_eq_none hname j)
      · exact hread j part hmember

/-- A value with one more unknown keyword is read when the first one is, as a schema that has grown. -/
theorem decodeWithin_gains (h : Json.Gains route value value') (hnames : value'.distinctNames = true) :
    Follows (Grown route) (decodeWithin maximum levels value) (decodeWithin maximum levels value') := by
  induction levels generalizing route value value' with
  | zero => exact nofun
  | succ levels ih =>
    -- Below, the part that has gained the keyword repeats no names either.
    let R (route : List String) (value value' : Json) : Prop :=
      Json.Gains route value value' ∧ value'.distinctNames = true
    have hchild (route : List String) (value value' : Json) (h : R route value value') :
        Follows (Grown route) (decodeWithin maximum levels value) (decodeWithin maximum levels value') :=
      ih h.1 h.2
    have hR (route : List String) (value value' : Json) (h : R route value value') :
        ∃ members members', value = .object members ∧ value' = .object members' :=
      objects_of_gains _ _ _ h.1
    have hback (route : List String) (value value' : Json) (h : R route value value') :
        (decodeWithin maximum levels value').Succeeds → (decodeWithin maximum levels value).Succeeds :=
      succeeds_of_gains _ _ _ h.1
    have hobject {members members' : List (String × Json)} (h : Follows (ObjectSchema.Grown Grown route)
        (ObjectSchema.decode (decodeWithin maximum levels) members)
        (ObjectSchema.decode (decodeWithin maximum levels) members')) :
        Follows (Grown route) (decodeWithin maximum (levels + 1) (.object members))
          (decodeWithin maximum (levels + 1) (.object members')) := h.map fun _ _ => .object
    cases h with
    | here before after value hname hid =>
      exact hobject (ObjectSchema.decode_added hname hid (Json.distinctNames_object.mp hnames).1)
    | keyword before after h =>
      obtain ⟨hnodup, hvalues⟩ := Json.distinctNames_object.mp hnames
      have hpart := hvalues _ (List.mem_append_right _ List.mem_cons_self)
      exact hobject (ObjectSchema.decode_changes hchild hR hnodup
        (h.mono hpart fun _ _ _ h hpart => ⟨h, hpart⟩))
    | unknown before after hname h =>
      obtain ⟨hnodup, hvalues⟩ := Json.distinctNames_object.mp hnames
      have hpart := hvalues _ (List.mem_append_right _ List.mem_cons_self)
      exact hobject (ObjectSchema.decode_changes_unknown hchild hR hback hname hnodup ⟨h, hpart⟩)

end Schema

end Draft6
