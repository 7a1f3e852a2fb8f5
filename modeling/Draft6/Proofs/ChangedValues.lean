import Draft6.Proofs.KeywordReading
import Draft6.Proofs.Places
import Draft6.Proofs.ReorderedReading

/-!
# Values in which one schema changes

Schemas stand in the values of keywords: alone, in lists, or under names. Where the value of a keyword is
the same but for one of them, what is read for the keyword is the same but for the schema that is read
there. This holds for any change of a schema, as long as what it changes into is still read.
-/

namespace Draft6

/-- Whether the values of a keyword are the same but for one of the schemas that stand in them, to which
some segments lead. -/
inductive Demand.Changes (R : List String → Json → Json → Prop) : Demand → List String → Json → Json → Prop
  | schema {route : List String} {value value' : Json} (h : R route value value') :
      Changes R .schema route value value'
  | schemas (before after : List Json) {route : List String} {value value' : Json}
      (h : R route value value') :
      Changes R .schemas (toString before.length :: route) (.array (before ++ value :: after))
        (.array (before ++ value' :: after))
  | all {route : List String} {value value' : Json} (h : R route value value') :
      Changes R .items route value value'
  | each (before after : List Json) {route : List String} {value value' : Json}
      (h : R route value value') :
      Changes R .items (toString before.length :: route) (.array (before ++ value :: after))
        (.array (before ++ value' :: after))
  | named (before after : List (String × Json)) (name : String) {route : List String} {value value' : Json}
      (h : R route value value') :
      Changes R .named (name :: route) (.object (before ++ (name, value) :: after))
        (.object (before ++ (name, value') :: after))
  | matching (before after : List (String × Json)) (source : String) {route : List String}
      {value value' : Json} (h : R route value value') :
      Changes R .matching (source :: route) (.object (before ++ (source, value) :: after))
        (.object (before ++ (source, value') :: after))
  | dependencies (before after : List (String × Json)) (trigger : String) {route : List String}
      {value value' : Json} (h : R route value value') :
      Changes R .dependencies (trigger :: route) (.object (before ++ (trigger, value) :: after))
        (.object (before ++ (trigger, value') :: after))

namespace Demand

variable {R R' : List String → Json → Json → Prop} {d : Demand} {route : List String} {value value' : Json}

/-- What follows for a schema when the second value repeats no names follows for the schema that changes. -/
theorem Changes.mono (h : d.Changes R route value value') (hvalue : value'.distinctNames = true)
    (hR : ∀ route value value', R route value value' → value'.distinctNames = true →
      R' route value value') : d.Changes R' route value value' := by
  have hitem {before after : List Json} {part : Json}
      (h : (Json.array (before ++ part :: after)).distinctNames = true) : part.distinctNames = true :=
    Json.distinctNames_array.mp h _ (List.mem_append_right _ List.mem_cons_self)
  have hmember {before after : List (String × Json)} {member : String × Json}
      (h : (Json.object (before ++ member :: after)).distinctNames = true) :
      member.2.distinctNames = true :=
    (Json.distinctNames_object.mp h).2 _ (List.mem_append_right _ List.mem_cons_self)
  cases h with
  | schema h => exact .schema (hR _ _ _ h hvalue)
  | schemas before after h => exact .schemas before after (hR _ _ _ h (hitem hvalue))
  | all h => exact .all (hR _ _ _ h hvalue)
  | each before after h => exact .each before after (hR _ _ _ h (hitem hvalue))
  | named before after name h => exact .named before after name (hR _ _ _ h (hmember hvalue))
  | matching before after source h => exact .matching before after source (hR _ _ _ h (hmember hvalue))
  | dependencies before after trigger h =>
    exact .dependencies before after trigger (hR _ _ _ h (hmember hvalue))

/-- Changes can be read in both directions. -/
theorem Changes.symm (h : d.Changes R route value value') :
    d.Changes (fun route value value' => R route value' value) route value' value := by
  cases h with
  | schema h => exact .schema h
  | schemas before after h => exact .schemas before after h
  | all h => exact .all h
  | each before after h => exact .each before after h
  | named before after name h => exact .named before after name h
  | matching before after source h => exact .matching before after source h
  | dependencies before after trigger h => exact .dependencies before after trigger h

end Demand

namespace ObjectSchema

variable {σ : Type}

/-! ## One of several schemas that changes -/

/-- Whether of schemas on their ways one has changed as it should, and the others are the same. The
segments lead to the schema, and on inside it. -/
inductive Replaced (S : List String → σ → σ → Prop) :
    List String → List (List String × σ) → List (List String × σ) → Prop
  | intro (before after : List (List String × σ)) (segments : List String) {rest : List String} {s s' : σ}
      (h : S rest s s') :
      Replaced S (segments ++ rest) (before ++ (segments, s) :: after) (before ++ (segments, s') :: after)

variable {S : List String → σ → σ → Prop} {route : List String} {s s' : σ}

/-- The only schema changes. -/
theorem replaced_single (h : S route s s') : Replaced S route (single (some s)) (single (some s')) :=
  .intro [] [] [] h

/-- A schema in a list changes. -/
theorem replaced_listed (before after : List σ) (h : S route s s') :
    Replaced S (toString before.length :: route) (listed (before ++ s :: after))
      (listed (before ++ s' :: after)) := by
  simp only [listed, List.mapIdx_append, List.mapIdx_cons, Nat.zero_add]
  exact .intro _ _ [toString before.length] h

/-- A named schema changes. -/
theorem replaced_named {κ : Type} (key : κ → String) (before after : List (κ × σ)) (k : κ)
    (h : S route s s') :
    Replaced S (key k :: route) (named key (before ++ (k, s) :: after))
      (named key (before ++ (k, s') :: after)) := by
  simp only [named, List.map_append, List.map_cons]
  exact .intro _ _ [key k] h

/-- A schema that a member demands changes. -/
theorem replaced_dependencyParts (before after : List (String × Dependency σ)) (trigger : String)
    (h : S route s s') :
    Replaced S (trigger :: route) (dependencyParts (before ++ (trigger, .schema s) :: after))
      (dependencyParts (before ++ (trigger, .schema s') :: after)) := by
  simp only [dependencyParts, List.flatMap_append, List.flatMap_cons]
  exact .intro _ _ [trigger] h

/-- Other schemas may stand before and behind, and the way to all of them may begin with a name. -/
theorem Replaced.below {parts parts' : List (List String × σ)} (h : Replaced S route parts parts')
    (before after : List (List String × σ)) (name : String) :
    Replaced S (name :: route) (before ++ parts.map (fun part => (name :: part.1, part.2)) ++ after)
      (before ++ parts'.map (fun part => (name :: part.1, part.2)) ++ after) := by
  cases h with
  | intro before' after' segments h =>
    simp only [List.map_append, List.map_cons, List.append_assoc, List.cons_append]
    rw [← List.append_assoc before, ← List.append_assoc before]
    exact .intro _ _ (name :: segments) h

/-- A list in which one schema changes is not empty. -/
theorem Replaced.ne_nil {parts parts' : List (List String × σ)} (h : Replaced S route parts parts') :
    parts ≠ [] := by
  cases h with
  | intro before after segments h => exact List.append_ne_nil_of_right_ne_nil _ (List.cons_ne_nil _ _)

end ObjectSchema

namespace Json

open Decoded (Follows follows_ok)

variable {κ α : Type} {P : α → α → Prop} {item : Json → Decoded α} {value value' : Json}

/-- Of the elements that are read the one that was read from the changed value changes. -/
theorem readItems_follows (h : Follows P (item value) (item value')) (start : Nat)
    (before after : List Json) :
    Follows (fun xs xs' => ∃ first x x' last, first.length = before.length ∧ P x x' ∧
        xs = first ++ x :: last ∧ xs' = first ++ x' :: last)
      (readItems item start (before ++ value :: after))
      (readItems item start (before ++ value' :: after)) := by
  induction before generalizing start with
  | nil =>
    refine (h.below _ _).bind fun x x' hx => ?_
    intro xs hxs
    obtain ⟨last, hlast, hxs⟩ := bind_eq_ok.mp hxs
    cases hxs
    exact ⟨x' :: last, bind_eq_ok.mpr ⟨last, hlast, rfl⟩, [], x, x', last, rfl, hx, rfl, rfl⟩
  | cons other before ih =>
    refine Follows.bind (R := Eq) (fun x hx => ⟨x, hx, rfl⟩) ?_
    rintro x _ rfl
    refine (ih (start + 1)).bind_pure ?_
    rintro _ _ ⟨first, y, y', last, hlength, hy, rfl, rfl⟩
    exact ⟨x :: first, y, y', last, congrArg Nat.succ hlength, hy, rfl, rfl⟩

/-- Of the members that are read the one whose value has changed changes. -/
theorem readMembers_follows_value (name : String → Decoded κ) (h : Follows P (item value) (item value'))
    (key : String) (before after : List (String × Json)) :
    Follows (fun entries entries' => ∃ first k x x' last, name key = .ok k ∧ P x x' ∧
        entries = first ++ (k, x) :: last ∧ entries' = first ++ (k, x') :: last)
      (readMembers name item (before ++ (key, value) :: after))
      (readMembers name item (before ++ (key, value') :: after)) := by
  induction before with
  | nil =>
    intro entries hentries
    obtain ⟨entry, hentry, hentries⟩ := bind_eq_ok.mp hentries
    obtain ⟨last, hlast, hentries⟩ := bind_eq_ok.mp hentries
    cases hentries
    obtain ⟨k, hk, hentry⟩ := bind_eq_ok.mp (Decoded.below_eq_ok.mp hentry)
    obtain ⟨x, hx, hentry⟩ := bind_eq_ok.mp hentry
    cases hentry
    obtain ⟨x', hx', hP⟩ := h x hx
    have hfirst : (do pure (← name key, ← item value')) = Except.ok (k, x') :=
      bind_eq_ok.mpr ⟨k, hk, bind_eq_ok.mpr ⟨x', hx', rfl⟩⟩
    exact ⟨_, bind_eq_ok.mpr ⟨(k, x'), Decoded.below_eq_ok.mpr hfirst, bind_eq_ok.mpr ⟨last, hlast, rfl⟩⟩,
      [], k, x, x', last, hk, hP, rfl, rfl⟩
  | cons other before ih =>
    refine Follows.bind (R := Eq) (fun entry hentry => ⟨entry, hentry, rfl⟩) ?_
    rintro entry _ rfl
    refine ih.bind_pure ?_
    rintro _ _ ⟨first, k, x, x', last, hk, hx, rfl, rfl⟩
    exact ⟨entry :: first, k, x, x', last, hk, hx, rfl, rfl⟩

end Json

namespace ObjectSchema

open Decoded (Follows follows_ok)

/-! ## Reading values in which one schema changes -/

section Changes

variable {σ : Type} {child : Json → Decoded σ} {R : List String → Json → Json → Prop}
  {S : List String → σ → σ → Prop} {route : List String} {value value' : Json}
  (hchild : ∀ route value value', R route value value' → Follows (S route) (child value) (child value'))

include hchild

/-- Of a list of schemas that is read one changes. -/
theorem asList_changes (before after : List Json) (h : R route value value') :
    Follows (fun schemas schemas' =>
        Replaced S (toString before.length :: route) (listed schemas) (listed schemas'))
      ((Json.array (before ++ value :: after)).asList child)
      ((Json.array (before ++ value' :: after)).asList child) := by
  intro schemas hschemas
  obtain ⟨schemas', hread, first, s, s', last, hlength, hs, rfl, rfl⟩ :=
    Json.readItems_follows (hchild _ _ _ h) 0 before after schemas hschemas
  exact ⟨_, hread, hlength ▸ replaced_listed first last hs⟩

/-- Of the named schemas that are read one changes. -/
theorem readMembers_changes {κ : Type} {name : String → Decoded κ} (key : κ → String)
    (hkey : ∀ s k, name s = .ok k → key k = s) (before after : List (String × Json)) (segment : String)
    (h : R route value value') :
    Follows (fun entries entries' => Replaced S (segment :: route) (named key entries) (named key entries'))
      (Json.readMembers name child (before ++ (segment, value) :: after))
      (Json.readMembers name child (before ++ (segment, value') :: after)) := by
  intro entries hentries
  obtain ⟨entries', hread, first, k, s, s', last, hk, hs, rfl, rfl⟩ :=
    Json.readMembers_follows_value name (hchild _ _ _ h) segment before after entries hentries
  exact ⟨_, hread, hkey _ _ hk ▸ replaced_named key first last k hs⟩

variable (hR : ∀ route value value', R route value value' →
  ∃ members members', value = .object members ∧ value' = .object members')

include hR

/-- Of the schemas for the elements of arrays that are read one changes. -/
theorem decodeItems_changes (h : Demand.items.Changes R route value value') :
    Follows (fun items items' => Replaced S route (itemParts (some items)) (itemParts (some items')))
      (decodeItems child value) (decodeItems child value') := by
  cases h with
  | all h =>
    obtain ⟨members, members', rfl, rfl⟩ := hR _ _ _ h
    exact (hchild _ _ _ h).map fun _ _ => replaced_single
  | each before after h => exact (asList_changes hchild before after h).map fun _ _ hs => hs

/-- Of the schemas that members demand one changes. -/
theorem asDependencies_changes (h : Demand.dependencies.Changes R route value value') :
    Follows (fun entries entries' => Replaced S route (dependencyParts entries) (dependencyParts entries'))
      (value.asNamed (decodeDependency child)) (value'.asNamed (decodeDependency child)) := by
  cases h with
  | @dependencies before after trigger route _ _ h =>
    obtain ⟨members, members', rfl, rfl⟩ := hR _ _ _ h
    have hdependency : Follows (fun d d' => ∃ s s', S route s s' ∧ d = .schema s ∧ d' = .schema s')
        (decodeDependency child (.object members)) (decodeDependency child (.object members')) :=
      (hchild _ _ _ h).map fun s s' hs => ⟨s, s', hs, rfl, rfl⟩
    intro entries hentries
    obtain ⟨entries', hread, first, _, _, _, last, hk, ⟨s, s', hs, rfl, rfl⟩, rfl, rfl⟩ :=
      Json.readMembers_follows_value pure hdependency trigger before after entries hentries
    cases hk
    exact ⟨_, hread, replaced_dependencyParts first last trigger hs⟩

/-- Of the schemas under a keyword one changes when one in its value does. -/
theorem decodeKeyword_changes {k : Keyword} (h : k.demand.Changes R route value value') :
    Follows (fun p p' => Replaced S route (p.parts k) (p'.parts k)) (decodeKeyword child {} k value)
      (decodeKeyword child {} k value') := by
  have hkey (s k : String) (h : (pure s : Decoded String) = .ok k) : k = s := (Except.ok.inj h).symm
  cases k
  case items => exact (decodeItems_changes hchild hR h).bind_pure fun _ _ hs => hs
  case dependencies => exact (asDependencies_changes hchild hR h).bind_pure fun _ _ hs => hs
  case additionalItems | contains | additionalProperties | propertyNames | not =>
    cases h with
    | schema h => exact (hchild _ _ _ h).bind_pure fun _ _ => replaced_single
  case allOf | anyOf | oneOf =>
    cases h with
    | schemas before after h => exact (asList_changes hchild before after h).bind_pure fun _ _ hs => hs
  case properties | definitions =>
    cases h with
    | named before after name h =>
      exact (readMembers_changes hchild (fun name => name) hkey before after name h).bind_pure
        fun _ _ hs => hs
  case patternProperties =>
    cases h with
    | matching before after source h =>
      exact (readMembers_changes hchild Pattern.source (fun _ _ => Pattern.source_of_decode) before after
        source h).bind_pure fun _ _ hs => hs
  all_goals cases h

omit hchild in
/-- The value of a keyword is read when it is with a schema that is read only if the one before was. -/
theorem succeeds_of_changes
    (hback : ∀ route value value', R route value value' → (child value').Succeeds → (child value).Succeeds)
    {k : Keyword} (h : k.demand.Changes R route value value')
    (hread : (decodeKeyword child {} k value').Succeeds) : (decodeKeyword child {} k value).Succeeds := by
  obtain ⟨p, hp⟩ := hread
  obtain ⟨p', hp', -⟩ := decodeKeyword_changes (S := fun _ _ _ => True)
    (fun route value' value h s hs => (hback route value value' h ⟨s, hs⟩).imp fun _ ht => ⟨ht, trivial⟩)
    (fun route value' value h =>
      have ⟨members, members', heq, heq'⟩ := hR route value value' h
      ⟨members', members, heq', heq⟩) h.symm p hp
  exact ⟨p', hp'⟩

end Changes

end ObjectSchema

end Draft6
