import Draft6.Schema.Fold
import Mathlib.Data.List.Basic

/-!
# Replacing and listing sub-schemas

Replacing sub-schemas twice is replacing them once, and the listed sub-schemas are replaced with the
rest. So a fold can be read off the list of the direct sub-schemas, and what is inherited from them
holds of every schema.
-/

namespace Draft6

namespace ObjectSchema

variable {σ τ ρ : Type}

/-- Replacing sub-schemas twice, given the segments that lead to them, is replacing them once. -/
theorem mapPath_mapPath (f : List String → σ → τ) (g : List String → τ → ρ)
    (o : ObjectSchema σ) :
    (o.mapPath f).mapPath g = o.mapPath fun path s => g path (f path s) := by
  have hitems (items : Items σ) : (items.mapPath f).mapPath g =
      items.mapPath fun path s => g path (f path s) := by
    cases items <;> simp [Items.mapPath, Function.comp_def]
  have hlist (k : Keyword) (schemas : List σ) : mapList g k (mapList f k schemas) =
      mapList (fun path s => g path (f path s)) k schemas := by
    simp [mapList, Function.comp_def]
  have hdependency (trigger : String) (d : Dependency σ) :
      (d.mapPath f trigger).mapPath g trigger =
        d.mapPath (fun path s => g path (f path s)) trigger := by
    cases d <;> rfl
  simp only [mapPath, Option.map_map, List.map_map, Function.comp_def, hitems, hlist, hdependency]
  simp only [mapNamed, List.map_map, Function.comp_def]
  rfl

/-- Replacing sub-schemas twice is replacing them once. -/
theorem map_map (f : σ → τ) (g : τ → ρ) (o : ObjectSchema σ) :
    (o.map f).map g = o.map fun s => g (f s) :=
  mapPath_mapPath (fun _ => f) (fun _ => g) o

/-- Replacing every sub-schema by itself changes nothing. -/
theorem map_self (o : ObjectSchema σ) : (o.map fun s => s) = o := by
  have hitems (items : Items σ) : (items.mapPath fun _ s => s) = items := by
    cases items <;> simp [Items.mapPath, Schema.mapIdx_eq_map]
  have hlist (k : Keyword) (schemas : List σ) : mapList (fun _ s => s) k schemas = schemas := by
    simp [mapList, Schema.mapIdx_eq_map]
  have hnamed (k : Keyword) (schemas : List (String × σ)) :
      mapNamed (fun _ s => s) k schemas = schemas := List.map_id schemas
  have hdependency (trigger : String) (d : Dependency σ) :
      (d.mapPath (fun _ s => s) trigger) = d := by
    cases d <;> rfl
  have hoption {β : Type} (g : β → β) (hg : ∀ b, g b = b) (s : Option β) : s.map g = s := by
    cases s <;> simp [hg]
  simp only [map, mapPath, hoption _ hitems, hoption _ (hlist _), hoption _ (hnamed _),
    hoption (fun s => s) (fun _ => rfl), hdependency, List.map_id']

/-- The sub-schemas are replaced where they are listed. -/
theorem toList_map (f : σ → τ) (o : ObjectSchema σ) : (o.map f).toList = o.toList.map f := by
  have hoption (s : Option σ) : (s.map f).toList = s.toList.map f := by cases s <;> rfl
  have hlist (s : Option (List σ)) (k : Keyword) :
      (s.map (mapList (fun _ => f) k)).getD [] = (s.getD []).map f := by
    cases s <;> simp [mapList, Schema.mapIdx_eq_map]
  have hnamed {κ : Type} (s : Option (List (κ × σ))) (g : κ × σ → κ × τ)
      (hg : ∀ entry, (g entry).2 = f entry.2) :
      ((s.map (List.map g)).getD []).map Prod.snd = ((s.getD []).map Prod.snd).map f := by
    cases s <;> simp [hg]
  have hitems (s : Option (Items σ)) : ((s.map (Items.mapPath fun _ => f)).map Items.toList).getD [] =
      ((s.map Items.toList).getD []).map f := by
    rcases s with _ | (s | s) <;> simp [Items.mapPath, Items.toList, Schema.mapIdx_eq_map]
  have hdependencies (s : Option (List (String × Dependency σ))) :
      ((s.map (List.map fun entry => (entry.1, entry.2.mapPath (fun _ => f) entry.1))).getD []).flatMap
        (fun entry => entry.2.toList) = ((s.getD []).flatMap fun entry => entry.2.toList).map f := by
    cases s with
    | none => rfl
    | some entries =>
      simp only [Option.map_some, Option.getD_some, List.flatMap_map, List.map_flatMap]
      refine List.flatMap_congr fun entry _ => ?_
      cases entry.2 <;> rfl
  simp only [toList, map, mapPath, List.map_append, hoption, hlist, hitems]
  rw [← hnamed o.definitions (fun entry => (entry.1, f entry.2)) fun _ => rfl,
    ← hnamed o.properties (fun entry => (entry.1, f entry.2)) fun _ => rfl,
    ← hnamed o.patternProperties (fun entry => (entry.1, f entry.2)) fun _ => rfl,
    ← hdependencies, List.map_map, List.map_map]
  rfl

/-- The sub-schemas are replaced where they are listed with the segments that lead to them. -/
theorem children_map (f : σ → τ) (o : ObjectSchema σ) :
    (o.map f).children = o.children.map fun child => (child.1, f child.2) := by
  rw [children, children, ← toList_map, map, map, mapPath_mapPath, mapPath_mapPath]

/-- The sub-schemas are replaced where they are listed, given the segments that lead to them. -/
theorem toList_mapPath (f : List String → σ → τ) (o : ObjectSchema σ) :
    (o.mapPath f).toList = o.children.map fun child => f child.1 child.2 := by
  rw [children, ← toList_map, map, mapPath_mapPath]

/-- What takes the place of the schema with a name has this name. -/
theorem lookup_properties_mapPath (f : List String → σ → τ) (o : ObjectSchema σ)
    (name : String) :
    ((o.mapPath f).properties.getD []).lookup name =
      ((o.properties.getD []).lookup name).map (f [Keyword.properties.name, name]) := by
  have hnamed (schemas : List (String × σ)) : (mapNamed f .properties schemas).lookup name =
      (schemas.lookup name).map (f [Keyword.properties.name, name]) := by
    induction schemas with
    | nil => rfl
    | cons entry rest ih =>
      obtain ⟨key, s⟩ := entry
      rw [mapNamed, List.map_cons, List.lookup_cons, List.lookup_cons]
      cases hkey : name == key with
      | true => rw [beq_iff_eq.mp hkey]; rfl
      | false => exact ih
  cases hproperties : o.properties with
  | none => simp [mapPath, hproperties]
  | some schemas => simpa [mapPath, hproperties] using hnamed schemas

/-- The listed sub-schemas are the same with and without the segments that lead to them. -/
theorem children_snd (o : ObjectSchema σ) : o.children.map Prod.snd = o.toList := by
  rw [children, ← toList_map, map, mapPath_mapPath]
  exact congrArg toList o.map_self

/-- At least one segment leads to each sub-schema. -/
theorem ne_nil_of_mem_children {o : ObjectSchema σ} {child : List String × σ}
    (h : child ∈ o.children) : child.1 ≠ [] := by
  have hoption (s : Option σ) (k : Keyword)
      (hmem : child ∈ (s.map (Prod.mk [k.name])).toList) : child.1 ≠ [] := by
    cases s with
    | none => cases hmem
    | some schema =>
      rw [List.mem_singleton.mp hmem]
      exact List.cons_ne_nil _ _
  have hlist (s : List σ) (k : Keyword) (hmem : child ∈ mapList Prod.mk k s) :
      child.1 ≠ [] := by
    obtain ⟨i, hi, rfl⟩ := List.mem_mapIdx.mp hmem
    exact List.cons_ne_nil _ _
  have hlist? (s : Option (List σ)) (k : Keyword)
      (hmem : child ∈ (s.map (mapList Prod.mk k)).getD []) : child.1 ≠ [] := by
    cases s with
    | none => cases hmem
    | some schemas => exact hlist schemas k hmem
  have hnamed {κ : Type} (s : Option (List (κ × σ))) (path : κ → List String)
      (hpath : ∀ key, path key ≠ []) (hmem : child ∈ ((s.map (List.map fun entry =>
        (entry.1, path entry.1, entry.2))).getD []).map Prod.snd) : child.1 ≠ [] := by
    cases s with
    | none => cases hmem
    | some schemas =>
      obtain ⟨_, hentry, rfl⟩ := List.mem_map.mp hmem
      obtain ⟨entry, _, rfl⟩ := List.mem_map.mp hentry
      exact hpath _
  simp only [children, toList, mapPath, List.mem_append] at h
  rcases h with ((((((((((((h | h) | h) | h) | h) | h) | h) | h) | h) | h) | h) | h) | h) | h
  · exact hnamed _ (fun name => [Keyword.definitions.name, name]) (fun _ => List.cons_ne_nil _ _) h
  · cases hitems : o.items with
    | none =>
      rw [hitems] at h
      cases h
    | some items =>
      rw [hitems] at h
      cases items with
      | all schema => exact hoption (some schema) .items h
      | each schemas => exact hlist schemas .items h
  · exact hoption _ _ h
  · exact hoption _ _ h
  · exact hnamed _ (fun name => [Keyword.properties.name, name]) (fun _ => List.cons_ne_nil _ _) h
  · exact hnamed _ (fun p : Pattern => [Keyword.patternProperties.name, p.source])
      (fun _ => List.cons_ne_nil _ _) h
  · exact hoption _ _ h
  · obtain ⟨entry, hentry, hmem⟩ := List.mem_flatMap.mp h
    cases hdependencies : o.dependencies with
    | none =>
      rw [hdependencies] at hentry
      cases hentry
    | some entries =>
      rw [hdependencies] at hentry
      obtain ⟨⟨trigger, d⟩, _, rfl⟩ := List.mem_map.mp hentry
      cases d with
      | names required => cases hmem
      | schema s =>
        rw [List.mem_singleton.mp hmem]
        exact List.cons_ne_nil _ _
  · exact hoption _ _ h
  · exact hlist? _ _ h
  · exact hlist? _ _ h
  · exact hlist? _ _ h
  · exact hoption _ _ h
  · exact hnamed (some o.extra) (fun name => [name]) (fun _ => List.cons_ne_nil _ _) h

end ObjectSchema

namespace Schema

/-- How deep schema objects nest in a schema. -/
def depth : Schema → Nat :=
  fold (fun _ => 0) fun o => (o.toList.map Prod.snd).foldr max 0 + 1

/-- A schema object nests deeper than each of its sub-schemas. -/
theorem depth_lt_of_mem_children {o : ObjectSchema Schema} {child : List String × Schema}
    (h : child ∈ o.children) : child.2.depth < (Schema.object o).depth := by
  have hmem : child.2 ∈ o.toList := o.children_snd ▸ List.mem_map_of_mem h
  have hdepth : (Schema.object o).depth = (o.toList.map depth).foldr max 0 + 1 := by
    rw [depth, fold_object, ObjectSchema.toList_map, List.map_map]
    rfl
  rw [hdepth]
  have hle (depths : List Nat) (n : Nat) (hn : n ∈ depths) : n ≤ depths.foldr max 0 := by
    induction depths with
    | nil => cases hn
    | cons m rest ih =>
      rcases List.mem_cons.mp hn with rfl | hn
      · exact Nat.le_max_left _ _
      · exact Nat.le_trans (ih hn) (Nat.le_max_right _ _)
  exact Nat.lt_succ_of_le (hle _ _ (List.mem_map_of_mem hmem))

/-- What is true of Booleans, and of schema objects when it is true of their sub-schemas, is true of
every schema. -/
theorem induction_on_children {P : Schema → Prop} (boolean : ∀ value, P (.boolean value))
    (object : ∀ o : ObjectSchema Schema, (∀ child ∈ o.children, P child.2) → P (.object o))
    (s : Schema) : P s := by
  induction hn : s.depth using Nat.strongRecOn generalizing s with
  | ind n ih =>
    cases s with
    | boolean value => exact boolean value
    | object o =>
      refine object o fun child hchild => ih child.2.depth ?_ child.2 rfl
      exact hn ▸ depth_lt_of_mem_children hchild

end Schema

end Draft6
