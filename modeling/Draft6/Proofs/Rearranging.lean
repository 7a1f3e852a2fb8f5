import Draft6.Proofs.Places
import Draft6.Proofs.Reordering

/-!
# Schema objects whose named parts stand in another order

Some parts of a schema object have names: the schemas of members, of patterns and of definitions, what
members demand, and the unknown keywords. Two schema objects are rearranged when these parts come in
another order, with sub-schemas that answer to each other. Parts without names stay in their order.
The values of `enum` and `const` may have their own members in another order.

What only describes a schema is not compared.
-/

namespace Draft6

/-- Whether two named things have one name and answer to each other. -/
def Paired {κ α β : Type} (R : α → β → Prop) (a : κ × α) (b : κ × β) : Prop := a.1 = b.1 ∧ R a.2 b.2

section Lists

variable {κ α β γ δ : Type} {loose : Bool} {R : α → β → Prop} {S : γ → δ → Prop}

/-- Lists that are alike stay so behind answering first elements. -/
theorem Alike.cons {a : α} {b : β} {xs : List α} {ys : List β} (h : R a b) (hrest : Alike loose R xs ys) :
    Alike loose R (a :: xs) (b :: ys) := (alike_singleton h).append hrest

/-- What lists that are alike are turned into is alike. -/
theorem Alike.map {xs : List α} {ys : List β} (h : Alike loose R xs ys) {f : α → γ} {g : β → δ}
    (hfg : ∀ a b, R a b → S (f a) (g b)) : Alike loose S (xs.map f) (ys.map g) := by
  rw [List.map_eq_flatMap, List.map_eq_flatMap]
  exact h.flatMap fun a b hab => alike_singleton (hfg a b hab)

/-- What named things that are alike are turned into under their names is alike. -/
theorem Alike.mapPaired {xs : List (κ × α)} {ys : List (κ × β)} (h : Alike loose (Paired R) xs ys)
    {f : κ → α → γ} {g : κ → β → δ} (hfg : ∀ k a b, R a b → S (f k a) (g k b)) :
    Alike loose (Paired S) (xs.map fun (k, a) => (k, f k a)) (ys.map fun (k, b) => (k, g k b)) := by
  refine h.map fun entry entry' hpair => ?_
  obtain ⟨k, a⟩ := entry
  obtain ⟨_, b⟩ := entry'
  obtain ⟨rfl, hab⟩ := hpair
  exact ⟨rfl, hfg k a b hab⟩

/-- What answering elements are turned into at their positions answers to each other. -/
theorem forall₂_mapIdx {xs : List α} {ys : List β} (h : List.Forall₂ R xs ys) {f : Nat → α → γ}
    {g : Nat → β → δ} (hfg : ∀ i a b, R a b → S (f i a) (g i b)) :
    List.Forall₂ S (xs.mapIdx f) (ys.mapIdx g) := by
  induction h generalizing f g with
  | nil => exact .nil
  | cons hfirst _ ih =>
    rw [List.mapIdx_cons, List.mapIdx_cons]
    exact .cons (hfg 0 _ _ hfirst) (ih fun i => hfg (i + 1))

/-- What options that answer to each other are turned into answers to each other. -/
theorem rel_map {a : Option α} {b : Option β} (h : Option.Rel R a b) {f : α → γ} {g : β → δ}
    (hfg : ∀ a b, R a b → S (f a) (g b)) : Option.Rel S (a.map f) (b.map g) := by
  cases h with
  | none => exact .none
  | some h => exact .some (hfg _ _ h)

/-- Options that answer to each other are both absent or both not. -/
theorem isNone_eq_of_rel {a : Option α} {b : Option β} (h : Option.Rel R a b) :
    a.isNone = b.isNone := by
  cases h <;> rfl

/-- The lists of options that are alike are alike, where none stands for an empty one. -/
theorem alike_getD {xs : Option (List α)} {ys : Option (List β)} (h : Option.Rel (Alike loose R) xs ys) :
    Alike loose R (xs.getD []) (ys.getD []) := by
  cases h with
  | none => exact alike_nil
  | some h => exact h

/-- The lists of options that answer to each other do so, where none stands for an empty one. -/
theorem forall₂_getD {xs : Option (List α)} {ys : Option (List β)} (h : Option.Rel (List.Forall₂ R) xs ys) :
    List.Forall₂ R (xs.getD []) (ys.getD []) := by
  cases h with
  | none => exact .nil
  | some h => exact h

/-- Named things that answer to each other one by one have the same names. -/
theorem map_fst_eq {xs : List (κ × α)} {ys : List (κ × β)} (h : List.Forall₂ (Paired R) xs ys) :
    xs.map Prod.fst = ys.map Prod.fst := by
  rw [← List.forall₂_eq_eq_eq, List.forall₂_map_left_iff, List.forall₂_map_right_iff]
  exact h.imp fun _ _ hpair => hpair.1

/-- Named things that are alike have the same names in some order. -/
theorem Alike.perm_names {xs : List (κ × α)} {ys : List (κ × β)} (h : Alike true (Paired R) xs ys) :
    (xs.map Prod.fst).Perm (ys.map Prod.fst) := by
  obtain ⟨zs, hrelated, hshuffled⟩ := h
  rw [map_fst_eq hrelated]
  exact List.Perm.map Prod.fst hshuffled

/-- Where no name is repeated, a name leads to answering things in lists that are alike. -/
theorem rel_lookup {xs : List (String × α)} {ys : List (String × β)}
    (hnames : (xs.map Prod.fst).Nodup) (h : Alike true (Paired R) xs ys) (name : String) :
    Option.Rel R (xs.lookup name) (ys.lookup name) := by
  obtain ⟨zs, hrelated, hshuffled⟩ := h
  rw [← Json.lookup_eq_of_perm (map_fst_eq hrelated ▸ hnames) hshuffled name]
  clear hnames hshuffled
  induction hrelated with
  | nil => exact .none
  | @cons x z _ _ hfirst _ ih =>
    rw [List.lookup_cons, List.lookup_cons, hfirst.1]
    cases name == z.1 with
    | true => exact .some hfirst.2
    | false => exact ih

end Lists

/-- Whether the schemas for elements answer to each other. -/
inductive Items.Rel {σ τ : Type} (R : σ → τ → Prop) : Items σ → Items τ → Prop
  | all {s : σ} {t : τ} (h : R s t) : Rel R (.all s) (.all t)
  | each {schemas : List σ} {schemas' : List τ} (h : List.Forall₂ R schemas schemas') :
      Rel R (.each schemas) (.each schemas')

/-- Whether the demands of a member answer to each other. -/
inductive Dependency.Rel {σ τ : Type} (R : σ → τ → Prop) : Dependency σ → Dependency τ → Prop
  | names (required : List String) : Rel R (.names required) (.names required)
  | schema {s : σ} {t : τ} (h : R s t) : Rel R (.schema s) (.schema t)

section Sub

variable {σ τ υ φ : Type} {R : σ → τ → Prop} {S : υ → φ → Prop} {f : List String → σ → υ}
  {g : List String → τ → φ}

/-- Schemas for elements still answer to each other when answering things take their places. -/
theorem Items.Rel.mapPath {items : Items σ} {items' : Items τ} (h : Items.Rel R items items')
    (hfg : ∀ segments s t, R s t → S (f segments s) (g segments t)) :
    Items.Rel S (items.mapPath f) (items'.mapPath g) := by
  cases h with
  | all hs => exact .all (hfg _ _ _ hs)
  | each hs => exact .each (forall₂_mapIdx hs fun _ => hfg _)

/-- Demands of a member still answer to each other when answering things take the places of schemas. -/
theorem Dependency.Rel.mapPath {d : Dependency σ} {d' : Dependency τ} (h : Dependency.Rel R d d')
    (hfg : ∀ segments s t, R s t → S (f segments s) (g segments t)) {trigger : String} :
    Dependency.Rel S (d.mapPath f trigger) (d'.mapPath g trigger) := by
  cases h with
  | names required => exact .names required
  | schema hs => exact .schema (hfg _ _ _ hs)

end Sub

namespace ObjectSchema

/-- Whether two schema objects differ in the order of named parts, with sub-schemas that answer to each
other. No member has two schemas of its own. -/
structure Rearranged {σ τ : Type} (R : σ → τ → Prop) (o : ObjectSchema σ) (o' : ObjectSchema τ) :
    Prop where
  id : o.id = o'.id
  ref : o.ref = o'.ref
  type : o.type = o'.type
  enum : Option.Rel (List.Forall₂ Json.Reordered) o.enum o'.enum
  const : Option.Rel Json.Reordered o.const o'.const
  numbers : o.numbers = o'.numbers
  strings : o.strings = o'.strings
  arrays : o.arrays = o'.arrays
  objects : o.objects = o'.objects
  items : Option.Rel (Items.Rel R) o.items o'.items
  additionalItems : Option.Rel R o.additionalItems o'.additionalItems
  contains : Option.Rel R o.contains o'.contains
  properties : Option.Rel (Alike true (Paired R)) o.properties o'.properties
  memberNames : ((o.properties.getD []).map Prod.fst).Nodup
  patternProperties : Option.Rel (Alike true (Paired R)) o.patternProperties o'.patternProperties
  additionalProperties : Option.Rel R o.additionalProperties o'.additionalProperties
  dependencies : Option.Rel (Alike true (Paired (Dependency.Rel R))) o.dependencies o'.dependencies
  propertyNames : Option.Rel R o.propertyNames o'.propertyNames
  allOf : Option.Rel (List.Forall₂ R) o.allOf o'.allOf
  anyOf : Option.Rel (List.Forall₂ R) o.anyOf o'.anyOf
  oneOf : Option.Rel (List.Forall₂ R) o.oneOf o'.oneOf
  not : Option.Rel R o.not o'.not
  definitions : Option.Rel (Alike true (Paired R)) o.definitions o'.definitions
  extra : Alike true (Paired R) o.extra o'.extra

variable {σ τ υ φ : Type} {R : σ → τ → Prop} {S : υ → φ → Prop} {o : ObjectSchema σ}
  {o' : ObjectSchema τ}

/-- Nothing is rearranged in schema objects without keywords. -/
theorem rearranged_empty : Rearranged R {} {} where
  id := rfl
  ref := rfl
  type := rfl
  enum := .none
  const := .none
  numbers := rfl
  strings := rfl
  arrays := rfl
  objects := rfl
  items := .none
  additionalItems := .none
  contains := .none
  properties := .none
  memberNames := List.nodup_nil
  patternProperties := .none
  additionalProperties := .none
  dependencies := .none
  propertyNames := .none
  allOf := .none
  anyOf := .none
  oneOf := .none
  not := .none
  definitions := .none
  extra := alike_nil

/-- Schema objects that are put together from rearranged sources are rearranged. -/
theorem rearranged_gather {pick : Keyword → ObjectSchema σ} {pick' : Keyword → ObjectSchema τ}
    {extra : List (String × σ)} {extra' : List (String × τ)}
    (hpick : ∀ k, Rearranged R (pick k) (pick' k)) (hextra : Alike true (Paired R) extra extra') :
    Rearranged R (gather pick extra) (gather pick' extra') where
  id := (hpick .id).id
  ref := (hpick .ref).ref
  type := (hpick .type).type
  enum := (hpick .enum).enum
  const := (hpick .const).const
  numbers := by simp only [gather, fun k => (hpick k).numbers]
  strings := by simp only [gather, fun k => (hpick k).strings]
  arrays := by simp only [gather, fun k => (hpick k).arrays]
  objects := by simp only [gather, fun k => (hpick k).objects]
  items := (hpick .items).items
  additionalItems := (hpick .additionalItems).additionalItems
  contains := (hpick .contains).contains
  properties := (hpick .properties).properties
  memberNames := (hpick .properties).memberNames
  patternProperties := (hpick .patternProperties).patternProperties
  additionalProperties := (hpick .additionalProperties).additionalProperties
  dependencies := (hpick .dependencies).dependencies
  propertyNames := (hpick .propertyNames).propertyNames
  allOf := (hpick .allOf).allOf
  anyOf := (hpick .anyOf).anyOf
  oneOf := (hpick .oneOf).oneOf
  not := (hpick .not).not
  definitions := (hpick .definitions).definitions
  extra := hextra

/-- Rearranged schema objects stay so when answering things take the places of their sub-schemas. -/
theorem Rearranged.mapPath (h : Rearranged R o o') {f : List String → σ → υ} {g : List String → τ → φ}
    (hfg : ∀ segments s t, R s t → S (f segments s) (g segments t)) :
    Rearranged S (o.mapPath f) (o'.mapPath g) where
  id := h.id
  ref := h.ref
  type := h.type
  enum := h.enum
  const := h.const
  numbers := h.numbers
  strings := h.strings
  arrays := h.arrays
  objects := h.objects
  items := rel_map h.items fun _ _ hitems => hitems.mapPath hfg
  additionalItems := rel_map h.additionalItems (hfg _)
  contains := rel_map h.contains (hfg _)
  properties := rel_map h.properties fun _ _ hs =>
    hs.mapPaired fun name => hfg [Keyword.properties.name, name]
  memberNames := by
    have hnames := h.memberNames
    rw [ObjectSchema.mapPath]
    cases hproperties : o.properties with
    | none => exact List.nodup_nil
    | some schemas =>
      rw [hproperties] at hnames
      simpa [mapNamed, Function.comp_def] using hnames
  patternProperties := rel_map h.patternProperties fun _ _ hs =>
    hs.mapPaired fun p => hfg [Keyword.patternProperties.name, p.source]
  additionalProperties := rel_map h.additionalProperties (hfg _)
  dependencies := rel_map h.dependencies fun _ _ hs =>
    hs.mapPaired fun _ _ _ hd => hd.mapPath hfg
  propertyNames := rel_map h.propertyNames (hfg _)
  allOf := rel_map h.allOf fun _ _ hs => forall₂_mapIdx hs fun _ => hfg _
  anyOf := rel_map h.anyOf fun _ _ hs => forall₂_mapIdx hs fun _ => hfg _
  oneOf := rel_map h.oneOf fun _ _ hs => forall₂_mapIdx hs fun _ => hfg _
  not := rel_map h.not (hfg _)
  definitions := rel_map h.definitions fun _ _ hs =>
    hs.mapPaired fun name => hfg [Keyword.definitions.name, name]
  extra := h.extra.mapPaired fun name => hfg [name]

/-! ## Sub-schemas -/

/-- One schema under a keyword answers to the other. -/
theorem alike_single {s : Option σ} {t : Option τ} (h : Option.Rel R s t) :
    Alike true (Paired R) (single s) (single t) := by
  cases h with
  | none => exact alike_nil
  | some h => exact alike_singleton ⟨rfl, h⟩

/-- Schemas with positions answer to each other. -/
theorem alike_listed {schemas : List σ} {schemas' : List τ} (h : List.Forall₂ R schemas schemas') :
    Alike true (Paired R) (listed schemas) (listed schemas') :=
  alike_of_forall₂ (forall₂_mapIdx h fun _ _ _ hs => ⟨rfl, hs⟩)

/-- Schemas with names answer to each other. -/
theorem alike_named {κ : Type} (key : κ → String) {entries : List (κ × σ)} {entries' : List (κ × τ)}
    (h : Alike true (Paired R) entries entries') :
    Alike true (Paired R) (named key entries) (named key entries') :=
  h.map fun _ _ hpair => ⟨congrArg (fun k => [key k]) hpair.1, hpair.2⟩

/-- Schemas for elements answer to each other with their positions. -/
theorem alike_itemParts {items : Option (Items σ)} {items' : Option (Items τ)}
    (h : Option.Rel (Items.Rel R) items items') :
    Alike true (Paired R) (itemParts items) (itemParts items') := by
  cases h with
  | none => exact alike_nil
  | some h =>
    cases h with
    | all hs => exact alike_single (.some hs)
    | each hs => exact alike_listed hs

/-- The schemas that members demand answer to each other. -/
theorem alike_dependencyParts {entries : List (String × Dependency σ)}
    {entries' : List (String × Dependency τ)}
    (h : Alike true (Paired (Dependency.Rel R)) entries entries') :
    Alike true (Paired R) (dependencyParts entries) (dependencyParts entries') := by
  refine h.flatMap fun entry entry' hpair => ?_
  obtain ⟨trigger, d⟩ := entry
  obtain ⟨_, d'⟩ := entry'
  obtain ⟨rfl, hd⟩ := hpair
  cases hd with
  | names => exact alike_nil
  | schema hs => exact alike_singleton ⟨rfl, hs⟩

/-- The sub-schemas under a keyword of rearranged schema objects answer to each other. -/
theorem Rearranged.parts (h : Rearranged R o o') (k : Keyword) :
    Alike true (Paired R) (o.parts k) (o'.parts k) := by
  cases k
  case definitions => exact alike_named (fun name => name) (alike_getD h.definitions)
  case properties => exact alike_named (fun name => name) (alike_getD h.properties)
  case patternProperties => exact alike_named _ (alike_getD h.patternProperties)
  case items => exact alike_itemParts h.items
  case additionalItems => exact alike_single h.additionalItems
  case contains => exact alike_single h.contains
  case additionalProperties => exact alike_single h.additionalProperties
  case propertyNames => exact alike_single h.propertyNames
  case not => exact alike_single h.not
  case dependencies => exact alike_dependencyParts (alike_getD h.dependencies)
  case allOf => exact alike_listed (forall₂_getD h.allOf)
  case anyOf => exact alike_listed (forall₂_getD h.anyOf)
  case oneOf => exact alike_listed (forall₂_getD h.oneOf)
  all_goals exact alike_nil

/-- The sub-schemas of rearranged schema objects answer to each other, in some order. -/
theorem Rearranged.children (h : Rearranged R o o') :
    Alike true (Paired R) o.children o'.children := by
  rw [children_eq_branches, children_eq_branches, branches, branches, List.flatMap_append,
    List.flatMap_append, List.flatMap_map, List.flatMap_map, List.flatMap_map, List.flatMap_map]
  refine Alike.append (alike_flatMap fun k _ => ?_) (h.extra.flatMap fun entry entry' hpair => ?_)
  · exact (h.parts k).map fun _ _ hpair => ⟨congrArg (List.cons k.name) hpair.1, hpair.2⟩
  · exact alike_singleton ⟨congrArg (fun name => [name]) hpair.1, hpair.2⟩

end ObjectSchema

end Draft6
