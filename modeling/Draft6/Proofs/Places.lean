import Draft6.Proofs.Documents
import Draft6.Proofs.PointerParts
import Draft6.Proofs.RoundTrip

/-!
# Places in decoded documents

No two schemas in a decoded document stand at the same place. Below a schema object, each keyword has a
name of its own, and the sub-schemas of one keyword are told apart by positions or by member names,
which a document does not repeat. So no sub-schema stands on the way to another, and neither do the
schemas below them.
-/

namespace Draft6

/-- Whether neither of two ways leads to the other. -/
def Apart (p q : List String) : Prop := ¬ p <+: q ∧ ¬ q <+: p

/-- Ways that begin differently are apart. -/
theorem apart_of_ne {name name' : String} (h : name ≠ name') (p q : List String) :
    Apart (name :: p) (name' :: q) :=
  ⟨fun hprefix => h (List.cons_prefix_cons.mp hprefix).1,
    fun hprefix => h (List.cons_prefix_cons.mp hprefix).1.symm⟩

/-- Ways that part later are apart. -/
theorem Apart.cons {p q : List String} (h : Apart p q) (name : String) :
    Apart (name :: p) (name :: q) :=
  ⟨fun hprefix => h.1 (List.cons_prefix_cons.mp hprefix).2,
    fun hprefix => h.2 (List.cons_prefix_cons.mp hprefix).2⟩

/-- Ways that are apart do not come together again. -/
theorem Apart.append_ne {p q : List String} (h : Apart p q) (p' q' : List String) :
    p ++ p' ≠ q ++ q' := fun heq =>
  (List.prefix_or_prefix_of_prefix (List.prefix_append p p') (heq ▸ List.prefix_append q q')).elim
    h.1 h.2

/-- Different positions are written differently. -/
theorem toString_inj {i j : Nat} (h : toString i = toString j) : i = j := by
  have hdigits := congrArg String.toList h
  rw [Nat.toString_eq_ofList_toDigits, Nat.toString_eq_ofList_toDigits, String.toList_ofList,
    String.toList_ofList] at hdigits
  rw [← Nat.ofDigitChars_ten_toDigits (n := i), hdigits, Nat.ofDigitChars_ten_toDigits]

namespace ObjectSchema

variable {σ τ : Type}

/-! ## The sub-schemas under each keyword -/

/-- The schema under a keyword that holds one. -/
def single (s : Option σ) : List (List String × σ) := s.toList.map fun s => ([], s)

/-- The schemas under a keyword that holds a list, with their positions. -/
def listed (schemas : List σ) : List (List String × σ) :=
  schemas.mapIdx fun i s => ([toString i], s)

/-- The schemas under a keyword that holds an object, with their names. -/
def named {κ : Type} (key : κ → String) (entries : List (κ × σ)) : List (List String × σ) :=
  entries.map fun entry => ([key entry.1], entry.2)

/-- The schemas for elements, with their positions if they have any. -/
def itemParts (items : Option (Items σ)) : List (List String × σ) :=
  match items with
  | none => []
  | some (.all s) => single (some s)
  | some (.each schemas) => listed schemas

/-- The schemas that members demand, with the names of these members. -/
def dependencyParts (entries : List (String × Dependency σ)) : List (List String × σ) :=
  entries.flatMap fun entry => entry.2.toList.map fun s => ([entry.1], s)

/-- The sub-schemas under a keyword, with the rest of the way to them. -/
def parts (o : ObjectSchema σ) : Keyword → List (List String × σ)
  | .definitions => named (fun name => name) (o.definitions.getD [])
  | .items => itemParts o.items
  | .additionalItems => single o.additionalItems
  | .contains => single o.contains
  | .properties => named (fun name => name) (o.properties.getD [])
  | .patternProperties => named Pattern.source (o.patternProperties.getD [])
  | .additionalProperties => single o.additionalProperties
  | .dependencies => dependencyParts (o.dependencies.getD [])
  | .propertyNames => single o.propertyNames
  | .allOf => listed (o.allOf.getD [])
  | .anyOf => listed (o.anyOf.getD [])
  | .oneOf => listed (o.oneOf.getD [])
  | .not => single o.not
  | _ => []

/-- The keywords that hold sub-schemas, in the order in which the sub-schemas are listed. -/
def holders : List Keyword :=
  [.definitions, .items, .additionalItems, .contains, .properties, .patternProperties,
    .additionalProperties, .dependencies, .propertyNames, .allOf, .anyOf, .oneOf, .not]

/-- The sub-schemas under each name, with the rest of the way to them. -/
def branches (o : ObjectSchema σ) : List (String × List (List String × σ)) :=
  holders.map (fun k => (k.name, o.parts k))
    ++ o.extra.map fun entry => (entry.1, single (some entry.2))

/-- The sub-schemas of a schema object are those under its keywords. -/
theorem children_eq_branches (o : ObjectSchema σ) :
    o.children = o.branches.flatMap fun branch =>
      branch.2.map fun part => (branch.1 :: part.1, part.2) := by
  have hsingle (s : Option σ) (k : Keyword) : (s.map (Prod.mk [k.name])).toList =
      (single s).map fun part => (k.name :: part.1, part.2) := by
    cases s <;> rfl
  have hlisted (s : Option (List σ)) (k : Keyword) : (s.map (mapList Prod.mk k)).getD [] =
      (listed (s.getD [])).map fun part => (k.name :: part.1, part.2) := by
    cases s with
    | none => rfl
    | some schemas => exact List.ext_getElem (by simp [mapList, listed]) (by simp [mapList, listed])
  have hnamed {κ : Type} (key : κ → String) (s : Option (List (κ × σ))) (k : Keyword) :
      ((s.map (List.map fun entry => (entry.1, ([k.name, key entry.1], entry.2)))).getD []).map
        Prod.snd = (named key (s.getD [])).map fun part => (k.name :: part.1, part.2) := by
    cases s <;> simp [named]
  have hitems : ((o.items.map (Items.mapPath Prod.mk)).map Items.toList).getD [] =
      (itemParts o.items).map fun part => (Keyword.items.name :: part.1, part.2) := by
    rcases o.items with _ | (s | schemas)
    · rfl
    · rfl
    · exact List.ext_getElem (by simp [Items.mapPath, Items.toList, itemParts, listed])
        (by simp [Items.mapPath, Items.toList, itemParts, listed])
  have hdependencies : ((o.dependencies.map (List.map fun entry =>
      (entry.1, entry.2.mapPath Prod.mk entry.1))).getD []).flatMap (fun entry => entry.2.toList) =
        (dependencyParts (o.dependencies.getD [])).map fun part =>
          (Keyword.dependencies.name :: part.1, part.2) := by
    cases o.dependencies with
    | none => rfl
    | some entries =>
      simp only [Option.map_some, Option.getD_some, dependencyParts, List.flatMap_map,
        List.map_flatMap]
      refine List.flatMap_congr fun entry _ => ?_
      cases entry.2 <;> rfl
  have hextra : (o.extra.map fun entry => (entry.1, ([entry.1], entry.2))).map Prod.snd =
      (o.extra.map fun entry => (entry.1, single (some entry.2))).flatMap fun branch =>
        branch.2.map fun part => (branch.1 :: part.1, part.2) := by
    rw [List.map_map, List.flatMap_map]
    exact List.map_eq_flatMap
  rw [children, toList, branches, List.flatMap_append, ← hextra]
  simp only [holders, parts, List.map_cons, List.map_nil, List.flatMap_cons, List.flatMap_nil,
    List.append_nil, ← hsingle, ← hlisted, ← hnamed, ← hitems, ← hdependencies, List.append_assoc]
  rfl

/-! ## Names that are not repeated -/

/-- Whether the sub-schemas of a schema object have names of their own: no keyword repeats a name, and
what counts as an unknown keyword is none of the known ones. -/
structure NamesOnce (o : ObjectSchema σ) : Prop where
  definitions : ((o.definitions.getD []).map Prod.fst).Nodup
  properties : ((o.properties.getD []).map Prod.fst).Nodup
  patterns : ((o.patternProperties.getD []).map fun entry => entry.1.source).Nodup
  dependencies : ((o.dependencies.getD []).map Prod.fst).Nodup
  extra : (o.extra.map Prod.fst).Nodup
  unknown : ∀ entry ∈ o.extra, Keyword.ofName? entry.1 = none

/-- One schema under a keyword is not in its own way. -/
theorem pairwise_single (s : Option σ) : (single s).Pairwise fun a b => Apart a.1 b.1 := by
  cases s with
  | none => exact List.Pairwise.nil
  | some s => exact List.pairwise_singleton _ _

/-- Schemas with positions are not in the way of one another. -/
theorem pairwise_listed (schemas : List σ) :
    (listed schemas).Pairwise fun a b => Apart a.1 b.1 := by
  refine List.pairwise_iff_getElem.mpr fun i j hi hj hij => ?_
  simp only [listed, List.getElem_mapIdx]
  exact apart_of_ne (fun heq => Nat.ne_of_lt hij (toString_inj heq)) [] []

/-- Schemas with distinct names are not in the way of one another. -/
theorem pairwise_named {κ : Type} (key : κ → String) {entries : List (κ × σ)}
    (h : (entries.map fun entry => key entry.1).Nodup) :
    (named key entries).Pairwise fun a b => Apart a.1 b.1 :=
  List.pairwise_map.mpr ((List.pairwise_map.mp h).imp fun hne => apart_of_ne hne [] [])

/-- Schemas for elements are not in the way of one another. -/
theorem pairwise_itemParts (items : Option (Items σ)) :
    (itemParts items).Pairwise fun a b => Apart a.1 b.1 := by
  rcases items with _ | (s | schemas)
  · exact List.Pairwise.nil
  · exact pairwise_single _
  · exact pairwise_listed schemas

/-- Schemas that different members demand are not in the way of one another. -/
theorem pairwise_dependencyParts {entries : List (String × Dependency σ)}
    (h : (entries.map Prod.fst).Nodup) :
    (dependencyParts entries).Pairwise fun a b => Apart a.1 b.1 := by
  refine List.pairwise_flatMap.mpr ⟨fun entry _ => ?_, (List.pairwise_map.mp h).imp ?_⟩
  · cases entry.2 with
    | names required => exact List.Pairwise.nil
    | schema s => exact List.pairwise_singleton _ _
  · intro entry entry' hne a ha b hb
    obtain ⟨_, _, rfl⟩ := List.mem_map.mp ha
    obtain ⟨_, _, rfl⟩ := List.mem_map.mp hb
    exact apart_of_ne hne [] []

/-- The schemas under one keyword are not in the way of one another when names are not repeated. -/
theorem NamesOnce.pairwise_parts {o : ObjectSchema σ} (h : o.NamesOnce) (k : Keyword) :
    (o.parts k).Pairwise fun a b => Apart a.1 b.1 := by
  cases k
  case definitions => exact pairwise_named (fun name => name) h.definitions
  case items => exact pairwise_itemParts _
  case properties => exact pairwise_named (fun name => name) h.properties
  case patternProperties => exact pairwise_named Pattern.source h.patterns
  case dependencies => exact pairwise_dependencyParts h.dependencies
  case additionalItems | contains | additionalProperties | propertyNames | not =>
    exact pairwise_single _
  case allOf | anyOf | oneOf => exact pairwise_listed _
  all_goals exact List.Pairwise.nil

/-- No unknown keyword has the name of a known one. -/
theorem NamesOnce.name_ne {o : ObjectSchema σ} (h : o.NamesOnce) (k : Keyword) {entry : String × σ}
    (hentry : entry ∈ o.extra) : k.name ≠ entry.1 := by
  intro heq
  have hunknown := h.unknown entry hentry
  rw [← heq, ofName?_name] at hunknown
  cases hunknown

/-- No sub-schema of a schema object is in the way of another when names are not repeated. -/
theorem NamesOnce.pairwise_children {o : ObjectSchema σ} (h : o.NamesOnce) :
    o.children.Pairwise fun a b => Apart a.1 b.1 := by
  have hinside : ∀ branch ∈ o.branches, branch.2.Pairwise fun a b => Apart a.1 b.1 := by
    intro branch hbranch
    rcases List.mem_append.mp hbranch with hbranch | hbranch
    · obtain ⟨k, _, rfl⟩ := List.mem_map.mp hbranch
      exact h.pairwise_parts k
    · obtain ⟨entry, _, rfl⟩ := List.mem_map.mp hbranch
      exact pairwise_single _
  have hnames : (o.branches.map Prod.fst).Nodup := by
    rw [branches, List.map_append, List.map_map, List.map_map, List.nodup_append]
    refine ⟨(by decide : (holders.map Keyword.name).Nodup), h.extra, ?_⟩
    intro name hname name' hname' heq
    obtain ⟨k, _, rfl⟩ := List.mem_map.mp hname
    obtain ⟨entry, hentry, rfl⟩ := List.mem_map.mp hname'
    exact h.name_ne k hentry heq
  rw [children_eq_branches]
  refine List.pairwise_flatMap.mpr ⟨fun branch hbranch => ?_, (List.pairwise_map.mp hnames).imp ?_⟩
  · exact List.pairwise_map.mpr ((hinside branch hbranch).imp fun hapart => hapart.cons branch.1)
  · intro branch branch' hne a ha b hb
    obtain ⟨part, _, rfl⟩ := List.mem_map.mp ha
    obtain ⟨part', _, rfl⟩ := List.mem_map.mp hb
    exact apart_of_ne hne _ _

end ObjectSchema

namespace Schema

/-! ## Places in a schema -/

/-- Whether names are not repeated in any schema object of a schema. -/
inductive Orderly : Schema → Prop
  | boolean (value : Bool) : Orderly (.boolean value)
  | object (o : ObjectSchema Schema) (h : o.NamesOnce)
      (hchildren : ∀ child ∈ o.children, Orderly child.2) : Orderly (.object o)

/-- The schemas in a schema stand below it. -/
theorem exists_way_of_mem_entriesBy {scope? : Joining} {s : Schema} {document : Url} {place : Place}
    {around : Resource} {entry : Entry} (h : entry ∈ s.entriesBy scope? document place around) :
    ∃ way, entry.node.place.pointer = place.pointer ++ ⟨way⟩ := by
  induction s using induction_on_children generalizing place around with
  | boolean value =>
    rw [List.mem_singleton.mp h]
    exact ⟨[], congrArg Pointer.mk (List.append_nil _).symm⟩
  | object o ih =>
    rw [entriesBy_object] at h
    rcases List.mem_cons.mp h with rfl | h
    · exact ⟨[], congrArg Pointer.mk (List.append_nil _).symm⟩
    · obtain ⟨child, hchild, h⟩ := List.mem_flatMap.mp h
      obtain ⟨way, hway⟩ := ih child hchild h
      exact ⟨child.1 ++ way, hway.trans (congrArg Pointer.mk (List.append_assoc _ _ _))⟩

/-- Where names are not repeated, the pointers of the entries differ, wherever the schema stands and
whatever is in effect there. -/
theorem Orderly.nodup_pointers {s : Schema} (h : s.Orderly) (scope? : Joining) (document : Url)
    (place : Place) (around : Resource) :
    ((s.entriesBy scope? document place around).map fun entry => entry.node.place.pointer).Nodup := by
  induction h generalizing place around with
  | boolean value => exact List.nodup_singleton _
  | object o h hchildren ih =>
    rw [entriesBy_object, List.map_cons, List.map_flatMap, List.nodup_cons, List.nodup_flatMap]
    refine ⟨fun hself => ?_, fun child hchild => ih child hchild _ _, ?_⟩
    · obtain ⟨child, hchild, hself⟩ := List.mem_flatMap.mp hself
      obtain ⟨entry, hentry, heq⟩ := List.mem_map.mp hself
      obtain ⟨way, hway⟩ := exists_way_of_mem_entriesBy hentry
      have hsegments : (place.pointer.segments ++ child.1) ++ way = place.pointer.segments :=
        congrArg Pointer.segments (hway.symm.trans heq)
      rw [List.append_assoc, List.append_right_eq_self, List.append_eq_nil_iff] at hsegments
      exact ObjectSchema.ne_nil_of_mem_children hchild hsegments.1
    · refine h.pairwise_children.imp fun {child child'} hapart => ?_
      intro pointer hpointer hpointer'
      obtain ⟨entry, hentry, rfl⟩ := List.mem_map.mp hpointer
      obtain ⟨entry', hentry', heq⟩ := List.mem_map.mp hpointer'
      obtain ⟨way, hway⟩ := exists_way_of_mem_entriesBy hentry
      obtain ⟨way', hway'⟩ := exists_way_of_mem_entriesBy hentry'
      have hsegments : (place.pointer.segments ++ child'.1) ++ way' =
          (place.pointer.segments ++ child.1) ++ way :=
        congrArg Pointer.segments ((hway'.symm.trans heq).trans hway)
      rw [List.append_assoc, List.append_assoc, List.append_cancel_left_eq] at hsegments
      exact hapart.append_ne way way' hsegments.symm

/-- Where names are not repeated, no two schemas stand at one place. -/
theorem Orderly.separate {s : Schema} (h : s.Orderly) : s.Separate := by
  rw [Separate, pointers, nodes, List.map_map]
  exact h.nodup_pointers _ _ _ _

end Schema

/-! ## What is read from a document -/

open Decoded (below_eq_ok)

namespace Json

variable {κ α : Type} {item : Json → Decoded α}

/-- What is read from the elements of a list was read from the elements at the same positions. -/
theorem getElem?_of_readItems {start : Nat} {values : List Json} {xs : List α}
    (h : readItems item start values = .ok xs) {i : Nat} {x : α} (hx : xs[i]? = some x) :
    ∃ value, values[i]? = some value ∧ item value = .ok x := by
  induction values generalizing start xs i with
  | nil =>
    cases h
    cases hx
  | cons value rest ih =>
    obtain ⟨first, hfirst, h⟩ := bind_eq_ok.mp h
    obtain ⟨others, hothers, h⟩ := bind_eq_ok.mp h
    cases h
    cases i with
    | zero => exact ⟨value, rfl, Option.some.inj hx ▸ below_eq_ok.mp hfirst⟩
    | succ i => exact ih hothers hx

/-- What is read from the members of an object has their names in their order, and each value was read
from the member of its name. -/
theorem of_readMembers {name : String → Decoded κ} (key : κ → String)
    (hkey : ∀ s k, name s = .ok k → key k = s) {members : List (String × Json)}
    {entries : List (κ × α)} (h : readMembers name item members = .ok entries) :
    (entries.map fun entry => key entry.1) = members.map Prod.fst ∧
      ∀ entry ∈ entries, ∃ value, (key entry.1, value) ∈ members ∧ item value = .ok entry.2 := by
  induction members generalizing entries with
  | nil =>
    cases h
    exact ⟨rfl, nofun⟩
  | cons member rest ih =>
    obtain ⟨first, hfirst, h⟩ := bind_eq_ok.mp h
    obtain ⟨others, hothers, h⟩ := bind_eq_ok.mp h
    cases h
    obtain ⟨k, hk, hfirst⟩ := bind_eq_ok.mp (below_eq_ok.mp hfirst)
    obtain ⟨x, hx, hfirst⟩ := bind_eq_ok.mp hfirst
    cases hfirst
    obtain ⟨hnames, hvalues⟩ := ih hothers
    refine ⟨congrArg₂ List.cons (hkey _ _ hk) hnames, List.forall_mem_cons.mpr ⟨?_, ?_⟩⟩
    · exact ⟨member.2, hkey _ _ hk ▸ List.mem_cons_self, hx⟩
    · intro entry hentry
      obtain ⟨value, hvalue, hread⟩ := hvalues entry hentry
      exact ⟨value, List.mem_cons_of_mem _ hvalue, hread⟩

/-- A list is read from an array, each element from the part that its position leads to. -/
theorem of_asList {value : Json} {xs : List α} (h : asList item value = .ok xs) {i : Nat} {x : α}
    (hx : xs[i]? = some x) :
    ∃ part, Pointer.follow? [toString i] value = some part ∧ item part = .ok x := by
  obtain ⟨values, hvalues, h⟩ := bind_eq_ok.mp h
  cases value with
  | array items =>
    cases hvalues
    obtain ⟨part, hpart, hread⟩ := getElem?_of_readItems h hx
    exact ⟨part, Pointer.follow?_element hpart, hread⟩
  | null | bool | number | string | object => cases hvalues

/-- Values with keys are read from an object that repeats no name, so no two keys show as one text, and
the text of a key leads to what its value was read from. -/
theorem of_asObject {name : String → Decoded κ} (key : κ → String)
    (hkey : ∀ s k, name s = .ok k → key k = s) {value : Json} {members : List (String × Json)}
    (hmembers : value.asObject = .ok members) (hvalue : value.distinctNames = true)
    {entries : List (κ × α)} (h : readMembers name item members = .ok entries) :
    (entries.map fun entry => key entry.1).Nodup ∧ ∀ entry ∈ entries, ∃ part,
      Pointer.follow? [key entry.1] value = some part ∧ item part = .ok entry.2 := by
  cases value with
  | object members' =>
    cases hmembers
    obtain ⟨hnodup, _⟩ := distinctNames_object.mp hvalue
    obtain ⟨hnames, hvalues⟩ := of_readMembers key hkey h
    refine ⟨hnames ▸ hnodup, fun entry hentry => ?_⟩
    obtain ⟨part, hmember, hread⟩ := hvalues entry hentry
    exact ⟨part, Pointer.follow?_member hnodup hmember, hread⟩
  | null | bool | number | string | array => cases hmembers

/-- Named values are read from an object that repeats no name, so they have names of their own, which
lead to what they were read from. -/
theorem of_asNamed {value : Json} {entries : List (String × α)}
    (h : asNamed item value = .ok entries) (hvalue : value.distinctNames = true) :
    (entries.map Prod.fst).Nodup ∧ ∀ entry ∈ entries, ∃ part,
      Pointer.follow? [entry.1] value = some part ∧ item part = .ok entry.2 := by
  obtain ⟨members, hmembers, h⟩ := bind_eq_ok.mp h
  exact of_asObject (fun name => name) (fun _ _ hname => (Except.ok.inj hname).symm) hmembers hvalue h

end Json

namespace ObjectSchema

variable {σ : Type} {child : Json → Decoded σ}

/-- The schemas under a keyword were read from the parts that the rest of the way leads to. -/
theorem exists_part_of_decodeKeyword {k : Keyword} {value : Json} {p : ObjectSchema σ}
    (h : decodeKeyword child {} k value = .ok p) (hvalue : value.distinctNames = true)
    {below : List String × σ} (hbelow : below ∈ p.parts k) :
    ∃ part, Pointer.follow? below.1 value = some part ∧ child part = .ok below.2 := by
  cases k
  case items =>
    obtain ⟨items, hitems, h⟩ := bind_eq_ok.mp h
    cases h
    rw [decodeItems.eq_def] at hitems
    split at hitems
    · obtain ⟨schemas, hschemas, rfl⟩ := map_eq_ok.mp hitems
      obtain ⟨i, hi, rfl⟩ := List.mem_mapIdx.mp hbelow
      exact Json.of_asList hschemas (List.getElem?_eq_getElem hi)
    · obtain ⟨s, hs, rfl⟩ := map_eq_ok.mp hitems
      obtain rfl := List.mem_singleton.mp hbelow
      exact ⟨value, rfl, hs⟩
  case additionalItems | contains | additionalProperties | propertyNames | not =>
    obtain ⟨s, hs, h⟩ := bind_eq_ok.mp h
    cases h
    obtain rfl := List.mem_singleton.mp hbelow
    exact ⟨value, rfl, hs⟩
  case properties | definitions =>
    obtain ⟨entries, hentries, h⟩ := bind_eq_ok.mp h
    cases h
    obtain ⟨entry, hentry, rfl⟩ := List.mem_map.mp hbelow
    exact (Json.of_asNamed hentries hvalue).2 entry hentry
  case patternProperties =>
    obtain ⟨members, hmembers, h⟩ := bind_eq_ok.mp h
    obtain ⟨entries, hentries, h⟩ := bind_eq_ok.mp h
    cases h
    obtain ⟨entry, hentry, rfl⟩ := List.mem_map.mp hbelow
    exact (Json.of_asObject Pattern.source (fun _ _ => Pattern.source_of_decode) hmembers hvalue
      hentries).2 entry hentry
  case dependencies =>
    obtain ⟨entries, hentries, h⟩ := bind_eq_ok.mp h
    cases h
    obtain ⟨entry, hentry, hbelow⟩ := List.mem_flatMap.mp hbelow
    obtain ⟨s, hs, rfl⟩ := List.mem_map.mp hbelow
    obtain ⟨part, hpart, hread⟩ := (Json.of_asNamed hentries hvalue).2 entry hentry
    rw [decodeDependency.eq_def] at hread
    split at hread
    · obtain ⟨names, _, hnames⟩ := map_eq_ok.mp hread
      rw [← hnames] at hs
      cases hs
    · obtain ⟨s', hs', hschema⟩ := map_eq_ok.mp hread
      rw [← hschema] at hs
      obtain rfl := List.mem_singleton.mp hs
      exact ⟨part, hpart, hs'⟩
  case allOf | anyOf | oneOf =>
    obtain ⟨schemas, hschemas, h⟩ := bind_eq_ok.mp h
    cases h
    obtain ⟨i, hi, rfl⟩ := List.mem_mapIdx.mp hbelow
    exact Json.of_asList hschemas (List.getElem?_eq_getElem hi)
  all_goals cases hbelow

/-- The schemas under a keyword are those of the source that is picked for it. -/
theorem parts_gather (pick : Keyword → ObjectSchema σ) (extra : List (String × σ)) (k : Keyword) :
    (gather pick extra).parts k = (pick k).parts k := by
  cases k <;> rfl

/-- Nothing is under a keyword that is absent. -/
theorem parts_empty (k : Keyword) : ({} : ObjectSchema σ).parts k = [] := by
  cases k <;> rfl

/-- What is true of an empty source, and of all that is read for a keyword from members, is true of the
source of the keyword. -/
theorem IsRead.source {members : List (String × Json)} {pick : Keyword → ObjectSchema σ}
    {extra : List (String × σ)} (h : IsRead child members pick extra) {P : ObjectSchema σ → Prop}
    (k : Keyword) (hempty : P {})
    (hread : ∀ member ∈ members, (member.1 = k.name ∨ k = .id) →
      ∀ p, decodeKeyword child {} k member.2 = .ok p → P p) :
    P (pick k) := by
  rcases h.keywords k with hnone | ⟨member, hmember, hname, hp⟩
  · rw [hnone]
    exact hempty
  · exact hread member hmember hname _ hp

/-- A schema object that was decoded from members without repeated names repeats no names. -/
theorem namesOnce_of_decode {members : List (String × Json)} {o : ObjectSchema σ}
    (h : decode child members = .ok o) (hmembers : (Json.object members).distinctNames = true) :
    o.NamesOnce := by
  obtain ⟨hnodup, hvalues⟩ := Json.distinctNames_object.mp hmembers
  obtain ⟨pick, extra, hread, hnames, rfl⟩ := isRead_of_decode h
  constructor
  case definitions =>
    refine hread.source (P := fun p => ((p.definitions.getD []).map Prod.fst).Nodup) .definitions
      List.nodup_nil fun member hmember _ p hp => ?_
    obtain ⟨entries, hentries, hp⟩ := bind_eq_ok.mp hp
    cases hp
    exact (Json.of_asNamed hentries (hvalues member hmember)).1
  case properties =>
    refine hread.source (P := fun p => ((p.properties.getD []).map Prod.fst).Nodup) .properties
      List.nodup_nil fun member hmember _ p hp => ?_
    obtain ⟨entries, hentries, hp⟩ := bind_eq_ok.mp hp
    cases hp
    exact (Json.of_asNamed hentries (hvalues member hmember)).1
  case patterns =>
    refine hread.source (P := fun p => ((p.patternProperties.getD []).map fun entry =>
      entry.1.source).Nodup) .patternProperties List.nodup_nil fun member hmember _ p hp => ?_
    obtain ⟨inner, hinner, hp⟩ := bind_eq_ok.mp hp
    obtain ⟨entries, hentries, hp⟩ := bind_eq_ok.mp hp
    cases hp
    exact (Json.of_asObject Pattern.source (fun _ _ => Pattern.source_of_decode) hinner
      (hvalues member hmember) hentries).1
  case dependencies =>
    refine hread.source (P := fun p => ((p.dependencies.getD []).map Prod.fst).Nodup) .dependencies
      List.nodup_nil fun member hmember _ p hp => ?_
    obtain ⟨entries, hentries, hp⟩ := bind_eq_ok.mp hp
    cases hp
    exact (Json.of_asNamed hentries (hvalues member hmember)).1
  case extra => exact hnames.nodup hnodup
  case unknown => exact fun entry hentry => (hread.unknown entry hentry).1

/-- The sub-schemas of a schema object that was decoded from members without repeated names were read
from the parts of the object that the segments before them lead to. -/
theorem exists_part_of_decode {members : List (String × Json)} {o : ObjectSchema σ}
    (h : decode child members = .ok o) (hmembers : (Json.object members).distinctNames = true)
    {below : List String × σ} (hbelow : below ∈ o.children) :
    ∃ part, Pointer.follow? below.1 (.object members) = some part ∧ child part = .ok below.2 := by
  obtain ⟨hnodup, hvalues⟩ := Json.distinctNames_object.mp hmembers
  obtain ⟨pick, extra, hread, _, rfl⟩ := isRead_of_decode h
  rw [children_eq_branches] at hbelow
  obtain ⟨branch, hbranch, hbelow⟩ := List.mem_flatMap.mp hbelow
  obtain ⟨rest, hrest, rfl⟩ := List.mem_map.mp hbelow
  rcases List.mem_append.mp hbranch with hbranch | hbranch
  · obtain ⟨k, _, rfl⟩ := List.mem_map.mp hbranch
    refine hread.source (P := fun p => ∀ rest ∈ p.parts k, ∃ part, Pointer.follow? (k.name :: rest.1)
      (.object members) = some part ∧ child part = .ok rest.2) k ?_ ?_ rest
        (parts_gather pick extra k ▸ hrest)
    · rw [parts_empty]
      exact nofun
    · intro member hmember hname p hp rest hrest
      have hk : member.1 = k.name := hname.elim (fun heq => heq) fun hid => by
        rw [hid] at hrest
        cases hrest
      obtain ⟨part, hpart, hdecode⟩ :=
        exists_part_of_decodeKeyword hp (hvalues member hmember) hrest
      refine ⟨part, ?_, hdecode⟩
      rw [Pointer.follow?, ← hk, Pointer.child?_object hnodup hmember]
      exact hpart
  · obtain ⟨entry, hentry, rfl⟩ := List.mem_map.mp hbranch
    obtain rfl := List.mem_singleton.mp hrest
    obtain ⟨_, inner, hinner, hmember⟩ := hread.unknown entry hentry
    exact ⟨.object inner, Pointer.follow?_member hnodup hmember, hinner⟩

end ObjectSchema

namespace Schema

/-- In a schema that was decoded from a value without repeated member names, no names are repeated. -/
theorem orderly_of_decodeWithin {maximum levels : Nat} {value : Json} {s : Schema}
    (h : decodeWithin maximum levels value = .ok s) (hvalue : value.distinctNames = true) :
    s.Orderly := by
  induction levels generalizing value s with
  | zero => cases h
  | succ levels ih =>
    cases value with
    | null | number | string | array => cases h
    | bool answer =>
      cases h
      exact .boolean answer
    | object members =>
      obtain ⟨o, ho, rfl⟩ := map_eq_ok.mp h
      refine .object o (ObjectSchema.namesOnce_of_decode ho hvalue) fun child hchild => ?_
      obtain ⟨part, hpart, hread⟩ := ObjectSchema.exists_part_of_decode ho hvalue hchild
      exact ih hread (Pointer.distinctNames_of_follow? hpart hvalue)

/-- No two schemas in a decoded document stand at the same place. -/
theorem separate_of_decode {limits : Limits} {document : Json} {s : Schema}
    (h : decode limits document = .ok s) (hdocument : document.distinctNames = true) :
    s.Separate :=
  (orderly_of_decodeWithin h hdocument).separate

end Schema

/-- Decoded documents with names of their own are added once. -/
theorem addedOnce_of_decode {documents : List Document}
    (hnames : (documents.map Document.name).Nodup)
    (hdecode : ∀ d ∈ documents, ∃ (limits : Limits) (document : Json),
      document.distinctNames = true ∧ Schema.decode limits document = .ok d.root) :
    AddedOnce documents := by
  refine ⟨hnames, fun d hd => ?_⟩
  obtain ⟨limits, document, hdocument, hread⟩ := hdecode d hd
  exact Schema.separate_of_decode hread hdocument

end Draft6
