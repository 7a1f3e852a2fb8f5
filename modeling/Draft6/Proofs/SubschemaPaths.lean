import Draft6.Proofs.Places
import Draft6.Proofs.ReadingLimits

/-!
# Paths to sub-schemas

Steps from a schema to the listed sub-schemas lead to every schema inside, each by one route only. The
segments on a route are a pointer into the document that was decoded, where the sub-schema was read
from, and into the JSON form, where the sub-schema is written.

What is inside a schema is said once more without the list of sub-schemas: a slot is a keyword, or none
for the unknown keywords, and a position among the schemas under it.
-/

namespace Draft6

/-- A place for a sub-schema in a schema object: a keyword, or none for the unknown ones, and a position
among the schemas that are kept under it. -/
structure Slot where
  keyword? : Option Keyword
  position : Nat

namespace ObjectSchema

variable {σ τ : Type}

/-- What a slot holds, with the segments that lead to it. -/
def held? (o : ObjectSchema σ) (slot : Slot) : Option (List String × σ) :=
  match slot.keyword? with
  | some k => (o.parts k)[slot.position]?.map fun part => (k.name :: part.1, part.2)
  | none => (named (fun name => name) o.extra)[slot.position]?

/-- What a slot holds is listed. -/
theorem mem_children_of_held? {o : ObjectSchema σ} {slot : Slot} {below : List String × σ}
    (h : o.held? slot = some below) : below ∈ o.children := by
  rw [children_eq_branches, branches, List.flatMap_append, List.mem_append]
  obtain ⟨keyword?, position⟩ := slot
  cases keyword? with
  | some k =>
    obtain ⟨part, hpart, rfl⟩ := Option.map_eq_some_iff.mp h
    have hmem : part ∈ o.parts k := List.mem_of_getElem? hpart
    have hholder : k ∈ holders := by
      by_contra hnot
      have hnone : o.parts k = [] := by
        cases k <;> first | rfl | exact absurd (by decide) hnot
      rw [hnone] at hmem
      cases hmem
    exact .inl (List.mem_flatMap.mpr ⟨(k.name, o.parts k), List.mem_map_of_mem hholder,
      List.mem_map_of_mem hmem⟩)
  | none =>
    obtain ⟨entry, hentry, rfl⟩ := List.mem_map.mp (List.mem_of_getElem? h)
    exact .inr (List.mem_flatMap.mpr ⟨(entry.1, single (some entry.2)),
      List.mem_map_of_mem hentry, List.mem_singleton_self _⟩)

/-- What is at two positions of a list without pairs in the way of each other is apart. -/
theorem apart_of_getElem? {below : List (List String × σ)}
    (h : below.Pairwise fun a b => Apart a.1 b.1) {i j : Nat} (hij : i ≠ j) {a b : List String × σ}
    (ha : below[i]? = some a) (hb : below[j]? = some b) : Apart a.1 b.1 := by
  obtain ⟨hi, rfl⟩ := List.getElem?_eq_some_iff.mp ha
  obtain ⟨hj, rfl⟩ := List.getElem?_eq_some_iff.mp hb
  rw [List.pairwise_iff_getElem] at h
  rcases Nat.lt_or_gt_of_ne hij with hlt | hgt
  · exact h i j hi hj hlt
  · exact (h j i hj hi hgt).symm

/-- Different slots hold schemas that are not in the way of each other when names are not repeated. -/
theorem NamesOnce.apart_of_held? {o : ObjectSchema σ} (h : o.NamesOnce) {slot slot' : Slot}
    (hne : slot ≠ slot') {below below' : List String × σ} (hbelow : o.held? slot = some below)
    (hbelow' : o.held? slot' = some below') : Apart below.1 below'.1 := by
  obtain ⟨keyword?, i⟩ := slot
  obtain ⟨keyword?', j⟩ := slot'
  cases keyword? with
  | some k =>
    obtain ⟨part, hpart, rfl⟩ := Option.map_eq_some_iff.mp hbelow
    cases keyword?' with
    | some k' =>
      obtain ⟨part', hpart', rfl⟩ := Option.map_eq_some_iff.mp hbelow'
      by_cases hk : k = k'
      · subst hk
        have hij : i ≠ j := fun hij => hne (congrArg (Slot.mk (some k)) hij)
        exact (apart_of_getElem? (h.pairwise_parts k) hij hpart hpart').cons k.name
      · refine apart_of_ne (fun hname => hk ?_) _ _
        exact Option.some.inj ((ofName?_name k).symm.trans (hname ▸ ofName?_name k'))
    | none =>
      obtain ⟨entry, hentry, rfl⟩ := List.mem_map.mp (List.mem_of_getElem? hbelow')
      exact apart_of_ne (h.name_ne k hentry) _ _
  | none =>
    cases keyword?' with
    | some k' =>
      obtain ⟨entry, hentry, rfl⟩ := List.mem_map.mp (List.mem_of_getElem? hbelow)
      obtain ⟨part', _, rfl⟩ := Option.map_eq_some_iff.mp hbelow'
      exact apart_of_ne (h.name_ne k' hentry).symm _ _
    | none =>
      have hij : i ≠ j := fun hij => hne (congrArg (Slot.mk none) hij)
      exact apart_of_getElem? (pairwise_named (fun name => name) h.extra) hij hbelow hbelow'

/-! ## Where the JSON form of a sub-schema is -/

/-- Replacing sub-schemas keeps all names. -/
theorem NamesOnce.map {o : ObjectSchema σ} (h : o.NamesOnce) (f : σ → τ) : (o.map f).NamesOnce := by
  have hnamed (k : Keyword) (s : Option (List (String × σ))) :
      ((s.map (mapNamed (fun _ => f) k)).getD []).map Prod.fst = (s.getD []).map Prod.fst := by
    cases s <;> simp [mapNamed]
  constructor
  case definitions => exact hnamed .definitions o.definitions ▸ h.definitions
  case properties => exact hnamed .properties o.properties ▸ h.properties
  case patterns =>
    have hpatterns := h.patterns
    simp only [ObjectSchema.map, mapPath]
    cases hs : o.patternProperties <;> simp_all [Function.comp_def]
  case dependencies =>
    have hdependencies := h.dependencies
    simp only [ObjectSchema.map, mapPath]
    cases hs : o.dependencies <;> simp_all [Function.comp_def]
  case extra =>
    have hextra := h.extra
    simpa [ObjectSchema.map, mapPath, Function.comp_def] using hextra
  case unknown =>
    intro entry hentry
    obtain ⟨entry', hentry', rfl⟩ := List.mem_map.mp hentry
    exact h.unknown entry' hentry'

/-- No two members of the JSON form have one name. -/
theorem NamesOnce.nodup_members {o : ObjectSchema Json} (h : o.NamesOnce) :
    (o.members.map Prod.fst).Nodup := by
  have hkeywords (ks : List Keyword) :
      ((ks.flatMap fun k => member k (o.value? k)).map Prod.fst).Sublist
        (ks.map Keyword.name) := by
    induction ks with
    | nil => exact List.Sublist.refl _
    | cons k ks ih =>
      rw [List.flatMap_cons, List.map_append, List.map_cons]
      cases o.value? k with
      | none => exact ih.cons k.name
      | some value => exact ih.cons_cons k.name
  rw [members_eq, List.map_append, List.nodup_append]
  refine ⟨(hkeywords writingOrder).nodup (by decide), h.extra, ?_⟩
  intro name hname name' hname' heq
  obtain ⟨k, -, rfl⟩ := List.mem_map.mp ((hkeywords writingOrder).subset hname)
  obtain ⟨entry, hentry, rfl⟩ := List.mem_map.mp hname'
  exact h.name_ne k hentry heq

/-- What stands in a list is written at its position. -/
theorem exists_of_mem_listed {schemas? : Option (List Json)} {below : List String × Json}
    (h : below ∈ listed (schemas?.getD [])) :
    ∃ value, schemas?.map Json.array = some value ∧
      Pointer.follow? below.1 value = some below.2 := by
  obtain ⟨i, hi, rfl⟩ := List.mem_mapIdx.mp h
  cases schemas? with
  | none => cases hi
  | some schemas => exact ⟨_, rfl, Pointer.follow?_element (List.getElem?_eq_getElem hi)⟩

/-- What stands alone is written as it is. -/
theorem exists_of_mem_single {value? : Option Json} {below : List String × Json}
    (h : below ∈ single value?) :
    ∃ value, value? = some value ∧ Pointer.follow? below.1 value = some below.2 := by
  cases value? with
  | none => cases h
  | some value =>
    obtain rfl := List.mem_singleton.mp h
    exact ⟨value, rfl, rfl⟩

/-- What stands under a key is written under the text of the key, when no two keys have one text. -/
theorem exists_of_mem_named {κ α : Type} (key : κ → String) (write : α → Json)
    {entries? : Option (List (κ × α))}
    (hnames : ((entries?.getD []).map fun entry => key entry.1).Nodup) {entry : κ × α}
    (h : entry ∈ entries?.getD []) :
    ∃ value, (entries?.map fun entries =>
        Json.object (entries.map fun entry => (key entry.1, write entry.2))) = some value ∧
      Pointer.follow? [key entry.1] value = some (write entry.2) := by
  cases entries? with
  | none => cases h
  | some entries =>
    refine ⟨_, rfl, Pointer.follow?_member ?_
      (List.mem_map_of_mem (f := fun entry : κ × α => (key entry.1, write entry.2)) h)⟩
    rw [List.map_map]
    exact hnames

/-- The schemas under a keyword are written where the rest of the way to them leads. -/
theorem NamesOnce.exists_value? {o : ObjectSchema Json} (h : o.NamesOnce) {k : Keyword}
    {below : List String × Json} (hbelow : below ∈ o.parts k) :
    ∃ value, o.value? k = some value ∧ Pointer.follow? below.1 value = some below.2 := by
  have hnamed (s : Option (List (String × Json))) (hnames : ((s.getD []).map Prod.fst).Nodup)
      (hmem : below ∈ named (fun name => name) (s.getD [])) :
      ∃ value, s.map Json.object = some value ∧
        Pointer.follow? below.1 value = some below.2 := by
    obtain ⟨entry, hentry, rfl⟩ := List.mem_map.mp hmem
    obtain ⟨value, hvalue, hfollow⟩ :=
      exists_of_mem_named (fun name => name) (fun s => s) hnames hentry
    exact ⟨value, by simpa using hvalue, hfollow⟩
  cases k
  case items =>
    rw [parts, itemParts.eq_def] at hbelow
    rw [value?]
    rcases hitems : o.items with _ | (s | schemas)
    · rw [hitems] at hbelow
      cases hbelow
    · rw [hitems] at hbelow
      have hsingle : below ∈ single (some s) := hbelow
      exact exists_of_mem_single hsingle
    · rw [hitems] at hbelow
      have hlisted : below ∈ listed ((some schemas).getD []) := hbelow
      exact exists_of_mem_listed hlisted
  case additionalItems | contains | additionalProperties | propertyNames | not =>
    exact exists_of_mem_single hbelow
  case properties => exact hnamed _ h.properties hbelow
  case definitions => exact hnamed _ h.definitions hbelow
  case patternProperties =>
    obtain ⟨entry, hentry, rfl⟩ := List.mem_map.mp hbelow
    exact exists_of_mem_named Pattern.source (fun s => s) h.patterns hentry
  case dependencies =>
    obtain ⟨⟨trigger, dependency⟩, hentry, hbelow⟩ := List.mem_flatMap.mp hbelow
    obtain ⟨s, hs, rfl⟩ := List.mem_map.mp hbelow
    cases dependency with
    | names required => cases hs
    | schema s' =>
      obtain rfl := List.mem_singleton.mp hs
      exact exists_of_mem_named (fun name => name) Dependency.toJson h.dependencies hentry
  case allOf | anyOf | oneOf => exact exists_of_mem_listed hbelow
  all_goals cases hbelow

/-- The sub-schemas are written where the segments before them lead. -/
theorem NamesOnce.follow?_members {o : ObjectSchema Json} (h : o.NamesOnce)
    {below : List String × Json} (hbelow : below ∈ o.children) :
    Pointer.follow? below.1 (.object o.members) = some below.2 := by
  rw [children_eq_branches] at hbelow
  obtain ⟨branch, hbranch, hbelow⟩ := List.mem_flatMap.mp hbelow
  obtain ⟨rest, hrest, rfl⟩ := List.mem_map.mp hbelow
  rcases List.mem_append.mp hbranch with hbranch | hbranch
  · obtain ⟨k, -, rfl⟩ := List.mem_map.mp hbranch
    obtain ⟨value, hvalue, hfollow⟩ := h.exists_value? hrest
    have hk : k ∈ writingOrder := by cases k <;> decide
    have hmember : (k.name, value) ∈ o.members := by
      rw [members_eq]
      refine List.mem_append_left _ (List.mem_flatMap.mpr ⟨k, hk, ?_⟩)
      rw [hvalue]
      exact List.mem_singleton_self _
    rw [Pointer.follow?, Pointer.child?_object h.nodup_members hmember]
    exact hfollow
  · obtain ⟨entry, hentry, rfl⟩ := List.mem_map.mp hbranch
    obtain rfl := List.mem_singleton.mp hrest
    have hmember : entry ∈ o.members := by
      rw [members_eq]
      exact List.mem_append_right _ hentry
    exact Pointer.follow?_member h.nodup_members hmember

end ObjectSchema

namespace Schema

/-! ## Going down from a schema -/

variable {ι κ : Type}

/-- Go down from a schema one step after another, and gather the segments on the way. -/
def descend (step : Schema → ι → Option (List String × Schema)) :
    List ι → Schema → Option (List String × Schema)
  | [], s => some ([], s)
  | i :: rest, s => (step s i).bind fun below =>
    (descend step rest below.2).map fun last => (below.1 ++ last.1, last.2)

/-- The schema that a route leads to, which is a position in the list of sub-schemas for each step. -/
def reached? (s : Schema) (route : List Nat) : Option (List String × Schema) :=
  s.descend (fun s i => s.children[i]?) route

/-- The schema that is stored inside a schema, slot after slot. -/
def stored? (s : Schema) (slots : List Slot) : Option (List String × Schema) :=
  s.descend (fun s slot => s.object?.bind fun o => o.held? slot) slots

variable {step : Schema → ι → Option (List String × Schema)}

/-- A way down begins with its first step. -/
theorem descend_cons {i : ι} {rest : List ι} {s : Schema} {found : List String × Schema} :
    s.descend step (i :: rest) = some found ↔ ∃ below last, step s i = some below ∧
      below.2.descend step rest = some last ∧ (below.1 ++ last.1, last.2) = found := by
  simp only [descend, Option.bind_eq_some_iff, Option.map_eq_some_iff]
  exact ⟨fun ⟨below, hbelow, last, hlast, hfound⟩ => ⟨below, last, hbelow, hlast, hfound⟩,
    fun ⟨below, last, hbelow, hlast, hfound⟩ => ⟨below, hbelow, last, hlast, hfound⟩⟩

/-- Whether a kind of step leads to listed sub-schemas, and different steps to ones that are not in the
way of each other where names are not repeated. -/
structure Parting (step : Schema → ι → Option (List String × Schema)) : Prop where
  mem : ∀ {s i below}, step s i = some below → below ∈ s.children
  apart : ∀ {s i j below below'}, s.Orderly → i ≠ j → step s i = some below →
    step s j = some below' → Apart below.1 below'.1

/-- The sub-schemas of a schema without repeated names have no repeated names. -/
theorem Orderly.child {s : Schema} (h : s.Orderly) {below : List String × Schema}
    (hbelow : below ∈ s.children) : below.2.Orderly := by
  cases h with
  | boolean value => cases hbelow
  | object o h hchildren => exact hchildren below hbelow

/-- Positions in the list of sub-schemas part. -/
theorem parting_children : Parting fun s (i : Nat) => s.children[i]? where
  mem := List.mem_of_getElem?
  apart := by
    intro s i j below below' horderly hij hbelow hbelow'
    cases horderly with
    | boolean value => cases hbelow
    | object o h _ => exact ObjectSchema.apart_of_getElem? h.pairwise_children hij hbelow hbelow'

/-- Slots part. -/
theorem parting_slots : Parting fun s slot => s.object?.bind fun o => o.held? slot where
  mem := by
    intro s slot below hbelow
    cases s with
    | boolean value => cases hbelow
    | object o => exact ObjectSchema.mem_children_of_held? hbelow
  apart := by
    intro s slot slot' below below' horderly hne hbelow hbelow'
    cases horderly with
    | boolean value => cases hbelow
    | object o h _ => exact h.apart_of_held? hne hbelow hbelow'

/-- Where names are not repeated, different ways down have different segments. -/
theorem Parting.eq_of_descend (hparting : Parting step) {s : Schema} (h : s.Orderly)
    {steps steps' : List ι} {way : List String} {n n' : Schema}
    (hsteps : s.descend step steps = some (way, n))
    (hsteps' : s.descend step steps' = some (way, n')) : steps = steps' := by
  -- The segments of a step are never none, so a way that goes on is longer.
  have hne {s : Schema} {i : ι} {rest : List ι} {found : List String × Schema}
      (hfound : s.descend step (i :: rest) = some found) : found.1 ≠ [] := by
    obtain ⟨below, last, hbelow, -, rfl⟩ := descend_cons.mp hfound
    have hmem := hparting.mem hbelow
    cases s with
    | boolean value => cases hmem
    | object o =>
      exact fun heq =>
        ObjectSchema.ne_nil_of_mem_children hmem (List.append_eq_nil_iff.mp heq).1
  induction steps generalizing steps' s way n n' with
  | nil =>
    cases hsteps
    cases steps' with
    | nil => rfl
    | cons j rest' => exact absurd rfl (hne hsteps')
  | cons i rest ih =>
    cases steps' with
    | nil =>
      cases hsteps'
      exact absurd rfl (hne hsteps)
    | cons j rest' =>
      obtain ⟨below, ⟨tail, last⟩, hbelow, hlast, hfound⟩ := descend_cons.mp hsteps
      obtain ⟨below', ⟨tail', last'⟩, hbelow', hlast', hfound'⟩ := descend_cons.mp hsteps'
      have hway : below.1 ++ tail = below'.1 ++ tail' :=
        (congrArg Prod.fst hfound).trans (congrArg Prod.fst hfound').symm
      by_cases hij : i = j
      · subst hij
        obtain rfl := Option.some.inj (hbelow.symm.trans hbelow')
        rw [List.append_cancel_left_eq] at hway
        exact congrArg (List.cons i) (ih (h.child (hparting.mem hbelow)) hlast (hway ▸ hlast'))
      · exact absurd hway ((hparting.apart h hij hbelow hbelow').append_ne _ _)

/-- What is stored in a schema is reached from it. -/
theorem exists_route_of_stored? {s : Schema} {slots : List Slot} {found : List String × Schema}
    (h : s.stored? slots = some found) : ∃ route, s.reached? route = some found := by
  induction slots generalizing s found with
  | nil => exact ⟨[], h⟩
  | cons slot rest ih =>
    obtain ⟨below, last, hbelow, hlast, hfound⟩ := descend_cons.mp h
    obtain ⟨i, hi⟩ := List.getElem?_of_mem (parting_slots.mem hbelow)
    obtain ⟨route, hroute⟩ := ih hlast
    exact ⟨i :: route, descend_cons.mpr ⟨below, last, hi, hroute, hfound⟩⟩

/-- The JSON form of a sub-schema is the part of the JSON form that its segments lead to. -/
theorem follow?_toJson_of_reached? {s : Schema} (h : s.Orderly) {route : List Nat}
    {way : List String} {n : Schema} (hroute : s.reached? route = some (way, n)) :
    Pointer.follow? way s.toJson = some n.toJson := by
  induction route generalizing s way n with
  | nil =>
    cases hroute
    rfl
  | cons i rest ih =>
    obtain ⟨below, last, hbelow, hlast, hfound⟩ := descend_cons.mp hroute
    cases hfound
    cases h with
    | boolean value => cases hbelow
    | object o h hchildren =>
      have hmem : below ∈ o.children := List.mem_of_getElem? hbelow
      have hwritten : (below.1, below.2.toJson) ∈ (o.map toJson).children := by
        rw [ObjectSchema.children_map]
        exact List.mem_map.mpr ⟨below, hmem, rfl⟩
      rw [Pointer.follow?_append, toJson_object, (h.map toJson).follow?_members hwritten]
      exact ih (hchildren below hmem) hlast

/-- A sub-schema was read from the part of the document that its segments lead to, with as many levels
less as there are steps to it. -/
theorem exists_part_of_reached? {maximum levels : Nat} {document : Json} {s : Schema}
    (h : decodeWithin maximum levels document = .ok s) (hdocument : document.distinctNames = true)
    {route : List Nat} {way : List String} {n : Schema}
    (hroute : s.reached? route = some (way, n)) :
    route.length < levels ∧ ∃ part, Pointer.follow? way document = some part ∧
      decodeWithin maximum (levels - route.length) part = .ok n := by
  induction route generalizing levels document s way n with
  | nil =>
    cases hroute
    cases levels with
    | zero => cases h
    | succ levels => exact ⟨Nat.succ_pos levels, document, rfl, h⟩
  | cons i rest ih =>
    obtain ⟨below, last, hbelow, hlast, hfound⟩ := descend_cons.mp hroute
    cases hfound
    cases levels with
    | zero => cases h
    | succ levels =>
      cases document with
      | null | number | string | array => cases h
      | bool answer =>
        cases h
        cases hbelow
      | object members =>
        obtain ⟨o, ho, rfl⟩ := map_eq_ok.mp h
        obtain ⟨middle, hmiddle, hread⟩ :=
          ObjectSchema.exists_part_of_decode ho hdocument (List.mem_of_getElem? hbelow)
        obtain ⟨hlength, part, hpart, hdecode⟩ :=
          ih hread (Pointer.distinctNames_of_follow? hmiddle hdocument) hlast
        refine ⟨Nat.succ_lt_succ hlength, part, ?_, ?_⟩
        · rw [Pointer.follow?_append, hmiddle]
          exact hpart
        · rw [List.length_cons, Nat.succ_sub_succ]
          exact hdecode

/-- Paths of sub-schemas are pointers into the document. A sub-schema that is reached in some steps is
found under the segments on its route: in the document there is what it is decoded from with as many
levels less, and in the JSON form there is its JSON form. Different routes have different segments, and
every stored schema is reached by one route. -/
theorem reached_of_decode (limits : Limits) (document : Json) (s : Schema)
    (h : decode limits document = .ok s) (hdocument : document.distinctNames = true) :
    (∀ route way n, s.reached? route = some (way, n) →
      (route.length ≤ limits.schemaDepth ∧ ∃ part, Pointer.lookup? ⟨way⟩ document = some part ∧
        decode { limits with schemaDepth := limits.schemaDepth - route.length } part = .ok n) ∧
      Pointer.lookup? ⟨way⟩ s.toJson = some n.toJson) ∧
    (∀ route route' way n n', s.reached? route = some (way, n) →
      s.reached? route' = some (way, n') → route = route') ∧
    (∀ slots way n, s.stored? slots = some (way, n) →
      (∃! route, s.reached? route = some (way, n)) ∧
        ∀ slots' n', s.stored? slots' = some (way, n') → slots' = slots) := by
  have horderly : s.Orderly := orderly_of_decodeWithin h hdocument
  refine ⟨fun route way n hroute => ⟨?_, follow?_toJson_of_reached? horderly hroute⟩, ?_, ?_⟩
  · obtain ⟨hlength, part, hpart, hdecode⟩ := exists_part_of_reached? h hdocument hroute
    refine ⟨Nat.le_of_lt_succ hlength, part, hpart, ?_⟩
    rw [Nat.succ_sub (Nat.le_of_lt_succ hlength)] at hdecode
    exact (decodeWithin_agrees _ _ _ part).ok hdecode
  · exact fun route route' way n n' => parting_children.eq_of_descend horderly
  · intro slots way n hslots
    obtain ⟨route, hroute⟩ := exists_route_of_stored? hslots
    exact ⟨⟨route, hroute, fun route' hroute' =>
      parting_children.eq_of_descend horderly hroute' hroute⟩,
      fun slots' n' hslots' => parting_slots.eq_of_descend horderly hslots' hslots⟩

/-- A document with a schema in a list in a member whose name has a slash. -/
def nestedDocument : Json :=
  .object [("properties", .object [
    ("a/b", .object [("items", .array [.bool true, .object [("not", .bool false)]])])])]

/-- The schema of the document. -/
def nested : Schema :=
  .object { properties := some [("a/b", .object {
    items := some (.each [.boolean true, .object { not := some (.boolean false) }]) })] }

/-- The second schema of the list is reached by one route, is found in the document under the segments
on it, and is decoded from what is found with two levels less. -/
theorem reached_of_decode_nested :
    let way := ["properties", "a/b", "items", "1"]
    let inner := Schema.object { not := some (.boolean false) }
    decode Limits.default nestedDocument = .ok nested ∧ nestedDocument.distinctNames = true ∧
      nested.stored? [⟨some .properties, 0⟩, ⟨some .items, 1⟩] = some (way, inner) ∧
      (∃! route, nested.reached? route = some (way, inner)) ∧
      nested.reached? [0, 1] = some (way, inner) ∧
      ∃ part, Pointer.lookup? ⟨way⟩ nestedDocument = some part ∧
        decode { Limits.default with schemaDepth := Limits.default.schemaDepth - 2 } part =
          .ok inner := by
  intro way inner
  have hdocument : nestedDocument.distinctNames = true := by decide
  have hdecode : decode Limits.default nestedDocument = .ok nested := rfl
  have hpaths := reached_of_decode Limits.default nestedDocument nested hdecode hdocument
  have hstored : nested.stored? [⟨some .properties, 0⟩, ⟨some .items, 1⟩] = some (way, inner) := rfl
  have hreached : nested.reached? [0, 1] = some (way, inner) := rfl
  exact ⟨hdecode, hdocument, hstored, (hpaths.2.2 _ way inner hstored).1, hreached,
    (hpaths.1 [0, 1] way inner hreached).1.2⟩

end Schema

end Draft6
