import Draft6.Proofs.Readers
import Draft6.Proofs.Traversal
import Mathlib.Data.List.Nodup

/-!
# Decoding undoes encoding

A schema object that was decoded is put together from one source for each keyword: an object that is
empty but for that keyword, as it was read from the value of the keyword. What is written for a
keyword depends on its source alone and reads as the same source again. So the members that are
written, read one after the other, bring back one source after the other, and the unknown keywords at
the end bring back themselves.
-/

namespace Draft6

open Decoded (below_eq_ok)

namespace ObjectSchema

variable {σ τ : Type}

/-! ## Putting a schema object together -/

/-- The schema object that takes every keyword from the source that is picked for it. -/
def gather (pick : Keyword → ObjectSchema σ) (extra : List (String × σ)) : ObjectSchema σ where
  id := (pick .id).id
  ref := (pick .ref).ref
  annotations := {
    dialect := (pick .dialect).annotations.dialect
    title := (pick .title).annotations.title
    description := (pick .description).annotations.description
    default := (pick .default).annotations.default
    examples := (pick .examples).annotations.examples
    format := (pick .format).annotations.format }
  type := (pick .type).type
  enum := (pick .enum).enum
  const := (pick .const).const
  numbers := {
    multipleOf := (pick .multipleOf).numbers.multipleOf
    maximum := (pick .maximum).numbers.maximum
    exclusiveMaximum := (pick .exclusiveMaximum).numbers.exclusiveMaximum
    minimum := (pick .minimum).numbers.minimum
    exclusiveMinimum := (pick .exclusiveMinimum).numbers.exclusiveMinimum }
  strings := {
    maxLength := (pick .maxLength).strings.maxLength
    minLength := (pick .minLength).strings.minLength
    pattern := (pick .pattern).strings.pattern }
  arrays := {
    maxItems := (pick .maxItems).arrays.maxItems
    minItems := (pick .minItems).arrays.minItems
    uniqueItems := (pick .uniqueItems).arrays.uniqueItems }
  objects := {
    required := (pick .required).objects.required
    maxProperties := (pick .maxProperties).objects.maxProperties
    minProperties := (pick .minProperties).objects.minProperties }
  items := (pick .items).items
  additionalItems := (pick .additionalItems).additionalItems
  contains := (pick .contains).contains
  properties := (pick .properties).properties
  patternProperties := (pick .patternProperties).patternProperties
  additionalProperties := (pick .additionalProperties).additionalProperties
  dependencies := (pick .dependencies).dependencies
  propertyNames := (pick .propertyNames).propertyNames
  allOf := (pick .allOf).allOf
  anyOf := (pick .anyOf).anyOf
  oneOf := (pick .oneOf).oneOf
  not := (pick .not).not
  definitions := (pick .definitions).definitions
  extra := extra

/-- What is made of a part that was read can be made in two steps. -/
theorem map_bind_pure {α β γ : Type} (part : Decoded α) {direct : α → γ} {first : α → β}
    {second : β → γ} (h : ∀ a, direct a = second (first a)) :
    (part >>= fun a => pure (direct a)) = second <$> (part >>= fun a => pure (first a)) := by
  cases part with
  | error e => rfl
  | ok a => exact congrArg Except.ok (h a)

/-- Reading the value of a keyword gives a new source for this keyword and leaves the others. -/
theorem decodeKeyword_gather (child : Json → Decoded σ) (pick : Keyword → ObjectSchema σ)
    (extra : List (String × σ)) (k : Keyword) (value : Json) :
    decodeKeyword child (gather pick extra) k value =
      (fun p => gather (Function.update pick k p) extra) <$> decodeKeyword child {} k value := by
  cases k
  case default | const => rfl
  case pattern | patternProperties =>
    simp only [decodeKeyword, ← bind_assoc]
    exact map_bind_pure _ fun _ => rfl
  all_goals exact map_bind_pure _ fun _ => rfl

/-! ## What is written for a keyword -/

/-- The value that is written for a keyword, if it is present. -/
def value? (o : ObjectSchema Json) : Keyword → Option Json
  | .dialect => o.annotations.dialect.map .string
  | .id => o.id.map .string
  | .ref => o.ref.map .string
  | .title => o.annotations.title.map .string
  | .description => o.annotations.description.map .string
  | .default => o.annotations.default
  | .examples => o.annotations.examples.map .array
  | .format => o.annotations.format.map .string
  | .type => o.type.toJson?
  | .enum => o.enum.map .array
  | .const => o.const
  | .multipleOf => o.numbers.multipleOf.map fun x => .number (Number.ofDivisor x)
  | .maximum => o.numbers.maximum.map .number
  | .exclusiveMaximum => o.numbers.exclusiveMaximum.map .number
  | .minimum => o.numbers.minimum.map .number
  | .exclusiveMinimum => o.numbers.exclusiveMinimum.map .number
  | .maxLength => o.strings.maxLength.map sizeJson
  | .minLength => o.strings.minLength.map sizeJson
  | .pattern => o.strings.pattern.map fun p => .string p.source
  | .items => o.items.map Items.toJson
  | .additionalItems => o.additionalItems
  | .maxItems => o.arrays.maxItems.map sizeJson
  | .minItems => o.arrays.minItems.map sizeJson
  | .uniqueItems => o.arrays.uniqueItems.map .bool
  | .contains => o.contains
  | .properties => o.properties.map .object
  | .patternProperties =>
    o.patternProperties.map fun schemas => .object (schemas.map fun (p, s) => (p.source, s))
  | .additionalProperties => o.additionalProperties
  | .required => o.objects.required.map Json.strings
  | .maxProperties => o.objects.maxProperties.map sizeJson
  | .minProperties => o.objects.minProperties.map sizeJson
  | .dependencies =>
    o.dependencies.map fun entries => .object (entries.map fun (name, d) => (name, d.toJson))
  | .propertyNames => o.propertyNames
  | .allOf => o.allOf.map .array
  | .anyOf => o.anyOf.map .array
  | .oneOf => o.oneOf.map .array
  | .not => o.not
  | .definitions => o.definitions.map .object

/-- The keywords in the order in which they are written. -/
def writingOrder : List Keyword :=
  [.dialect, .id, .ref, .title, .description, .default, .examples, .format, .type, .enum, .const,
    .multipleOf, .maximum, .exclusiveMaximum, .minimum, .exclusiveMinimum, .maxLength, .minLength,
    .maxItems, .minItems, .maxProperties, .minProperties, .pattern, .items, .additionalItems,
    .uniqueItems, .contains, .properties, .patternProperties, .additionalProperties, .required,
    .dependencies, .propertyNames, .allOf, .anyOf, .oneOf, .not, .definitions]

/-- The members of a schema object are its keywords in order, and then the unknown ones. -/
theorem members_eq (o : ObjectSchema Json) :
    o.members = writingOrder.flatMap (fun k => member k (o.value? k)) ++ o.extra := by
  delta members
  simp only [writingOrder, value?, List.flatMap_cons, List.flatMap_nil, List.append_nil,
    List.append_assoc]

/-- What is written for a keyword depends on the source that is picked for it. -/
theorem value?_gather (write : σ → Json) (pick : Keyword → ObjectSchema σ)
    (extra : List (String × σ)) (k : Keyword) :
    ((gather pick extra).map write).value? k = ((pick k).map write).value? k := by
  cases k <;> rfl

/-- Nothing is written for an absent keyword. -/
theorem value?_empty (write : σ → Json) (k : Keyword) :
    (({} : ObjectSchema σ).map write).value? k = none := by
  cases k <;> rfl

variable {child : Json → Decoded σ} {write : σ → Json}

/-- A keyword with a reader and a writer that belong together is read back. -/
theorem reads_again {α : Type} {read : Json → Decoded α} {writePart : α → Json}
    (h : RoundTrips read writePart) {make : α → ObjectSchema σ} {k : Keyword}
    (hvalue : ∀ a, ((make a).map write).value? k = some (writePart a))
    {value : Json} {p : ObjectSchema σ}
    (hread : (read value >>= fun a => pure (make a)) = .ok p) :
    ∃ written, (p.map write).value? k = some written ∧
      (read written >>= fun a => pure (make a)) = .ok p := by
  obtain ⟨a, ha, hp⟩ := bind_eq_ok.mp hread
  cases hp
  exact ⟨writePart a, hvalue a, bind_eq_ok.mpr ⟨a, h value a ha, rfl⟩⟩

/-- A keyword that was read is written, and read back from what is written. -/
theorem decodeKeyword_value? (hchild : RoundTrips child write)
    (harray : ∀ s items, write s ≠ .array items) {k : Keyword} {value : Json}
    {p : ObjectSchema σ} (hread : decodeKeyword child {} k value = .ok p) :
    ∃ written, (p.map write).value? k = some written ∧
      decodeKeyword child {} k written = .ok p := by
  have hstring : RoundTrips Json.asString Json.string := fun _ _ _ => rfl
  have hbool : RoundTrips Json.asBool Json.bool := fun _ _ _ => rfl
  have hnumber : RoundTrips Json.asNumber Json.number := fun _ _ _ => rfl
  have harrays : RoundTrips Json.asArray Json.array := fun _ _ _ => rfl
  have hsize : RoundTrips Json.asSize sizeJson := fun _ size _ => Json.asSize_sizeJson size
  cases k
  case dialect | id | ref | title | description | format =>
    exact reads_again hstring (fun _ => rfl) hread
  case default | const =>
    cases hread
    exact ⟨value, rfl, rfl⟩
  case examples | enum => exact reads_again harrays (fun _ => rfl) hread
  case type =>
    obtain ⟨rule, hrule, hp⟩ := bind_eq_ok.mp hread
    cases hp
    obtain ⟨written, hwritten, hagain⟩ := Json.asTypeRule_toJson? hrule
    exact ⟨written, hwritten, bind_eq_ok.mpr ⟨rule, hagain, rfl⟩⟩
  case multipleOf => exact reads_again Json.asDivisor_roundTrips (fun _ => rfl) hread
  case maximum | exclusiveMaximum | minimum | exclusiveMinimum =>
    exact reads_again hnumber (fun _ => rfl) hread
  case maxLength | minLength | maxItems | minItems | maxProperties | minProperties =>
    exact reads_again hsize (fun _ => rfl) hread
  case pattern =>
    obtain ⟨source, _, hread⟩ := bind_eq_ok.mp hread
    obtain ⟨pattern, hpattern, hp⟩ := bind_eq_ok.mp hread
    cases hp
    exact ⟨.string pattern.source, rfl, bind_eq_ok.mpr ⟨pattern.source, rfl,
      bind_eq_ok.mpr ⟨pattern, Pattern.decode_source source pattern hpattern, rfl⟩⟩⟩
  case items => exact reads_again (decodeItems_roundTrips hchild harray) (fun _ => rfl) hread
  case additionalItems | contains | additionalProperties | propertyNames | not =>
    exact reads_again hchild (fun _ => rfl) hread
  case uniqueItems => exact reads_again hbool (fun _ => rfl) hread
  case properties | definitions =>
    exact reads_again (Json.asNamed_roundTrips hchild) (fun _ => rfl) hread
  case patternProperties =>
    obtain ⟨members, _, hread⟩ := bind_eq_ok.mp hread
    obtain ⟨schemas, hschemas, hp⟩ := bind_eq_ok.mp hread
    cases hp
    refine ⟨.object (schemas.map fun entry => (entry.1.source, write entry.2)), ?_,
      bind_eq_ok.mpr ⟨_, rfl, bind_eq_ok.mpr ⟨schemas,
        Json.readMembers_map Pattern.source Pattern.decode_source hchild hschemas, rfl⟩⟩⟩
    simp [value?, map, mapPath]
  case required => exact reads_again (Json.asList_roundTrips hstring) (fun _ => rfl) hread
  case dependencies =>
    have hdependency : RoundTrips (decodeDependency child) fun d =>
        (d.mapPath (fun _ => write) "").toJson :=
      decodeDependency_roundTrips hchild harray ""
    refine reads_again (Json.asNamed_roundTrips hdependency) (fun entries => ?_) hread
    change some (Json.object ((entries.map _).map _)) = _
    rw [List.map_map]
    refine congrArg (fun members => some (Json.object members)) (List.map_congr_left ?_)
    rintro ⟨trigger, d⟩ _
    cases d <;> rfl
  case allOf | anyOf | oneOf =>
    refine reads_again (Json.asList_roundTrips hchild) (fun schemas => ?_) hread
    simp [value?, map, mapPath, mapList, Schema.mapIdx_eq_map]

/-! ## What decoding puts together -/

/-- The keyword with the name of a keyword. -/
theorem ofName?_name (k : Keyword) : Keyword.ofName? k.name = some k := by
  cases k <;> rfl

/-- Whether a schema object is put together from sources that were read from the values of members, and
its unknown keywords from members that hold schema objects. Only an identifier may stand under another
name than that of its keyword. -/
structure IsRead (child : Json → Decoded σ) (members : List (String × Json))
    (pick : Keyword → ObjectSchema σ) (extra : List (String × σ)) : Prop where
  keywords : ∀ k, pick k = {} ∨ ∃ member ∈ members,
    (member.1 = k.name ∨ k = .id) ∧ decodeKeyword child {} k member.2 = .ok (pick k)
  unknown : ∀ entry ∈ extra, Keyword.ofName? entry.1 = none ∧
    ∃ inner, child (.object inner) = .ok entry.2 ∧ (entry.1, .object inner) ∈ members

/-- Reading one more member keeps a schema object put together from what was read, and adds at most the
name of the member to the unknown keywords. -/
theorem IsRead.decodeMember {members : List (String × Json)} {pick : Keyword → ObjectSchema σ}
    {extra : List (String × σ)} (h : IsRead child members pick extra) {name : String} {value : Json}
    (hmember : (name, value) ∈ members) {o : ObjectSchema σ}
    (hread : decodeMember child (gather pick extra) name value = .ok o) :
    ∃ pick' extra', IsRead child members pick' extra' ∧
      (extra'.map Prod.fst).Sublist (extra.map Prod.fst ++ [name]) ∧ o = gather pick' extra' := by
  have hsame : (extra.map Prod.fst).Sublist (extra.map Prod.fst ++ [name]) :=
    List.sublist_append_left _ _
  rw [ObjectSchema.decodeMember] at hread
  split at hread
  · next k hk =>
    rw [below_eq_ok, decodeKeyword_gather, map_eq_ok] at hread
    obtain ⟨p, hp, rfl⟩ := hread
    have hname : k.name = name := by simpa using List.find?_some hk
    refine ⟨Function.update pick k p, extra, ⟨fun j => ?_, h.unknown⟩, hsame, rfl⟩
    by_cases hj : j = k
    · subst hj
      rw [Function.update_self]
      exact .inr ⟨(name, value), hmember, .inl hname.symm, hp⟩
    · rw [Function.update_of_ne hj]
      exact h.keywords j
  · next hnone =>
    cases hread
    unfold keepUnknown
    split
    · next inner =>
      split
      · next s hs =>
        refine ⟨pick, extra ++ [(name, s)], ⟨h.keywords, fun entry hentry => ?_⟩, ?_, rfl⟩
        · rcases List.mem_append.mp hentry with hentry | hentry
          · exact h.unknown entry hentry
          · rw [List.mem_singleton.mp hentry]
            exact ⟨hnone, inner, hs, hmember⟩
        · rw [List.map_append]
          exact List.Sublist.refl _
      · exact ⟨pick, extra, h, hsame, rfl⟩
    · exact ⟨pick, extra, h, hsame, rfl⟩

/-- A schema object that was decoded is put together from what was read, with its unknown keywords in
the order of the members. -/
theorem isRead_of_decode {members : List (String × Json)} {o : ObjectSchema σ}
    (h : decode child members = .ok o) :
    ∃ pick extra, IsRead child members pick extra ∧
      (extra.map Prod.fst).Sublist (members.map Prod.fst) ∧ o = gather pick extra := by
  have hrun (done rest : List (String × Json)) (hmembers : members = done ++ rest)
      (start : ObjectSchema σ)
      (hstart : ∃ pick extra, IsRead child members pick extra ∧
        (extra.map Prod.fst).Sublist (done.map Prod.fst) ∧ start = gather pick extra)
      (hrest : rest.foldlM (fun o member => ObjectSchema.decodeMember child o member.1 member.2)
        start = .ok o) :
      ∃ pick extra, IsRead child members pick extra ∧
        (extra.map Prod.fst).Sublist (members.map Prod.fst) ∧ o = gather pick extra := by
    induction rest generalizing done start with
    | nil =>
      cases hrest
      rw [List.append_nil] at hmembers
      exact hmembers ▸ hstart
    | cons member rest ih =>
      rw [List.foldlM_cons] at hrest
      obtain ⟨pick, extra, hread, hnames, rfl⟩ := hstart
      obtain ⟨next, hnext, hlast⟩ := bind_eq_ok.mp hrest
      have hmember : member ∈ members := by simp [hmembers]
      obtain ⟨pick', extra', hread', hnames', rfl⟩ := hread.decodeMember hmember hnext
      refine ih (done ++ [member]) (by simp [hmembers]) _ ⟨pick', extra', hread', ?_, rfl⟩ hlast
      rw [List.map_append]
      exact hnames'.trans (hnames.append_right _)
  refine hrun [] members rfl _ ⟨fun k => if k = .id then { id := olderId? members } else {}, [],
    ⟨fun k => ?_, nofun⟩, List.Sublist.refl _, rfl⟩ h
  split
  · next hk =>
    subst hk
    rw [olderId?]
    split
    · next text hlookup =>
      obtain ⟨before, after, hmembers, -⟩ := List.lookup_eq_some_iff.mp hlookup
      exact .inr ⟨(Keyword.olderId, .string text), by simp [hmembers], .inr rfl, rfl⟩
    · exact .inl rfl
  · exact .inl rfl

/-! ## Reading the members that are written -/

/-- Reading the keywords that are written brings back their sources. -/
theorem foldlM_keywords (hchild : RoundTrips child write)
    (harray : ∀ s items, write s ≠ .array items) {pick : Keyword → ObjectSchema σ}
    {members : List (String × Json)} {extra : List (String × σ)}
    (h : IsRead child members pick extra) (ks : List Keyword)
    (hnodup : ks.Nodup) (current : Keyword → ObjectSchema σ) (hcurrent : ∀ k ∈ ks, current k = {}) :
    (ks.flatMap fun k => member k (((pick k).map write).value? k)).foldlM
        (fun o (name, value) => decodeMember child o name value) (gather current []) =
      .ok (gather (fun k => if k ∈ ks then pick k else current k) []) := by
  induction ks generalizing current with
  | nil => simp; rfl
  | cons k ks ih =>
    obtain ⟨hk, hnodup⟩ := List.nodup_cons.mp hnodup
    rw [List.flatMap_cons, List.foldlM_append]
    have hstep : (member k (((pick k).map write).value? k)).foldlM
        (fun o (name, value) => decodeMember child o name value) (gather current []) =
          .ok (gather (Function.update current k (pick k)) []) := by
      rcases h.keywords k with hempty | ⟨_, _, _, hread⟩
      · rw [hempty, value?_empty, ← hcurrent k List.mem_cons_self, Function.update_eq_self]
        rfl
      · obtain ⟨written, hwritten, hagain⟩ := decodeKeyword_value? hchild harray hread
        rw [hwritten]
        change (decodeMember child (gather current []) k.name written >>= fun o => pure o) = _
        rw [bind_pure, decodeMember, ofName?_name]
        dsimp only
        rw [below_eq_ok, decodeKeyword_gather, hagain]
        rfl
    rw [hstep]
    change List.foldlM _ _ _ = _
    rw [ih hnodup _ fun j hj => ?_]
    · congr 2
      funext j
      by_cases hj : j = k
      · subst hj
        simp [hk]
      · simp [hj]
    · rw [Function.update_of_ne (by rintro rfl; exact hk hj)]
      exact hcurrent j (List.mem_cons_of_mem _ hj)

/-- Reading the unknown keywords that are written keeps them all. -/
theorem foldlM_unknown (hchild : RoundTrips child write)
    (hobject : ∀ members s, child (.object members) = .ok s → ∃ inner, write s = .object inner)
    {extra : List (String × σ)} (hextra : ∀ entry ∈ extra, Keyword.ofName? entry.1 = none ∧
      ∃ members, child (.object members) = .ok entry.2) (o : ObjectSchema σ) :
    (extra.map fun entry => (entry.1, write entry.2)).foldlM
        (fun o (name, value) => decodeMember child o name value) o =
      .ok { o with extra := o.extra ++ extra } := by
  induction extra generalizing o with
  | nil => simp; rfl
  | cons entry rest ih =>
    obtain ⟨⟨hnone, members, hmembers⟩, hrest⟩ := List.forall_mem_cons.mp hextra
    obtain ⟨inner, hinner⟩ := hobject members entry.2 hmembers
    have hagain : child (.object inner) = .ok entry.2 := hinner ▸ hchild _ _ hmembers
    have hstep : decodeMember child o entry.1 (write entry.2) =
        .ok { o with extra := o.extra ++ [entry] } := by
      rw [decodeMember, hnone, hinner]
      simp only [keepUnknown, hagain]
    rw [List.map_cons, List.foldlM_cons]
    dsimp only
    rw [hstep]
    change List.foldlM _ _ _ = _
    rw [ih hrest]
    simp

/-- No identifier stands under its older name in what is written. -/
theorem olderId?_members (hobject : ∀ members s, child (.object members) = .ok s →
      ∃ inner, write s = .object inner)
    {members : List (String × Json)} {pick : Keyword → ObjectSchema σ} {extra : List (String × σ)}
    (h : IsRead child members pick extra) :
    olderId? ((gather pick extra).map write).members = none := by
  rw [olderId?]
  split
  · next text hlookup =>
    exfalso
    obtain ⟨before, after, hmembers, -⟩ := List.lookup_eq_some_iff.mp hlookup
    have hmem : (Keyword.olderId, Json.string text) ∈ ((gather pick extra).map write).members := by
      rw [hmembers]
      simp
    rw [members_eq, List.mem_append] at hmem
    rcases hmem with hmem | hmem
    · obtain ⟨k, _, hmem⟩ := List.mem_flatMap.mp hmem
      obtain ⟨_, _, hpair⟩ := List.mem_map.mp hmem
      have hname := ofName?_name k
      rw [(Prod.mk.inj hpair).1] at hname
      cases hname
    · obtain ⟨⟨name, s⟩, hentry, hpair⟩ := List.mem_map.mp hmem
      obtain ⟨-, read, hread, -⟩ := h.unknown _ hentry
      obtain ⟨inner, hinner⟩ := hobject read s hread
      have hstring : write s = .string text := (Prod.mk.inj hpair).2
      cases hinner.symm.trans hstring
  · rfl

/-- A schema object that was decoded is decoded again from the members that are written for it. -/
theorem decode_members (hchild : RoundTrips child write)
    (harray : ∀ s items, write s ≠ .array items)
    (hobject : ∀ members s, child (.object members) = .ok s → ∃ inner, write s = .object inner)
    {members : List (String × Json)} {o : ObjectSchema σ} (hread : decode child members = .ok o) :
    decode child (o.map write).members = .ok o := by
  obtain ⟨pick, extra, h, -, rfl⟩ := isRead_of_decode hread
  have hkeywords := foldlM_keywords hchild harray h writingOrder (by decide) (fun _ => {})
    fun _ _ => rfl
  have hall : (fun k => if k ∈ writingOrder then pick k else {}) = pick := by
    funext k
    exact if_pos (by cases k <;> decide)
  rw [hall] at hkeywords
  rw [decode, olderId?_members hobject h, members_eq, List.foldlM_append]
  simp only [value?_gather]
  refine bind_eq_ok.mpr ⟨_, hkeywords, foldlM_unknown hchild hobject (fun entry hentry => ?_) _⟩
  obtain ⟨hnone, inner, hinner, -⟩ := h.unknown entry hentry
  exact ⟨hnone, inner, hinner⟩

end ObjectSchema

namespace Schema

/-- The JSON form of a schema object is made of the JSON forms of its sub-schemas. -/
theorem toJson_object (o : ObjectSchema Schema) :
    (Schema.object o).toJson = .object (o.map toJson).members := by
  rw [toJson, fold_object, ObjectSchema.map_map]

/-- No schema has an array as its JSON form. -/
theorem toJson_ne_array (s : Schema) (items : List Json) : s.toJson ≠ .array items := by
  cases s with
  | boolean value => nofun
  | object o =>
    rw [toJson_object]
    nofun

/-- A schema that was decoded is decoded again from its JSON form, within as many levels. -/
theorem decodeWithin_roundTrips (maximum levels : Nat) :
    RoundTrips (decodeWithin maximum levels) toJson := by
  induction levels with
  | zero => exact fun _ _ h => by cases h
  | succ levels ih =>
    intro document s h
    cases document with
    | null | number | string | array => cases h
    | bool value =>
      cases h
      rfl
    | object members =>
      obtain ⟨o, ho, rfl⟩ := map_eq_ok.mp h
      rw [toJson_object]
      refine map_eq_ok.mpr ⟨o, ObjectSchema.decode_members ih toJson_ne_array ?_ ho, rfl⟩
      intro inner s hs
      cases levels with
      | zero => cases hs
      | succ levels =>
        obtain ⟨p, _, rfl⟩ := map_eq_ok.mp hs
        exact ⟨_, toJson_object p⟩

/-- Decoding undoes encoding: what a document was decoded as is decoded again, with everything in the
same order, from its JSON form and within the same limits. So the JSON form is a fixed point of
decoding and encoding. -/
theorem decode_toJson (limits : Limits) (document : Json) (s : Schema)
    (h : decode limits document = .ok s) :
    decode limits s.toJson = .ok s ∧
      ∀ again, decode limits s.toJson = .ok again → again.toJson = s.toJson := by
  have hagain := decodeWithin_roundTrips limits.schemaDepth (limits.schemaDepth + 1) document s h
  refine ⟨hagain, fun again heq => ?_⟩
  rw [Except.ok.inj (heq.symm.trans hagain)]

/-- A document with an older identifier, a list of one type, a size that is a binary64 number, and two
unknown keywords. -/
def sampleDocument : Json :=
  .object [
    ("id", .string "a.json"), ("type", .array [.string "string"]),
    ("maxLength", .number (.float ⟨false, 6755399441055744, -51, by decide⟩)),
    ("unknown", .object [("not", .bool true)]), ("ignored", .null)]

/-- The schema of the document. -/
def sample : Schema :=
  .object {
    id := some "a.json"
    type := .single .string
    strings := { maxLength := some 3 }
    extra := [("unknown", .object { not := some (.boolean true) })] }

set_option maxRecDepth 4000 in
/-- The schema is decoded from its document and again from its JSON form, which looks different. -/
theorem decode_toJson_sample :
    decode Limits.default sampleDocument = .ok sample ∧
      decode Limits.default sample.toJson = .ok sample :=
  ⟨rfl, (decode_toJson Limits.default sampleDocument sample rfl).1⟩

end Schema

end Draft6
