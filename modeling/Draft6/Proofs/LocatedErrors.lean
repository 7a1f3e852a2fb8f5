import Draft6.Proofs.Demands
import Draft6.Proofs.Places

/-!
# Where a document is refused

A document that is no schema is refused at a place. The way to this place leaves every schema object by
one of its keywords and exists in the document. Nothing that stands under an unknown keyword counts: when
it is replaced, the document is refused for the same reason at the same place, or is read as before.

Both are said of one pair of readings, that of the document and that of the replaced one, which go hand
in hand. Either both succeed, or both end with one error.
-/

namespace Draft6

/-- The ways into the value of a keyword that a reader can take. They leave schema objects by keywords
only. -/
inductive Demand.Route : Demand → Json → List String → Prop
  | here (d : Demand) (value : Json) : Route d value []
  | keyword {members : List (String × Json)} {k : Keyword} {value : Json} {rest : List String}
      (hmember : (k.name, value) ∈ members) (h : Route k.demand value rest) :
      Route .schema (.object members) (k.name :: rest)
  | all {value : Json} {rest : List String} (hvalue : ¬ value.IsArray) (h : Route .schema value rest) :
      Route .items value rest
  | listed {d : Demand} {items : List Json} {i : Nat} {item : Json} {rest : List String}
      (hd : d = .schemas ∨ d = .items) (hitem : items[i]? = some item) (h : Route .schema item rest) :
      Route d (.array items) (toString i :: rest)
  | text {d : Demand} {items : List Json} {i : Nat} {item : Json} (hd : d = .types ∨ d = .names)
      (hitem : items[i]? = some item) : Route d (.array items) [toString i]
  | named {d : Demand} {members : List (String × Json)} {name : String} {item : Json}
      {rest : List String} (hd : d = .named ∨ d = .matching ∨ d = .dependencies)
      (hmember : (name, item) ∈ members) (h : Route .schema item rest) :
      Route d (.object members) (name :: rest)
  | demanded {members : List (String × Json)} {name : String} {items : List Json}
      {rest : List String} (hmember : (name, .array items) ∈ members)
      (h : Route .names (.array items) rest) : Route .dependencies (.object members) (name :: rest)

/-- The ways that a reader can take exist. -/
theorem Demand.Route.exists_follow? {d : Demand} {value : Json} {segments : List String}
    (h : d.Route value segments) (hvalue : value.distinctNames = true) :
    ∃ node, Pointer.follow? segments value = some node := by
  have hmember {members : List (String × Json)} {name : String} {item : Json} {rest : List String}
      (hmembers : (Json.object members).distinctNames = true) (hmember : (name, item) ∈ members)
      (ih : item.distinctNames = true → ∃ node, Pointer.follow? rest item = some node) :
      ∃ node, Pointer.follow? (name :: rest) (.object members) = some node := by
    obtain ⟨hnodup, hdistinct⟩ := Json.distinctNames_object.mp hmembers
    obtain ⟨node, hnode⟩ := ih (hdistinct _ hmember)
    exact ⟨node, by rw [Pointer.follow?, Pointer.child?_object hnodup hmember]; exact hnode⟩
  induction h with
  | here d value => exact ⟨value, rfl⟩
  | keyword hin _ ih => exact hmember hvalue hin ih
  | all _ _ ih => exact ih hvalue
  | listed hd hitem _ ih =>
    obtain ⟨node, hnode⟩ := ih (Json.distinctNames_array.mp hvalue _ (List.mem_of_getElem? hitem))
    exact ⟨node, by rw [Pointer.follow?, Pointer.child?_array hitem]; exact hnode⟩
  | text hd hitem => exact ⟨_, Pointer.follow?_element hitem⟩
  | named _ hin _ ih => exact hmember hvalue hin ih
  | demanded hin _ ih => exact hmember hvalue hin ih

namespace Json

/-! ## Replacing the values of unknown keywords -/

variable (replace : String → Json → Json)

mutual

/-- The value of a keyword where, in the schemas that stand in it, the values of unknown keywords are
replaced. -/
def replaceUnknown : Demand → Json → Json
  | .schema, .object members | .items, .object members => .object (replaceUnknownMembers members)
  | .schemas, .array items | .items, .array items => .array (replaceUnknownItems items)
  | .named, .object members | .matching, .object members | .dependencies, .object members =>
    .object (replaceUnknownNamed members)
  | _, value => value

/-- The members of a schema object where the values of unknown keywords are replaced. -/
def replaceUnknownMembers : List (String × Json) → List (String × Json)
  | [] => []
  | (name, value) :: rest =>
    (name, match Keyword.ofName? name with
      | some k => replaceUnknown k.demand value
      | none => replace name value) :: replaceUnknownMembers rest

/-- The schemas of a list where the values of unknown keywords are replaced. -/
def replaceUnknownItems : List Json → List Json
  | [] => []
  | value :: rest => replaceUnknown .schema value :: replaceUnknownItems rest

/-- The named schemas where the values of unknown keywords are replaced. -/
def replaceUnknownNamed : List (String × Json) → List (String × Json)
  | [] => []
  | (name, value) :: rest => (name, replaceUnknown .schema value) :: replaceUnknownNamed rest

end

variable {replace}

/-- The schemas of a list are replaced one by one. -/
theorem replaceUnknownItems_eq (items : List Json) :
    replaceUnknownItems replace items = items.map (replaceUnknown replace .schema) := by
  induction items with
  | nil => rfl
  | cons value rest ih => rw [replaceUnknownItems, ih, List.map_cons]

/-- Named schemas are replaced one by one. -/
theorem replaceUnknownNamed_eq (members : List (String × Json)) :
    replaceUnknownNamed replace members =
      members.map fun member => (member.1, replaceUnknown replace .schema member.2) := by
  induction members with
  | nil => rfl
  | cons member rest ih => rw [replaceUnknownNamed, ih, List.map_cons]

/-- Nothing is replaced under a keyword that holds no schemas. -/
theorem replaceUnknown_of_not_mem_holders {k : Keyword} (hk : k ∉ ObjectSchema.holders) (value : Json) :
    replaceUnknown replace k.demand value = value := by
  cases k
  case definitions | items | additionalItems | contains | properties | patternProperties
      | additionalProperties | dependencies | propertyNames | allOf | anyOf | oneOf | not =>
    exact absurd (by decide) hk
  all_goals cases value <;> rfl

end Json

namespace Decoded

variable {α β γ δ : Type} {P Q : List String → Prop}

/-- Whether two readings both succeed, or both end with one error and its place is as it should be. -/
inductive FailsAlike (P : List String → Prop) : Decoded α → Decoded β → Prop
  | ok (a : α) (b : β) : FailsAlike P (.ok a) (.ok b)
  | error (e : DecodeError) (h : P e.pointer.segments) : FailsAlike P (.error e) (.error e)

/-- Two steps fail alike when the first ones do and so do the second ones. -/
theorem FailsAlike.bind {result : Decoded α} {result' : Decoded β} (h : FailsAlike P result result')
    {next : α → Decoded γ} {next' : β → Decoded δ} (hnext : ∀ a b, FailsAlike P (next a) (next' b)) :
    FailsAlike P (result >>= next) (result' >>= next') := by
  cases h with
  | ok a b => exact hnext a b
  | error e h => exact .error e h

/-- What is made of readings that fail alike fails alike. -/
theorem FailsAlike.map {result : Decoded α} {result' : Decoded β} (h : FailsAlike P result result')
    (f : α → γ) (g : β → δ) : FailsAlike P (f <$> result) (g <$> result') := by
  rw [← bind_pure_comp, ← bind_pure_comp]
  exact h.bind fun a b => .ok (f a) (g b)

/-- Where a part fails alike, the whole does so below the segment that leads to the part. -/
theorem FailsAlike.below {segment : String} {result : Decoded α} {result' : Decoded β}
    (h : FailsAlike Q result result') (hplace : ∀ rest, Q rest → P (segment :: rest)) :
    FailsAlike P (below segment result) (below segment result') := by
  cases h with
  | ok a b => exact .ok a b
  | error e h => exact .error (Located.below segment e) (hplace _ h)

/-- What may stand at fewer places may stand at more. -/
theorem FailsAlike.mono {result : Decoded α} {result' : Decoded β} (h : FailsAlike Q result result')
    (hplace : ∀ segments, Q segments → P segments) : FailsAlike P result result' := by
  cases h with
  | ok a b => exact .ok a b
  | error e h => exact .error e (hplace _ h)

/-- The place of an error is as it should be. -/
theorem FailsAlike.place {result : Decoded α} {result' : Decoded β} (h : FailsAlike P result result')
    {e : DecodeError} (he : result = .error e) : P e.pointer.segments := by
  cases h with
  | ok a b => cases he
  | error e' h => exact Except.error.inj he ▸ h

/-- Readings that fail alike end with the same errors. -/
theorem FailsAlike.eq_error_iff {result : Decoded α} {result' : Decoded β}
    (h : FailsAlike P result result') {e : DecodeError} : result' = .error e ↔ result = .error e := by
  cases h with
  | ok a b => exact iff_of_false nofun nofun
  | error e' h => rw [Except.error.injEq, Except.error.injEq]

/-- Readings that fail alike succeed together. -/
theorem FailsAlike.exists_eq_ok_iff {result : Decoded α} {result' : Decoded β}
    (h : FailsAlike P result result') : (∃ b, result' = .ok b) ↔ ∃ a, result = .ok a := by
  cases h with
  | ok a b => exact iff_of_true ⟨b, rfl⟩ ⟨a, rfl⟩
  | error e h => exact iff_of_false nofun nofun

end Decoded

open Decoded (FailsAlike)

/-! ## Values without schemas -/

/-- A pattern is read from its text. -/
theorem Pattern.decode_failsAlike {P : List String → Prop} (h : P []) (source : String) :
    FailsAlike P (Pattern.decode source) (Pattern.decode source) := by
  rw [Pattern.decode]
  cases Pattern.ofSource? source with
  | none => exact .error _ h
  | some p => exact .ok p p

namespace Json

variable {P : List String → Prop}

/-- A string is refused where it stands. -/
theorem asString_failsAlike (h : P []) (value : Json) : FailsAlike P value.asString value.asString := by
  cases value with
  | string s => exact .ok s s
  | null | bool | number | array | object => exact .error _ h

/-- A Boolean is refused where it stands. -/
theorem asBool_failsAlike (h : P []) (value : Json) : FailsAlike P value.asBool value.asBool := by
  cases value with
  | bool b => exact .ok b b
  | null | number | string | array | object => exact .error _ h

/-- A number is refused where it stands. -/
theorem asNumber_failsAlike (h : P []) (value : Json) : FailsAlike P value.asNumber value.asNumber := by
  cases value with
  | number n => exact .ok n n
  | null | bool | string | array | object => exact .error _ h

/-- An array is refused where it stands. -/
theorem asArray_failsAlike (h : P []) (value : Json) : FailsAlike P value.asArray value.asArray := by
  cases value with
  | array items => exact .ok items items
  | null | bool | number | string | object => exact .error _ h

/-- A size is refused where it stands. -/
theorem asSize_failsAlike (h : P []) (value : Json) : FailsAlike P value.asSize value.asSize := by
  cases value with
  | number n =>
    rw [asSize]
    cases size? n with
    | none => exact .error _ h
    | some size => exact .ok size size
  | null | bool | string | array | object => exact .error _ h

/-- A divisor is refused where it stands. -/
theorem asDivisor_failsAlike (h : P []) (value : Json) :
    FailsAlike P value.asDivisor value.asDivisor := by
  cases value with
  | number n =>
    change FailsAlike P (if n.toBinary64.compare .zero = .gt then _ else _) (if _ then _ else _)
    split
    · exact .ok _ _
    · exact .error _ h
  | null | bool | string | array | object => exact .error _ h

/-- A type name is refused where it stands. -/
theorem asType_failsAlike (h : P []) (value : Json) : FailsAlike P value.asType value.asType := by
  cases value with
  | string s =>
    dsimp only [asType, asString, bind, Except.bind]
    split
    · exact .ok _ _
    · exact .error _ h
  | null | bool | number | array | object => exact .error _ h

/-- Elements of lists are read alike when each of them is. -/
theorem readItems_failsAlike {α β : Type} {item : Json → Decoded α} {item' : Json → Decoded β}
    {f : Json → Json} {start : Nat} {items : List Json} (h : ∀ i value, items[i]? = some value →
      FailsAlike (fun rest => P (toString (start + i) :: rest)) (item value) (item' (f value))) :
    FailsAlike P (readItems item start items) (readItems item' start (items.map f)) := by
  induction items generalizing start with
  | nil => exact .ok [] []
  | cons value rest ih =>
    have hfirst := h 0 value rfl
    have hrest : FailsAlike P (readItems item (start + 1) rest) _ := ih fun i value hvalue => by
      rw [Nat.add_right_comm]
      exact h (i + 1) value hvalue
    exact (hfirst.below fun _ hplace => hplace).bind fun first first' =>
      hrest.bind fun others others' => .ok (first :: others) (first' :: others')

/-- A list of texts is refused where it stands, or at one of its elements. -/
theorem asList_failsAlike {α : Type} {d : Demand} (hd : d = .types ∨ d = .names)
    {item : Json → Decoded α}
    (hitem : ∀ {P : List String → Prop}, P [] → ∀ value, FailsAlike P (item value) (item value))
    (value : Json) : FailsAlike (d.Route value) (value.asList item) (value.asList item) := by
  cases value with
  | array items =>
    have h : FailsAlike (d.Route (.array items)) (readItems item 0 items)
        (readItems item 0 (items.map id)) := by
      refine readItems_failsAlike fun i value hvalue => hitem ?_ value
      rw [Nat.zero_add]
      exact .text hd hvalue
    rw [List.map_id] at h
    exact h
  | null | bool | number | string | object => exact .error _ (.here _ _)

/-- A rule for types is refused where it stands, or at one of its types. -/
theorem asTypeRule_failsAlike (value : Json) :
    FailsAlike (Demand.types.Route value) value.asTypeRule value.asTypeRule := by
  cases value with
  | string s => exact (asType_failsAlike (.here _ _) (.string s)).map _ _
  | array items =>
    cases items with
    | nil => exact .error _ (.here _ _)
    | cons first rest =>
      exact (asList_failsAlike (.inl rfl) asType_failsAlike (.array (first :: rest))).map _ _
  | null | bool | number | object => exact .error _ (.here _ _)

/-- Members are read alike when the name and the value of each of them are. -/
theorem readMembers_failsAlike {κ α β : Type} {name : String → Decoded κ} {item : Json → Decoded α}
    {item' : Json → Decoded β} {f : Json → Json} {members : List (String × Json)}
    (h : ∀ member ∈ members,
      FailsAlike (fun rest => P (member.1 :: rest)) (name member.1) (name member.1) ∧
        FailsAlike (fun rest => P (member.1 :: rest)) (item member.2) (item' (f member.2))) :
    FailsAlike P (readMembers name item members)
      (readMembers name item' (members.map fun member => (member.1, f member.2))) := by
  induction members with
  | nil => exact .ok [] []
  | cons member rest ih =>
    obtain ⟨⟨hname, hvalue⟩, hrest⟩ := List.forall_mem_cons.mp h
    have hfirst := hname.bind fun key key' => hvalue.bind fun a b => FailsAlike.ok (key, a) (key', b)
    exact (hfirst.below fun _ hplace => hplace).bind fun first first' =>
      (ih hrest).bind fun others others' => .ok (first :: others) (first' :: others')

end Json

namespace ObjectSchema

variable {σ : Type} {child : Json → Decoded σ} {replace : String → Json → Json}

/-- The value of a keyword that holds no schemas is refused on a way that a reader can take. -/
theorem decodeKeyword_failsAlike_of_not_mem_holders (o o' : ObjectSchema σ) {k : Keyword}
    (hk : k ∉ holders) (value : Json) : FailsAlike (k.demand.Route value) (decodeKeyword child o k value)
      (decodeKeyword child o' k value) := by
  have hhere : k.demand.Route value [] := .here _ _
  cases k
  case default | const => exact .ok _ _
  case dialect | id | ref | title | description | format =>
    exact (Json.asString_failsAlike hhere value).bind fun _ _ => .ok _ _
  case maximum | exclusiveMaximum | minimum | exclusiveMinimum =>
    exact (Json.asNumber_failsAlike hhere value).bind fun _ _ => .ok _ _
  case multipleOf => exact (Json.asDivisor_failsAlike hhere value).bind fun _ _ => .ok _ _
  case maxLength | minLength | maxItems | minItems | maxProperties | minProperties =>
    exact (Json.asSize_failsAlike hhere value).bind fun _ _ => .ok _ _
  case uniqueItems => exact (Json.asBool_failsAlike hhere value).bind fun _ _ => .ok _ _
  case enum | examples => exact (Json.asArray_failsAlike hhere value).bind fun _ _ => .ok _ _
  case type => exact (Json.asTypeRule_failsAlike value).bind fun _ _ => .ok _ _
  case required =>
    exact (Json.asList_failsAlike (.inr rfl) Json.asString_failsAlike value).bind fun _ _ => .ok _ _
  case pattern =>
    cases value with
    | string source => exact (Pattern.decode_failsAlike hhere source).bind fun _ _ => .ok _ _
    | null | bool | number | array | object => exact .error _ hhere
  all_goals exact absurd (by decide) hk

/-! ## Values with schemas -/

variable (h : ∀ value, FailsAlike (Demand.schema.Route value) (child value)
  (child (value.replaceUnknown replace .schema)))
include h

/-- The schemas of a list are read alike. -/
theorem readItems_child_failsAlike {d : Demand} (hd : d = .schemas ∨ d = .items) (items : List Json) :
    FailsAlike (d.Route (.array items)) (Json.readItems child 0 items)
      (Json.readItems child 0 (Json.replaceUnknownItems replace items)) := by
  rw [Json.replaceUnknownItems_eq]
  refine Json.readItems_failsAlike fun i item hitem => (h item).mono fun rest hrest => ?_
  rw [Nat.zero_add]
  exact .listed hd hitem hrest

/-- A list of schemas is read alike. -/
theorem asList_child_failsAlike (value : Json) : FailsAlike (Demand.schemas.Route value)
    (value.asList child) ((value.replaceUnknown replace .schemas).asList child) := by
  cases value with
  | array items => exact readItems_child_failsAlike h (.inl rfl) items
  | null | bool | number | string | object => exact .error _ (.here _ _)

/-- Schemas for the elements of arrays are read alike. -/
theorem decodeItems_failsAlike (value : Json) : FailsAlike (Demand.items.Route value)
    (decodeItems child value) (decodeItems child (value.replaceUnknown replace .items)) := by
  cases value with
  | array items => exact (readItems_child_failsAlike h (.inr rfl) items).map _ _
  | null | bool | number | string | object =>
    exact ((h _).mono fun rest hrest => .all nofun hrest).map _ _

/-- Named schemas are read alike. -/
theorem readMembers_child_failsAlike {κ : Type} {d : Demand} (hd : d = .named ∨ d = .matching)
    {name : String → Decoded κ}
    (hname : ∀ {P : List String → Prop}, P [] → ∀ s, FailsAlike P (name s) (name s))
    (members : List (String × Json)) :
    FailsAlike (d.Route (.object members)) (Json.readMembers name child members)
      (Json.readMembers name child (Json.replaceUnknownNamed replace members)) := by
  have hplace {member : String × Json} (hmember : member ∈ members) {rest : List String}
      (hrest : Demand.schema.Route member.2 rest) : d.Route (.object members) (member.1 :: rest) :=
    .named (hd.imp_right .inl) hmember hrest
  rw [Json.replaceUnknownNamed_eq]
  exact Json.readMembers_failsAlike fun member hmember =>
    ⟨hname (hplace hmember (.here _ _)) member.1, (h member.2).mono fun _ => hplace hmember⟩

/-- An object from names to schemas is read alike. -/
theorem asNamed_child_failsAlike (value : Json) : FailsAlike (Demand.named.Route value)
    (value.asNamed child) ((value.replaceUnknown replace .named).asNamed child) := by
  cases value with
  | object members =>
    exact readMembers_child_failsAlike h (.inl rfl) (fun _ s => .ok s s) members
  | null | bool | number | string | array => exact .error _ (.here _ _)

/-- What members demand is read alike. -/
theorem asDependencies_failsAlike (value : Json) : FailsAlike (Demand.dependencies.Route value)
    (value.asNamed (decodeDependency child))
    ((value.replaceUnknown replace .dependencies).asNamed (decodeDependency child)) := by
  cases value with
  | object members =>
    change FailsAlike _ (Json.readMembers pure (decodeDependency child) members)
      (Json.readMembers pure (decodeDependency child) (Json.replaceUnknownNamed replace members))
    rw [Json.replaceUnknownNamed_eq]
    refine Json.readMembers_failsAlike fun member hmember => ⟨.ok _ _, ?_⟩
    obtain ⟨name, item⟩ := member
    cases item with
    | array items =>
      have hnames := Json.asList_failsAlike (.inr rfl) Json.asString_failsAlike (.array items)
      exact (hnames.mono fun rest hrest => .demanded hmember hrest).map _ _
    | null | bool | number | string | object =>
      exact ((h _).mono fun rest hrest => .named (.inr (.inr rfl)) hmember hrest).map _ _
  | null | bool | number | string | array => exact .error _ (.here _ _)

/-- The value of a keyword is read alike. -/
theorem decodeKeyword_failsAlike (o o' : ObjectSchema σ) (k : Keyword) (value : Json) :
    FailsAlike (k.demand.Route value) (decodeKeyword child o k value)
      (decodeKeyword child o' k (value.replaceUnknown replace k.demand)) := by
  by_cases hk : k ∈ holders
  · cases k
    case items => exact (decodeItems_failsAlike h value).bind fun _ _ => .ok _ _
    case additionalItems | contains | additionalProperties | propertyNames | not =>
      exact (h value).bind fun _ _ => .ok _ _
    case properties | definitions =>
      exact (asNamed_child_failsAlike h value).bind fun _ _ => .ok _ _
    case patternProperties =>
      cases value with
      | object members =>
        exact (readMembers_child_failsAlike h (.inr rfl) Pattern.decode_failsAlike members).bind
          fun _ _ => .ok _ _
      | null | bool | number | string | array => exact .error _ (.here _ _)
    case dependencies => exact (asDependencies_failsAlike h value).bind fun _ _ => .ok _ _
    case allOf | anyOf | oneOf => exact (asList_child_failsAlike h value).bind fun _ _ => .ok _ _
    all_goals exact absurd hk (by decide)
  · rw [Json.replaceUnknown_of_not_mem_holders hk]
    exact decodeKeyword_failsAlike_of_not_mem_holders o o' hk value

/-- The members of a schema object are read alike. Those that are no keywords cannot go wrong. -/
theorem decode_failsAlike (members : List (String × Json)) :
    FailsAlike (Demand.schema.Route (.object members)) (decode child members)
      (decode child (Json.replaceUnknownMembers replace members)) := by
  -- No error depends on what was read before, so the two runs may start from any schema objects.
  have hrun (rest : List (String × Json)) (hrest : rest ⊆ members) (o o' : ObjectSchema σ) :
      FailsAlike (Demand.schema.Route (.object members))
        (rest.foldlM (fun o member => decodeMember child o member.1 member.2) o)
        ((Json.replaceUnknownMembers replace rest).foldlM
          (fun o member => decodeMember child o member.1 member.2) o') := by
    induction rest generalizing o o' with
    | nil => exact .ok o o'
    | cons member rest ih =>
      obtain ⟨name, value⟩ := member
      obtain ⟨hmember, hrest⟩ := List.cons_subset.mp hrest
      rw [Json.replaceUnknownMembers, List.foldlM_cons, List.foldlM_cons]
      refine FailsAlike.bind ?_ (ih hrest)
      dsimp only
      rw [decodeMember, decodeMember]
      cases hname : Keyword.ofName? name with
      | none => exact .ok _ _
      | some k =>
        obtain rfl : k.name = name := by simpa using List.find?_some hname
        exact (decodeKeyword_failsAlike h o o' k value).below fun _ => .keyword hmember
  exact hrun members (List.Subset.refl members) _ _

end ObjectSchema

namespace Schema

/-- A document is read alike when the values of its unknown keywords are replaced. -/
theorem decodeWithin_failsAlike (replace : String → Json → Json) (maximum levels : Nat) (value : Json) :
    FailsAlike (Demand.schema.Route value) (decodeWithin maximum levels value)
      (decodeWithin maximum levels (value.replaceUnknown replace .schema)) := by
  induction levels generalizing value with
  | zero => exact .error _ (.here _ _)
  | succ levels ih =>
    cases value with
    | bool b => exact .ok _ _
    | object members => exact (ObjectSchema.decode_failsAlike ih members).map _ _
    | null | number | string | array => exact .error _ (.here _ _)

/-- A document that is refused is so at a place that exists, and on the way there every schema object is
left by one of its keywords. When the values of unknown keywords are replaced, by null or by anything
else, the document is read if it was before, and refused with the same error if it was refused. -/
theorem decode_refused_at (limits : Limits) {document : Json} (hdocument : document.distinctNames = true) :
    (∀ e, decode limits document = .error e →
      (∃ node, e.pointer.lookup? document = some node) ∧
        Demand.schema.Route document e.pointer.segments) ∧
    ∀ replace : String → Json → Json,
      let replaced := document.replaceUnknown replace .schema
      ((∃ s, decode limits replaced = .ok s) ↔ ∃ s, decode limits document = .ok s) ∧
        ∀ e, decode limits replaced = .error e ↔ decode limits document = .error e := by
  have halike (replace : String → Json → Json) :=
    decodeWithin_failsAlike replace limits.schemaDepth (limits.schemaDepth + 1) document
  refine ⟨fun e he => ?_, fun replace => ⟨(halike replace).exists_eq_ok_iff, fun e => ?_⟩⟩
  · have hroute := (halike fun _ value => value).place he
    exact ⟨hroute.exists_follow? hdocument, hroute⟩
  · exact (halike replace).eq_error_iff

/-- A size that is refused in a list of schemas, between unknown keywords that hold no schemas. -/
theorem decode_refused_at_size :
    let negative : Json := .number (.integer (-1) (by decide))
    let document : Json := .object [("note", .object [("not", negative)]),
      ("allOf", .array [.bool true, .object [("maxLength", negative), ("note", negative)]])]
    let bare : Json := .object [("note", .null),
      ("allOf", .array [.bool true, .object [("maxLength", negative), ("note", .null)]])]
    let refused : DecodeError := ⟨⟨["allOf", "1", "maxLength"]⟩, .wrongKind .size negative⟩
    decode Limits.default document = .error refused ∧ decode Limits.default bare = .error refused ∧
      ∃ node, refused.pointer.lookup? document = some node := by
  intro negative document bare refused
  have hrefused : decode Limits.default document = .error refused := rfl
  have hdistinct : document.distinctNames = true := rfl
  obtain ⟨hplace, hreplaced⟩ := decode_refused_at Limits.default hdistinct
  exact ⟨hrefused, ((hreplaced fun _ _ => .null).2 refused).mpr hrefused, (hplace refused hrefused).1⟩

end Schema

end Draft6
