import Draft6.Proofs.Demands
import Draft6.Proofs.ReadNumbers
import Draft6.Proofs.RoundTrip

/-!
# Which values of keywords are read

The reader of a keyword succeeds exactly when the demand of the keyword is met, with parts that are read
themselves, and when besides its regular expressions compile and its sizes are small enough. Whether a
schema object is read depends on this alone, so neither on the order of its members nor on those that
are no keywords.
-/

namespace Draft6

/-- Keywords have names of their own. -/
theorem Keyword.name_injective : Function.Injective Keyword.name := by
  intro j k h
  have hfound := congrArg Keyword.ofName? h
  rw [ObjectSchema.ofName?_name, ObjectSchema.ofName?_name] at hfound
  exact Option.some.inj hfound

namespace Decoded

variable {α β : Type}

/-- Whether a reading gives a result. -/
def Succeeds (result : Decoded α) : Prop := ∃ a, result = .ok a

/-- Putting what was read into place cannot go wrong. -/
theorem succeeds_bind_pure {result : Decoded α} {f : α → β} :
    (result >>= fun a => pure (f a)).Succeeds ↔ result.Succeeds := by
  constructor
  · rintro ⟨b, hb⟩
    obtain ⟨a, ha, _⟩ := bind_eq_ok.mp hb
    exact ⟨a, ha⟩
  · rintro ⟨a, rfl⟩
    exact ⟨f a, rfl⟩

/-- Turning a result into another one neither makes nor loses a success. -/
theorem succeeds_map {f : α → β} {result : Decoded α} :
    (f <$> result).Succeeds ↔ result.Succeeds := by
  constructor
  · rintro ⟨b, hb⟩
    obtain ⟨a, ha, _⟩ := map_eq_ok.mp hb
    exact ⟨a, ha⟩
  · rintro ⟨a, rfl⟩
    exact ⟨f a, rfl⟩

/-- The place of a part does not count for success. -/
theorem succeeds_below {segment : String} {result : Decoded α} :
    (below segment result).Succeeds ↔ result.Succeeds :=
  exists_congr fun _ => below_eq_ok

/-- A refusal is no success. -/
theorem not_succeeds_error (e : DecodeError) : ¬ Succeeds (.error e : Decoded α) := nofun

end Decoded

open Decoded (Succeeds succeeds_bind_pure succeeds_map succeeds_below not_succeeds_error)

/-- A pattern is read when its text compiles. -/
theorem Pattern.succeeds_decode_iff (source : String) :
    (Pattern.decode source).Succeeds ↔ (Pattern.ofSource? source).isSome = true := by
  rw [Pattern.decode]
  cases Pattern.ofSource? source with
  | none => exact iff_of_false (not_succeeds_error _) Bool.false_ne_true
  | some p => exact iff_of_true ⟨p, rfl⟩ rfl

namespace Json

variable {κ α : Type} {holds : Json → Prop} {value : Json}

/-- Strings are read. -/
theorem succeeds_asString_iff : value.asString.Succeeds ↔ ∃ s, value = .string s := by
  cases value <;> simp [asString, Decoded.refuse, Succeeds]

/-- A text is read from a string. -/
theorem succeeds_asString_iff_met : value.asString.Succeeds ↔ Demand.text.Met holds value := by
  rw [succeeds_asString_iff]
  constructor
  · rintro ⟨s, rfl⟩
    exact .text s
  · rintro ⟨⟩
    exact ⟨_, rfl⟩

/-- Numbers are read. -/
theorem succeeds_asNumber_iff : value.asNumber.Succeeds ↔ Demand.number.Met holds value := by
  cases value with
  | number n => exact iff_of_true ⟨n, rfl⟩ (.number n)
  | null | bool | string | array | object => exact iff_of_false (not_succeeds_error _) nofun

/-- Booleans are read. -/
theorem succeeds_asBool_iff : value.asBool.Succeeds ↔ Demand.flag.Met holds value := by
  cases value with
  | bool b => exact iff_of_true ⟨b, rfl⟩ (.flag b)
  | null | number | string | array | object => exact iff_of_false (not_succeeds_error _) nofun

/-- Arrays are read. -/
theorem succeeds_asArray_iff : value.asArray.Succeeds ↔ Demand.list.Met holds value := by
  cases value with
  | array items => exact iff_of_true ⟨items, rfl⟩ (.list items)
  | null | bool | number | string | object => exact iff_of_false (not_succeeds_error _) nofun

/-- A regular expression is read from a string that compiles. -/
theorem succeeds_asExpression_iff : (value.asString >>= Pattern.decode).Succeeds ↔
    Demand.expression.Met holds value ∧
      ∀ source ∈ Demand.expression.expressions value, (Pattern.ofSource? source).isSome = true := by
  cases value with
  | string source =>
    change (Pattern.decode source).Succeeds ↔ _
    rw [Pattern.succeeds_decode_iff]
    exact ⟨fun h => ⟨.expression source, fun _ hmem => List.mem_singleton.mp hmem ▸ h⟩,
      fun h => h.2 source List.mem_cons_self⟩
  | null | bool | number | array | object =>
    exact iff_of_false (not_succeeds_error _) (by rintro ⟨⟨⟩, _⟩)

/-- A size is read from a whole number up to the bound. -/
theorem succeeds_asSize_iff : value.asSize.Succeeds ↔
    Demand.size.Met holds value ∧ ∀ n ∈ Demand.size.sizes value, n.toRat ≤ sizeBound := by
  cases value with
  | number n =>
    have hsize : (asSize (.number n)).Succeeds ↔ (size? n).isSome = true := by
      rw [asSize]
      cases size? n with
      | none => exact iff_of_false (not_succeeds_error _) Bool.false_ne_true
      | some size => exact iff_of_true ⟨size, rfl⟩ rfl
    rw [hsize, size?_isSome_iff]
    constructor
    · rintro ⟨hwhole, hpos, hbound⟩
      exact ⟨.size n hwhole hpos, fun _ hmem => List.mem_singleton.mp hmem ▸ hbound⟩
    · rintro ⟨hmet, hbound⟩
      cases hmet with
      | size _ hwhole hpos => exact ⟨hwhole, hpos, hbound n List.mem_cons_self⟩
  | null | bool | string | array | object =>
    exact iff_of_false (not_succeeds_error _) (by rintro ⟨⟨⟩, _⟩)

/-- A divisor is read from a positive number. -/
theorem succeeds_asDivisor_iff : value.asDivisor.Succeeds ↔ Demand.divisor.Met holds value := by
  cases value with
  | number n =>
    have hpos := n.toBinary64_pos_iff
    change Succeeds (if n.toBinary64.compare .zero = .gt then _ else _) ↔ _
    split
    · next h => exact iff_of_true ⟨_, rfl⟩ (.divisor n (hpos.mp h))
    · next h =>
      refine iff_of_false (not_succeeds_error _) fun hmet => ?_
      cases hmet with
      | divisor _ hn => exact h (hpos.mpr hn)
  | null | bool | string | array | object => exact iff_of_false (not_succeeds_error _) nofun

/-- A list is read when its elements are. -/
theorem succeeds_readItems_iff {item : Json → Decoded α} {start : Nat} {items : List Json} :
    (readItems item start items).Succeeds ↔ ∀ part ∈ items, (item part).Succeeds := by
  induction items generalizing start with
  | nil => exact iff_of_true ⟨[], rfl⟩ nofun
  | cons first rest ih =>
    have hrest : (readItems item (start + 1) rest).Succeeds ↔ _ := ih
    rw [List.forall_mem_cons, ← hrest]
    constructor
    · rintro ⟨xs, h⟩
      obtain ⟨x, hx, h⟩ := bind_eq_ok.mp h
      obtain ⟨others, hothers, _⟩ := bind_eq_ok.mp h
      exact ⟨⟨x, Decoded.below_eq_ok.mp hx⟩, others, hothers⟩
    · rintro ⟨⟨x, hx⟩, others, hothers⟩
      exact ⟨_, bind_eq_ok.mpr ⟨x, Decoded.below_eq_ok.mpr hx,
        bind_eq_ok.mpr ⟨others, hothers, rfl⟩⟩⟩

/-- The members of an object are read when their names and values are. -/
theorem succeeds_readMembers_iff {name : String → Decoded κ} {item : Json → Decoded α}
    {members : List (String × Json)} :
    (readMembers name item members).Succeeds ↔
      ∀ member ∈ members, (name member.1).Succeeds ∧ (item member.2).Succeeds := by
  induction members with
  | nil => exact iff_of_true ⟨[], rfl⟩ nofun
  | cons first rest ih =>
    rw [List.forall_mem_cons, ← ih]
    constructor
    · rintro ⟨xs, h⟩
      obtain ⟨x, hx, h⟩ := bind_eq_ok.mp h
      obtain ⟨others, hothers, _⟩ := bind_eq_ok.mp h
      obtain ⟨k, hk, hx⟩ := bind_eq_ok.mp (Decoded.below_eq_ok.mp hx)
      obtain ⟨v, hv, _⟩ := bind_eq_ok.mp hx
      exact ⟨⟨⟨k, hk⟩, v, hv⟩, others, hothers⟩
    · rintro ⟨⟨⟨k, hk⟩, v, hv⟩, others, hothers⟩
      have hfirst : (do pure (← name first.1, ← item first.2)) = Except.ok (k, v) :=
        bind_eq_ok.mpr ⟨k, hk, bind_eq_ok.mpr ⟨v, hv, rfl⟩⟩
      exact ⟨_, bind_eq_ok.mpr ⟨(k, v), Decoded.below_eq_ok.mpr hfirst,
        bind_eq_ok.mpr ⟨others, hothers, rfl⟩⟩⟩

/-- A list is read from an array whose elements are read. -/
theorem succeeds_asList_iff {item : Json → Decoded α} : (value.asList item).Succeeds ↔
    ∃ items, value = .array items ∧ ∀ part ∈ items, (item part).Succeeds := by
  cases value with
  | array items =>
    simp only [array.injEq, exists_eq_left']
    exact succeeds_readItems_iff
  | null | bool | number | string | object =>
    exact iff_of_false (not_succeeds_error _) (by simp)

/-- Values with keys are read from an object whose names and values are read. -/
theorem succeeds_asObject_iff {name : String → Decoded κ} {item : Json → Decoded α} :
    (value.asObject >>= readMembers name item).Succeeds ↔
      ∃ members, value = .object members ∧
        ∀ member ∈ members, (name member.1).Succeeds ∧ (item member.2).Succeeds := by
  cases value with
  | object members =>
    simp only [object.injEq, exists_eq_left']
    exact succeeds_readMembers_iff
  | null | bool | number | string | array =>
    exact iff_of_false (not_succeeds_error _) (by simp)

/-- Named values are read from an object whose values are read. -/
theorem succeeds_asNamed_iff {item : Json → Decoded α} : (value.asNamed item).Succeeds ↔
    ∃ members, value = .object members ∧ ∀ member ∈ members, (item member.2).Succeeds := by
  have hname (s : String) : (pure s : Decoded String).Succeeds := ⟨s, rfl⟩
  simp only [asNamed, succeeds_asObject_iff, hname, true_and]

/-- The names of the types are read. -/
theorem succeeds_asType_iff :
    value.asType.Succeeds ↔ ∃ type : SimpleType, value = .string type.name := by
  constructor
  · rintro ⟨_, h⟩
    obtain ⟨name, hname, hknown⟩ := bind_eq_ok.mp h
    obtain ⟨s, rfl⟩ := succeeds_asString_iff.mp ⟨name, hname⟩
    cases hname
    split at hknown
    · next type hfound =>
      have hsame := List.find?_some hfound
      exact ⟨type, congrArg string (of_decide_eq_true hsame).symm⟩
    · cases hknown
  · rintro ⟨type, rfl⟩
    cases type <;> exact ⟨_, rfl⟩

/-- A rule for types is read from the name of a type, and from an array of some of them. -/
theorem succeeds_asTypeRule_iff {holds : Json → Prop} :
    value.asTypeRule.Succeeds ↔ Demand.types.Met holds value := by
  constructor
  · intro h
    rw [asTypeRule.eq_def] at h
    split at h
    · obtain ⟨type, htype⟩ := succeeds_asType_iff.mp (succeeds_map.mp h)
      rw [htype]
      exact .type type
    · exact absurd h (not_succeeds_error _)
    · next items hitems =>
      obtain ⟨_, ⟨⟩, hparts⟩ := succeeds_asList_iff.mp (succeeds_map.mp h)
      exact .types items hitems fun item hitem => succeeds_asType_iff.mp (hparts item hitem)
    · exact absurd h (not_succeeds_error _)
  · intro h
    cases h with
    | type type => exact succeeds_map.mpr (succeeds_asType_iff.mpr ⟨type, rfl⟩)
    | types items hitems h =>
      obtain ⟨first, rest, rfl⟩ := List.exists_cons_of_ne_nil hitems
      exact succeeds_map.mpr (succeeds_asList_iff.mpr
        ⟨_, rfl, fun item hitem => succeeds_asType_iff.mpr (h item hitem)⟩)

/-- A list of strings is read from an array of strings. -/
theorem succeeds_asNames_iff :
    (value.asList asString).Succeeds ↔ Demand.names.Met holds value := by
  simp only [succeeds_asList_iff, succeeds_asString_iff]
  constructor
  · rintro ⟨items, rfl, h⟩
    exact .names items h
  · rintro ⟨⟩
    exact ⟨_, rfl, ‹_›⟩

end Json

namespace ObjectSchema

variable {σ : Type} {child : Json → Decoded σ} {value : Json}

/-- A list of schemas is read from an array of schemas. -/
theorem succeeds_asList_child_iff : (value.asList child).Succeeds ↔
    Demand.schemas.Met (fun part => (child part).Succeeds) value := by
  rw [Json.succeeds_asList_iff]
  constructor
  · rintro ⟨items, rfl, h⟩
    exact .schemas items h
  · rintro ⟨⟩
    exact ⟨_, rfl, ‹_›⟩

/-- Named schemas are read from an object of schemas. -/
theorem succeeds_asNamed_child_iff : (value.asNamed child).Succeeds ↔
    Demand.named.Met (fun part => (child part).Succeeds) value := by
  rw [Json.succeeds_asNamed_iff]
  constructor
  · rintro ⟨members, rfl, h⟩
    exact .named members h
  · rintro ⟨⟩
    exact ⟨_, rfl, ‹_›⟩

/-- Schemas for patterns are read from an object of schemas whose names compile. -/
theorem succeeds_readPatterns_iff : (value.asObject >>= Json.readMembers Pattern.decode child).Succeeds ↔
    Demand.matching.Met (fun part => (child part).Succeeds) value ∧
      ∀ source ∈ Demand.matching.expressions value, (Pattern.ofSource? source).isSome = true := by
  rw [Json.succeeds_asObject_iff]
  constructor
  · rintro ⟨members, rfl, h⟩
    refine ⟨.matching members fun member hmember => (h member hmember).2, ?_⟩
    exact List.forall_mem_map.mpr fun member hmember =>
      (Pattern.succeeds_decode_iff _).mp (h member hmember).1
  · rintro ⟨hmet, hnames⟩
    cases hmet with
    | matching members h =>
      refine ⟨members, rfl, fun member hmember => ⟨?_, h member hmember⟩⟩
      exact (Pattern.succeeds_decode_iff _).mpr (List.forall_mem_map.mp hnames member hmember)

/-- Schemas for elements are read from an array of schemas or from one schema. -/
theorem succeeds_decodeItems_iff : (decodeItems child value).Succeeds ↔
    Demand.items.Met (fun part => (child part).Succeeds) value := by
  by_cases hvalue : value.IsArray
  · obtain ⟨items, rfl⟩ := hvalue
    rw [decodeItems, succeeds_map, Json.succeeds_asList_iff]
    constructor
    · rintro ⟨_, ⟨⟩, h⟩
      exact .each items h
    · intro h
      cases h with
      | all _ hvalue => exact absurd ⟨items, rfl⟩ hvalue
      | each _ h => exact ⟨items, rfl, h⟩
  · rw [decodeItems.eq_2 _ _ fun items h => hvalue ⟨items, h⟩, succeeds_map]
    exact ⟨fun h => .all value hvalue h, fun h => h.part (.all value hvalue)⟩

/-- What a member demands is read from an array of names or from a schema. -/
theorem succeeds_decodeDependency_iff : (decodeDependency child value).Succeeds ↔
    (¬ value.IsArray ∧ (child value).Succeeds) ∨
      ∃ items, value = .array items ∧ ∀ item ∈ items, ∃ name, item = .string name := by
  by_cases hvalue : value.IsArray
  · obtain ⟨items, rfl⟩ := hvalue
    rw [decodeDependency, succeeds_map, Json.succeeds_asList_iff, or_iff_right]
    · simp only [Json.succeeds_asString_iff]
    · exact fun h => h.1 ⟨items, rfl⟩
  · rw [decodeDependency.eq_2 _ _ fun items h => hvalue ⟨items, h⟩, succeeds_map, or_iff_left]
    · exact (and_iff_right hvalue).symm
    · rintro ⟨items, hitems, _⟩
      exact hvalue ⟨items, hitems⟩

/-- What members demand is read from an object of such demands. -/
theorem succeeds_asDependencies_iff : (value.asNamed (decodeDependency child)).Succeeds ↔
    Demand.dependencies.Met (fun part => (child part).Succeeds) value := by
  simp only [Json.succeeds_asNamed_iff, succeeds_decodeDependency_iff]
  constructor
  · rintro ⟨members, rfl, h⟩
    exact .dependencies members h
  · rintro ⟨⟩
    exact ⟨_, rfl, ‹_›⟩

end ObjectSchema

/-! ## Keywords -/

/-- What the reader of a keyword asks of its value: that it meets the demand, with parts that are read,
that its regular expressions compile, and that its sizes are small enough. -/
structure Demand.Readable {σ : Type} (child : Json → Decoded σ) (d : Demand) (value : Json) :
    Prop where
  met : d.Met (fun part => (child part).Succeeds) value
  expressions : ∀ source ∈ d.expressions value, (Pattern.ofSource? source).isSome = true
  sizes : ∀ n ∈ d.sizes value, n.toRat ≤ Json.sizeBound

/-- Where there are neither expressions nor sizes, only the demand counts. -/
theorem Demand.readable_iff_met {σ : Type} {child : Json → Decoded σ} {d : Demand} {value : Json}
    (hexpressions : d.expressions value = []) (hsizes : d.sizes value = []) :
    d.Readable child value ↔ d.Met (fun part => (child part).Succeeds) value := by
  refine ⟨fun h => h.met, fun h => ⟨h, fun source hsource => ?_, fun n hn => ?_⟩⟩
  · rw [hexpressions] at hsource
    cases hsource
  · rw [hsizes] at hn
    cases hn

namespace ObjectSchema

variable {σ : Type} {child : Json → Decoded σ}

/-- The value of a keyword is read exactly when it is as the reader asks. -/
theorem succeeds_decodeKeyword_iff (o : ObjectSchema σ) (k : Keyword) (value : Json) :
    (decodeKeyword child o k value).Succeeds ↔ k.demand.Readable child value := by
  cases k <;> simp only [decodeKeyword, Keyword.demand, succeeds_bind_pure]
  case default | const =>
    rw [Demand.readable_iff_met rfl rfl]
    exact iff_of_true ⟨_, rfl⟩ (.anything value)
  case dialect | id | ref | title | description | format =>
    rw [Demand.readable_iff_met rfl rfl]
    exact Json.succeeds_asString_iff_met
  case maximum | exclusiveMaximum | minimum | exclusiveMinimum =>
    rw [Demand.readable_iff_met rfl rfl]
    exact Json.succeeds_asNumber_iff
  case multipleOf =>
    rw [Demand.readable_iff_met rfl rfl]
    exact Json.succeeds_asDivisor_iff
  case maxLength | minLength | maxItems | minItems | maxProperties | minProperties =>
    rw [Json.succeeds_asSize_iff]
    exact ⟨fun h => ⟨h.1, fun _ hsource => (List.not_mem_nil hsource).elim, h.2⟩,
      fun h => ⟨h.met, h.sizes⟩⟩
  case uniqueItems =>
    rw [Demand.readable_iff_met rfl rfl]
    exact Json.succeeds_asBool_iff
  case type =>
    rw [Demand.readable_iff_met rfl rfl]
    exact Json.succeeds_asTypeRule_iff
  case enum | examples =>
    rw [Demand.readable_iff_met rfl rfl]
    exact Json.succeeds_asArray_iff
  case required =>
    rw [Demand.readable_iff_met rfl rfl]
    exact Json.succeeds_asNames_iff
  case additionalItems | contains | additionalProperties | propertyNames | not =>
    rw [Demand.readable_iff_met rfl rfl]
    exact ⟨fun h => .schema value h, fun h => h.part (.schema value)⟩
  case allOf | anyOf | oneOf =>
    rw [Demand.readable_iff_met rfl rfl]
    exact succeeds_asList_child_iff
  case items =>
    rw [Demand.readable_iff_met rfl rfl]
    exact succeeds_decodeItems_iff
  case properties | definitions =>
    rw [Demand.readable_iff_met rfl rfl]
    exact succeeds_asNamed_child_iff
  case dependencies =>
    rw [Demand.readable_iff_met rfl rfl]
    exact succeeds_asDependencies_iff
  case patternProperties =>
    rw [← bind_assoc, succeeds_bind_pure, succeeds_readPatterns_iff]
    exact ⟨fun h => ⟨h.1, h.2, fun _ hn => (List.not_mem_nil hn).elim⟩,
      fun h => ⟨h.met, h.expressions⟩⟩
  case pattern =>
    rw [← bind_assoc, succeeds_bind_pure, Json.succeeds_asExpression_iff]
    exact ⟨fun h => ⟨h.1, h.2, fun _ hn => (List.not_mem_nil hn).elim⟩,
      fun h => ⟨h.met, h.expressions⟩⟩

/-- One member of a schema object is read exactly when its value is as the reader of its keyword asks,
if it has one. -/
theorem succeeds_decodeMember_iff (o : ObjectSchema σ) (name : String) (value : Json) :
    (decodeMember child o name value).Succeeds ↔
      ∀ k : Keyword, k.name = name → k.demand.Readable child value := by
  rw [decodeMember]
  split
  · next k hk =>
    rw [succeeds_below, succeeds_decodeKeyword_iff]
    constructor
    · rintro h j rfl
      rw [ofName?_name] at hk
      exact Option.some.inj hk ▸ h
    · have hname := @List.find?_some _ (fun k : Keyword => decide (k.name = name)) _ _ hk
      exact fun h => h k (of_decide_eq_true hname)
  · next hnone =>
    refine iff_of_true ⟨_, rfl⟩ ?_
    rintro k rfl
    rw [ofName?_name] at hnone
    cases hnone

/-- The members of a schema object are read exactly when the values of its keywords are as their readers
ask. What else there is cannot go wrong. -/
theorem succeeds_decode_iff (members : List (String × Json)) :
    (decode child members).Succeeds ↔
      ∀ (k : Keyword) value, (k.name, value) ∈ members → k.demand.Readable child value := by
  -- Whether a member is read does not depend on what was read before it.
  have hrun (o : ObjectSchema σ) :
      Succeeds (members.foldlM (fun o member => decodeMember child o member.1 member.2) o) ↔
        ∀ (k : Keyword) value, (k.name, value) ∈ members → k.demand.Readable child value := by
    induction members generalizing o with
    | nil => exact iff_of_true ⟨o, rfl⟩ fun k value h => (List.not_mem_nil h).elim
    | cons member rest ih =>
      obtain ⟨name, value⟩ := member
      have hfirst : (decodeMember child o name value).Succeeds ↔ _ :=
        succeeds_decodeMember_iff o name value
      rw [List.foldlM_cons]
      constructor
      · rintro ⟨p, hp⟩ k part hmem
        obtain ⟨next, hnext, hp⟩ := bind_eq_ok.mp hp
        rcases List.mem_cons.mp hmem with heq | hmem
        · obtain ⟨hname, rfl⟩ := Prod.mk.inj heq
          exact hfirst.mp ⟨next, hnext⟩ k hname
        · exact (ih next).mp ⟨p, hp⟩ k part hmem
      · intro h
        obtain ⟨next, hnext⟩ := hfirst.mpr fun k hk => h k value (hk ▸ List.mem_cons_self)
        obtain ⟨p, hp⟩ := (ih next).mpr fun k part hmem => h k part (List.mem_cons_of_mem _ hmem)
        exact ⟨p, bind_eq_ok.mpr ⟨next, hnext, hp⟩⟩
  exact hrun _

end ObjectSchema

namespace Schema

variable {maximum maximum' levels : Nat}

/-- An object is read exactly when the values of its keywords are, with one level less for schemas in
them. -/
theorem succeeds_decodeWithin_object_iff {members : List (String × Json)} :
    (decodeWithin maximum (levels + 1) (.object members)).Succeeds ↔
      ∀ (k : Keyword) value, (k.name, value) ∈ members →
        k.demand.Readable (decodeWithin maximum levels) value :=
  Decoded.succeeds_map.trans (ObjectSchema.succeeds_decode_iff members)

/-- What is read with some levels left is read with more of them, whatever limit is reported. -/
theorem succeeds_decodeWithin_mono {more : Nat} (hle : levels ≤ more) {value : Json}
    (h : (decodeWithin maximum levels value).Succeeds) :
    (decodeWithin maximum' more value).Succeeds := by
  induction levels generalizing more value with
  | zero => exact absurd h (not_succeeds_error _)
  | succ levels ih =>
    obtain ⟨more, rfl⟩ := Nat.exists_eq_succ_of_ne_zero (by omega : more ≠ 0)
    cases value with
    | bool b => exact ⟨_, rfl⟩
    | object members =>
      rw [succeeds_decodeWithin_object_iff] at h ⊢
      intro k value hmember
      obtain ⟨hmet, hexpressions, hsizes⟩ := h k value hmember
      exact ⟨hmet.mono fun part _ hpart => ih (by omega) hpart, hexpressions, hsizes⟩
    | null | number | string | array => exact absurd h (not_succeeds_error _)

end Schema

end Draft6
