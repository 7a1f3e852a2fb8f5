import Draft6.Proofs.KeywordReading
import Draft6.Proofs.MetaSchemaDemands

/-!
# Documents that the meta-schema accepts

The meta-schema and the decoder describe the same documents, once as a schema and once as a program. They
are compared keyword by keyword: what the rule of a keyword allows meets its demand, and what meets the
demand is read. Reading goes down one level where accepting goes down two, so the maxima for both fit.

The decoder asks for two things more. Regular expressions must compile, which no rule demands, and sizes
may not exceed `2 ^ 64`, while the meta-schema has no bound for them.
-/

namespace Draft6

namespace Json

/-- Which values the keywords of the schemas in a document have. -/
inductive HasKeyword : Json → Keyword → Json → Prop
  | here {members : List (String × Json)} {k : Keyword} {value : Json}
      (h : (k.name, value) ∈ members) : HasKeyword (.object members) k value
  | deeper {members : List (String × Json)} {outer k : Keyword} {value part inner : Json}
      (h : (outer.name, value) ∈ members) (hpart : outer.demand.Part value part)
      (hkeyword : HasKeyword part k inner) : HasKeyword (.object members) k inner

/-- Whether all regular expressions in a document compile. -/
def PatternsCompile (document : Json) : Prop :=
  ∀ k value, document.HasKeyword k value →
    ∀ source ∈ k.demand.expressions value, (Pattern.ofSource? source).isSome = true

/-- Whether no size in a document exceeds the largest one that is read. -/
def SizesFit (document : Json) : Prop :=
  ∀ k value, document.HasKeyword k value → ∀ n ∈ k.demand.sizes value, n.toRat ≤ sizeBound

end Json

namespace Schema

open Decoded (Succeeds)

variable {maximum levels : Nat} {document : Json}

/-- The values of all keywords in a document that is read are as their readers ask. -/
theorem exists_readable_of_hasKeyword {k : Keyword} {value : Json} (h : document.HasKeyword k value)
    (hread : (decodeWithin maximum levels document).Succeeds) :
    ∃ fewer, k.demand.Readable (decodeWithin maximum fewer) value := by
  induction h generalizing levels with
  | here hmember =>
    cases levels with
    | zero => exact absurd hread (Decoded.not_succeeds_error _)
    | succ levels => exact ⟨levels, succeeds_decodeWithin_object_iff.mp hread _ _ hmember⟩
  | deeper hmember hpart _ ih =>
    cases levels with
    | zero => exact absurd hread (Decoded.not_succeeds_error _)
    | succ levels =>
      have houter := succeeds_decodeWithin_object_iff.mp hread _ _ hmember
      exact ih (houter.met.part hpart)

/-- A document that the meta-schema accepts is read when its regular expressions compile and its sizes
fit, if there are as many levels for reading as for accepting. -/
theorem succeeds_decodeWithin_of_accepts {limit reading : Nat}
    (haccepts : MetaSchema.Accepts limit levels document) (hlevels : levels ≤ reading)
    (hpatterns : document.PatternsCompile) (hsizes : document.SizesFit) :
    (decodeWithin maximum reading document).Succeeds := by
  induction levels using Nat.strong_induction_on generalizing document reading with
  | h levels ih =>
    cases reading with
    | zero =>
      obtain rfl := Nat.le_zero.mp hlevels
      exact absurd haccepts Pool.not_grants_zero
    | succ reading =>
      rcases haccepts.isSchema with ⟨members, rfl⟩ | ⟨b, rfl⟩
      · refine succeeds_decodeWithin_object_iff.mpr fun k value hmember => ?_
        obtain ⟨fewer, hfewer, n, hn, hallows⟩ := haccepts.allows_keyword hmember
        refine ⟨(hallows.met hn).mono fun part hpart haccepted => ?_,
          hpatterns k value (.here hmember), hsizes k value (.here hmember)⟩
        obtain ⟨lowest, hlowest, haccepted⟩ := haccepted
        exact ih lowest (hlowest.trans hfewer) haccepted (by omega)
          (fun k' inner h => hpatterns k' inner (.deeper hmember hpart h))
          (fun k' inner h => hsizes k' inner (.deeper hmember hpart h))
      · exact ⟨.boolean b, rfl⟩

end Schema

/-! ## Documents that are accepted -/

namespace MetaSchema

/-- A reference to sizes reports nothing about a whole number that is not negative. -/
theorem visit_size_eq_nil {maximum levels : Nat} {frame : Frame} {n : Node}
    (hn : n.schema = Definition.nonNegativeInteger.reference) (hscope : frame.scope = inside)
    (hactive : frame.active = []) {size : Number} (hwhole : size.isWhole = true)
    (hsize : size.compare Number.zero ≠ .lt) :
    Pool.draft6.visit maximum (levels + 2) frame n (.number size) = [] := by
  rw [visit_reference .nonNegativeInteger hn hscope hactive]
  refine ObjectSchema.failures_eq_nil_of_calls _ _
    (fun _ hcall => (List.not_mem_nil hcall).elim) ?_
  constructor
  case type => exact hwhole
  case kind =>
    constructor
    case minimum =>
      rintro _ ⟨⟩
      rwa [ne_eq, Number.compare_eq_lt_iff, not_lt] at hsize
    all_goals rintro _ ⟨⟩
  all_goals rintro _ ⟨⟩

/-- The number three. -/
def three : Number := .integer 3 (by decide)

/-- The number `10 ^ 20`, which is a whole binary64 number. -/
def huge : Number := .float ⟨false, 6103515625000000, 14, by decide⟩

/-- A schema for strings of a bounded length that do not begin with some letter. -/
def shortStrings : Json :=
  .object [("maxLength", .number three), ("not", .object [("pattern", .string "^a")])]

/-- A schema for strings of almost any length. -/
def longStrings : Json := .object [("maxLength", .number huge)]

/-- The meta-schema accepts the schema for short strings. -/
theorem accepts_shortStrings :
    Pool.draft6.accepts Limits.default node shortStrings = true := by
  refine List.isEmpty_iff.mpr (visit_object_eq_nil
    [(.maxLength, .number three), (.not, .object [("pattern", .string "^a")])] rfl ?_)
  rintro _ hmember below hscope hactive
  rcases List.mem_pair.mp hmember with rfl | rfl
  · exact visit_size_eq_nil rfl hscope hactive (by decide) (by decide)
  · change Pool.draft6.visit _ (127 + 1) _ _ _ = []
    refine (visit_any (by rfl) hscope hactive).trans ?_
    refine visit_object_eq_nil [(.pattern, .string "^a")] rfl ?_
    rintro _ hpattern _ _ _
    obtain rfl := List.mem_singleton.mp hpattern
    rfl

/-- The meta-schema accepts the schema for long strings. -/
theorem accepts_longStrings : Pool.draft6.accepts Limits.default node longStrings = true := by
  refine List.isEmpty_iff.mpr (visit_object_eq_nil [(.maxLength, .number huge)] rfl ?_)
  rintro _ hmember below hscope hactive
  obtain rfl := List.mem_singleton.mp hmember
  exact visit_size_eq_nil rfl hscope hactive (by decide) (by decide)

/-- There are no regular expressions in the schema for long strings. -/
theorem patternsCompile_longStrings : longStrings.PatternsCompile := by
  intro k value h
  cases h with
  | here h =>
    obtain ⟨hname, rfl⟩ := Prod.mk.inj (List.mem_singleton.mp h)
    obtain rfl : k = .maxLength := Keyword.name_injective hname
    exact fun _ hsource => (List.not_mem_nil hsource).elim
  | deeper h hpart =>
    obtain ⟨hname, rfl⟩ := Prod.mk.inj (List.mem_singleton.mp h)
    obtain rfl : _ = Keyword.maxLength := Keyword.name_injective hname
    cases hpart

/-- A document that the meta-schema accepts is a schema exactly when its regular expressions compile and
none of its sizes exceeds the largest one that is read. -/
theorem exists_decode_iff_of_accepts (document : Json)
    (h : Pool.draft6.accepts Limits.default node document = true) :
    (∃ schema, Schema.decode Limits.default document = .ok schema) ↔
      document.PatternsCompile ∧ document.SizesFit := by
  have haccepts : Accepts Limits.default.validationDepth (Limits.default.validationDepth + 1)
      document := ⟨Pool.draft6.start node, rfl, List.isEmpty_iff.mp h⟩
  constructor
  · intro hread
    constructor
    · intro k value hkeyword
      obtain ⟨_, hreadable⟩ := Schema.exists_readable_of_hasKeyword hkeyword hread
      exact hreadable.expressions
    · intro k value hkeyword
      obtain ⟨_, hreadable⟩ := Schema.exists_readable_of_hasKeyword hkeyword hread
      exact hreadable.sizes
  · rintro ⟨hpatterns, hsizes⟩
    exact Schema.succeeds_decodeWithin_of_accepts haccepts (Nat.le_refl _) hpatterns hsizes

/-- The schema for short strings is accepted and read, so its regular expression compiles and its size
fits. -/
theorem exists_decode_shortStrings :
    Pool.draft6.accepts Limits.default node shortStrings = true ∧
      (∃ schema, Schema.decode Limits.default shortStrings = .ok schema) ∧
      shortStrings.PatternsCompile ∧ shortStrings.SizesFit := by
  have hread : ∃ schema, Schema.decode Limits.default shortStrings = .ok schema := by
    have hsome : (Schema.decode Limits.default shortStrings).toOption.isSome = true := by decide
    cases hdecode : Schema.decode Limits.default shortStrings with
    | error e =>
      rw [hdecode] at hsome
      cases hsome
    | ok schema => exact ⟨schema, rfl⟩
  exact ⟨accepts_shortStrings, hread,
    (exists_decode_iff_of_accepts shortStrings accepts_shortStrings).mp hread⟩

/-- The schema for long strings is accepted, and has no regular expressions, but is not read. -/
theorem not_decode_longStrings :
    Pool.draft6.accepts Limits.default node longStrings = true ∧ longStrings.PatternsCompile ∧
      ¬ ∃ schema, Schema.decode Limits.default longStrings = .ok schema := by
  refine ⟨accepts_longStrings, patternsCompile_longStrings, ?_⟩
  rintro ⟨schema, hdecode⟩
  have hnone : (Schema.decode Limits.default longStrings).toOption.isNone = true := by decide
  rw [hdecode] at hnone
  cases hnone

end MetaSchema

end Draft6
