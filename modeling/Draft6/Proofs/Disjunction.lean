import Draft6.Proofs.ReadingLimits
import Draft6.Proofs.Relocation
import Draft6.Proofs.RoundTrip
import Draft6.Proofs.Verdict

/-!
# Disjunction and its dual

A list of schemas one of which must accept a value can also be written with `not` and `allOf`: it must
not be that none of them accepts the value. Each of the three keywords is one operation on the answers of
its branches, and both ways of writing answer alike unless the list is empty. Then no branch accepts the
value, and neither does the dual. But the disjunction has nothing to report, and accepts everything.
-/

namespace Draft6

/-! ## Schemas and documents -/

namespace Schema

/-- The schema that accepts what another one does not. -/
def denial (schema : Schema) : Schema := .object { not := some schema }

/-- The schema that accepts what all of some schemas accept. -/
def conjunction (schemas : List Schema) : Schema := .object { allOf := some schemas }

/-- The schema that accepts what one of some schemas accepts. -/
def disjunction (schemas : List Schema) : Schema := .object { anyOf := some schemas }

/-- The schema that does not accept what none of some schemas accepts. -/
def dual (schemas : List Schema) : Schema := denial (conjunction (schemas.map denial))

end Schema

namespace Json

/-- The document of a denial. -/
def denial (document : Json) : Json := .object [(Keyword.not.name, document)]

/-- The document of a conjunction. -/
def conjunction (documents : List Json) : Json := .object [(Keyword.allOf.name, .array documents)]

/-- The document of a disjunction. -/
def disjunction (documents : List Json) : Json := .object [(Keyword.anyOf.name, .array documents)]

/-- The document of the dual of a disjunction. -/
def dual (documents : List Json) : Json := denial (conjunction (documents.map denial))

/-- Elements that are read one by one are read as a list. -/
theorem readItems_eq_ok {α : Type} {item : Json → Decoded α} {values : List Json} {xs : List α}
    (h : List.Forall₂ (fun value x => item value = .ok x) values xs) (start : Nat) :
    readItems item start values = .ok xs := by
  induction h generalizing start with
  | nil => rfl
  | cons hfirst _ ih => simp only [readItems, hfirst, ih]; rfl

end Json

namespace Schema

variable {maximum levels : Nat}

/-- A document with one keyword is read as its value is. -/
theorem decodeWithin_single {k : Keyword} {value : Json} {o : ObjectSchema Schema}
    (hid : ObjectSchema.olderId? [(k.name, value)] = none)
    (h : ObjectSchema.decodeKeyword (decodeWithin maximum levels) {} k value = .ok o) :
    decodeWithin maximum (levels + 1) (.object [(k.name, value)]) = .ok (.object o) := by
  rw [decodeWithin, ObjectSchema.decode, hid, List.foldlM_cons]
  simp only [ObjectSchema.decodeMember, ObjectSchema.ofName?_name, h]
  rfl

/-- The document of a denial is read one level deeper. -/
theorem decodeWithin_denial {document : Json} {schema : Schema}
    (h : decodeWithin maximum levels document = .ok schema) :
    decodeWithin maximum (levels + 1) document.denial = .ok schema.denial :=
  decodeWithin_single rfl (by rw [ObjectSchema.decodeKeyword, h]; rfl)

variable {documents : List Json} {schemas : List Schema}

/-- The document of a conjunction is read one level deeper. -/
theorem decodeWithin_conjunction
    (h : List.Forall₂ (fun document schema => decodeWithin maximum levels document = .ok schema) documents
      schemas) :
    decodeWithin maximum (levels + 1) (Json.conjunction documents) = .ok (conjunction schemas) := by
  have hread : Json.asList (decodeWithin maximum levels) (.array documents) = .ok schemas :=
    Json.readItems_eq_ok h 0
  exact decodeWithin_single rfl (by rw [ObjectSchema.decodeKeyword, hread]; rfl)

/-- The document of a disjunction is read one level deeper. -/
theorem decodeWithin_disjunction
    (h : List.Forall₂ (fun document schema => decodeWithin maximum levels document = .ok schema) documents
      schemas) :
    decodeWithin maximum (levels + 1) (Json.disjunction documents) = .ok (disjunction schemas) := by
  have hread : Json.asList (decodeWithin maximum levels) (.array documents) = .ok schemas :=
    Json.readItems_eq_ok h 0
  exact decodeWithin_single rfl (by rw [ObjectSchema.decodeKeyword, hread]; rfl)

/-- The document of a dual is read three levels deeper. -/
theorem decodeWithin_dual
    (h : List.Forall₂ (fun document schema => decodeWithin maximum levels document = .ok schema) documents
      schemas) :
    decodeWithin maximum (levels + 3) (Json.dual documents) = .ok (dual schemas) := by
  refine decodeWithin_denial (decodeWithin_conjunction ?_)
  rw [List.forall₂_map_left_iff, List.forall₂_map_right_iff]
  exact h.imp fun _ _ => decodeWithin_denial

/-- What a document is read as does not depend on the limit that is reported. -/
theorem decodeWithin_eq_ok (maximum' : Nat) {document : Json} {schema : Schema}
    (h : decodeWithin maximum levels document = .ok schema) :
    decodeWithin maximum' levels document = .ok schema :=
  (decodeWithin_agrees maximum maximum' levels document).ok h

end Schema

/-! ## Answers -/

/-- A schema object that combines schemas for the same value reports what these keywords do. -/
theorem ObjectSchema.failures_combination {α : Type} (visit : Visit α) (frame : Frame)
    (allOf anyOf : Option (List α)) (not : Option α) (value : Json) :
    ({ allOf, anyOf, not } : ObjectSchema α).failures visit frame value =
      ({ allOf } : ObjectSchema α).allOfFailures visit frame value ++
        ({ anyOf } : ObjectSchema α).anyOfFailures visit frame value ++
          ({ not } : ObjectSchema α).notFailures visit frame value := by
  have hkind : ({ allOf, anyOf, not } : ObjectSchema α).kindFailures visit frame value = [] := by
    cases value with
    | null | bool | number | string => rfl
    | array items =>
      have hitems : ({ allOf, anyOf, not } : ObjectSchema α).itemFailures visit frame items = [] := by
        simp [itemFailures, itemSchema?]
      rw [kindFailures, hitems]
      rfl
    | object members =>
      simp [kindFailures, facetFailures, brokenFacets, ObjectRules.broken, brokenBy, requiredFailures,
        missingFailures, propertyFailures, patternFailures, patternSchemas, additionalFailures,
        dependencyFailures, nameFailures]
  have hone : ({ allOf, anyOf, not } : ObjectSchema α).oneOfFailures visit frame value = [] := rfl
  simp only [failures, hkind, hone, List.append_nil]
  rfl

namespace Pool

/-- Whether a schema has an answer about a value, wherever it stands: it reports nothing structural, and it
reports nothing at all exactly when the answer is positive. -/
def Answers (pool : Pool) (maximum levels : Nat) (frame : Frame) (value : Json) (schema : Schema)
    (answer : Bool) : Prop :=
  ∀ place, structural (pool.visit maximum levels frame ⟨place, schema⟩ value) = [] ∧
    (pool.visit maximum levels frame ⟨place, schema⟩ value).isEmpty = answer

variable {pool : Pool} {maximum levels : Nat} {frame : Frame} {value : Json}

/-- A denial answers the opposite. -/
theorem Answers.denial {schema : Schema} {answer : Bool}
    (h : pool.Answers maximum levels frame value schema answer) :
    pool.Answers maximum (levels + 1) frame value schema.denial !answer := by
  intro place
  let branch : Node := Node.child ⟨place, schema.denial⟩ [Keyword.not.name] schema
  obtain ⟨hstructural, hempty⟩ := h branch.place
  change structural (pool.visit maximum levels frame branch value) = [] at hstructural
  change (pool.visit maximum levels frame branch value).isEmpty = answer at hempty
  have hvisit : pool.visit maximum (levels + 1) frame ⟨place, schema.denial⟩ value =
      if (pool.visit maximum levels frame branch value).isEmpty then [frame.failure .forbidden]
      else structural (pool.visit maximum levels frame branch value) :=
    ObjectSchema.failures_combination (pool.visit maximum levels) frame none none (some branch) value
  rw [hvisit, hstructural]
  cases answer with
  | true => rw [if_pos hempty]; exact ⟨structural_failure frame rfl, rfl⟩
  | false => rw [if_neg (by rw [hempty]; exact Bool.false_ne_true)]; exact ⟨rfl, rfl⟩

/-- What the branches of a keyword report. -/
def reports (pool : Pool) (maximum levels : Nat) (frame : Frame) (value : Json) (branches : List Node) :
    List (List Failure) :=
  branches.map fun branch => pool.visit maximum levels frame branch value

variable {schemas : List Schema} {answers : List Bool}

/-- Branches report nothing structural, and their reports are empty where their answers are positive. -/
theorem reports_of_answers (h : List.Forall₂ (pool.Answers maximum levels frame value) schemas answers)
    (k : Keyword) (node : Node) :
    let reports := pool.reports maximum levels frame value (ObjectSchema.mapList node.child k schemas)
    structural reports.flatten = [] ∧ reports.map List.isEmpty = answers := by
  have hplaces (place : Nat → Place) :
      let reports := pool.reports maximum levels frame value (schemas.mapIdx fun i s => ⟨place i, s⟩)
      structural reports.flatten = [] ∧ reports.map List.isEmpty = answers := by
    induction h generalizing place with
    | nil => exact ⟨rfl, rfl⟩
    | cons hfirst _ ih =>
      obtain ⟨hstructural, hempty⟩ := hfirst (place 0)
      obtain ⟨hothers, hanswers⟩ := ih fun i => place (i + 1)
      simp only [reports, List.mapIdx_cons, List.map_cons, List.flatten_cons, structural_append,
        List.append_eq_nil_iff, List.cons.injEq] at hothers hanswers ⊢
      exact ⟨⟨hstructural, hothers⟩, hempty, hanswers⟩
  exact hplaces fun i => ⟨node.place.document, node.place.pointer ++ ⟨[k.name, toString i]⟩⟩

/-- A conjunction answers positively when all of its branches do. -/
theorem answers_conjunction
    (h : List.Forall₂ (pool.Answers maximum levels frame value) schemas answers) :
    pool.Answers maximum (levels + 1) frame value (.conjunction schemas) (answers.all id) := by
  intro place
  obtain ⟨hstructural, rfl⟩ := reports_of_answers h .allOf ⟨place, .conjunction schemas⟩
  have hvisit : pool.visit maximum (levels + 1) frame ⟨place, .conjunction schemas⟩ value =
      (pool.reports maximum levels frame value
        (ObjectSchema.mapList (Node.child ⟨place, .conjunction schemas⟩) .allOf schemas)).flatten := by
    refine (ObjectSchema.failures_combination (pool.visit maximum levels) frame _ none none value).trans ?_
    refine ((List.append_nil _).trans (List.append_nil _)).trans ?_
    rw [reports, ← List.flatMap_def]
    rfl
  rw [hvisit]
  generalize pool.reports maximum levels frame value _ = reports at hstructural ⊢
  refine ⟨hstructural, ?_⟩
  rw [List.all_map, Bool.eq_iff_iff, List.isEmpty_iff, List.flatten_eq_nil_iff, List.all_eq_true]
  simp

/-- A disjunction answers positively when one of its branches does, or when there are none. -/
theorem answers_disjunction
    (h : List.Forall₂ (pool.Answers maximum levels frame value) schemas answers) :
    pool.Answers maximum (levels + 1) frame value (.disjunction schemas)
      (answers.isEmpty || answers.any id) := by
  intro place
  obtain ⟨hstructural, rfl⟩ := reports_of_answers h .anyOf ⟨place, .disjunction schemas⟩
  have hvisit : pool.visit maximum (levels + 1) frame ⟨place, .disjunction schemas⟩ value =
      let reports := pool.reports maximum levels frame value
        (ObjectSchema.mapList (Node.child ⟨place, .disjunction schemas⟩) .anyOf schemas)
      if reports.any List.isEmpty then structural reports.flatten else reports.flatten := by
    refine (ObjectSchema.failures_combination (pool.visit maximum levels) frame none _ none value).trans ?_
    exact List.append_nil _
  rw [hvisit]
  generalize pool.reports maximum levels frame value _ = reports at hstructural ⊢
  dsimp only
  cases hany : reports.any List.isEmpty with
  | true =>
    rw [if_pos rfl, hstructural, List.any_map, Function.id_comp, hany, Bool.or_true]
    exact ⟨rfl, rfl⟩
  | false =>
    rw [if_neg Bool.false_ne_true, List.any_map, Function.id_comp, hany, Bool.or_false,
      List.isEmpty_map]
    refine ⟨hstructural, ?_⟩
    -- Every branch reports something, so all of them together report nothing only when there are none.
    cases reports with
    | nil => rfl
    | cons first rest =>
      rw [List.any_cons, Bool.or_eq_false_iff] at hany
      cases first with
      | nil => cases hany.1
      | cons => rfl

/-- The dual of a disjunction answers positively when one of the branches does. -/
theorem answers_dual
    (h : List.Forall₂ (pool.Answers maximum levels frame value) schemas answers) :
    pool.Answers maximum (levels + 3) frame value (.dual schemas) (answers.any id) := by
  have hdenials : List.Forall₂ (pool.Answers maximum (levels + 1) frame value)
      (schemas.map Schema.denial) (answers.map Bool.not) := by
    rw [List.forall₂_map_left_iff, List.forall₂_map_right_iff]
    exact h.imp fun _ _ => Answers.denial
  have hmorgan : (!(answers.map Bool.not).all id) = answers.any id := by
    rw [List.all_map, List.not_all_eq_any_not]
    exact congrArg answers.any (funext fun answer => Bool.not_not answer)
  exact hmorgan ▸ (answers_conjunction hdenials).denial

end Pool

/-- A schema that means the same at another site has its answer there. -/
theorem Site.MeansSame.answers {site other : Site} {limits : Limits} {value : Json}
    (h : site.MeansSame other limits value) (hclear : site.Unobstructed limits value)
    {maximum levels : Nat} (hlevels : limits.validationDepth < levels) :
    other.pool.Answers maximum levels other.start value site.schema (site.accepts limits value) := by
  intro place
  rw [h.visit_eq hclear hlevels place]
  exact ⟨Pool.structural_visit_eq_nil hclear, rfl⟩

/-- The limits with some more levels for reading schemas. -/
def Limits.deeper (limits : Limits) (levels : Nat) : Limits :=
  { limits with schemaDepth := limits.schemaDepth + levels }

namespace Site

variable {limits larger : Limits} {value : Json}

/-- A site accepts a value as its schema answers. -/
theorem accepts_eq {site : Site} {answer : Bool}
    (h : site.pool.Answers limits.validationDepth (limits.validationDepth + 1) site.start value
      site.schema answer) : site.accepts limits value = answer :=
  (h site.node.place).2

/-- Where no obstacle is met, more levels change nothing. -/
theorem accepts_larger {site : Site} (hclear : site.Unobstructed limits value)
    (hlarger : limits.validationDepth ≤ larger.validationDepth) :
    site.accepts larger value = site.accepts limits value :=
  accepts_eq ((meansSame_of_pool_eq rfl rfl limits value).answers hclear (Nat.lt_succ_of_le hlarger))

/-- The branches have answers at a site where all of them mean the same. -/
theorem answers_branches {whole : Site} {branches : List Site}
    (hclear : ∀ branch ∈ branches, branch.Unobstructed limits value)
    (hsame : ∀ branch ∈ branches, branch.MeansSame whole limits value) {maximum levels : Nat}
    (hlevels : limits.validationDepth < levels) :
    List.Forall₂ (whole.pool.Answers maximum levels whole.start value) (branches.map schema)
      (branches.map fun branch => branch.accepts limits value) := by
  rw [List.forall₂_map_left_iff, List.forall₂_map_right_iff, List.forall₂_same]
  exact fun branch hbranch => (hsame branch hbranch).answers (hclear branch hbranch) hlevels

/-- For every list of schemas, the documents of their disjunction and of its dual are read as these. Wherever
the schemas mean the same as by themselves, and they meet no obstacle, the dual accepts a value exactly
when one of the schemas does, if there are three more levels. The disjunction does so, and agrees with its
dual, exactly when the list is not empty. -/
theorem disjunction_and_dual (documents : List Json) (schemas : List Schema) (reading : Limits)
    (hread : List.Forall₂ (fun document schema => Schema.decode reading document = .ok schema) documents
      schemas)
    (branches : List Site) (hbranches : branches.map schema = schemas)
    (either dual : Site) (heither : either.schema = .disjunction schemas)
    (hdual : dual.schema = .dual schemas) (limits larger : Limits)
    (hlarger : limits.validationDepth + 3 ≤ larger.validationDepth) (value : Json)
    (hclear : ∀ branch ∈ branches, branch.Unobstructed limits value)
    (hsame : ∀ branch ∈ branches,
      branch.MeansSame either limits value ∧ branch.MeansSame dual limits value) :
    Schema.decode (reading.deeper 1) (Json.disjunction documents) = .ok (.disjunction schemas) ∧
      Schema.decode (reading.deeper 3) (Json.dual documents) = .ok (.dual schemas) ∧
      (dual.accepts larger value = true ↔ ∃ branch ∈ branches, branch.accepts larger value = true) ∧
      ((either.accepts larger value = true ↔ ∃ branch ∈ branches, branch.accepts larger value = true) ↔
        schemas ≠ []) ∧
      (either.accepts larger value = dual.accepts larger value ↔ schemas ≠ []) := by
  subst hbranches
  have heither_eq : either.accepts larger value =
      ((branches.map fun branch => branch.accepts limits value).isEmpty ||
        (branches.map fun branch => branch.accepts limits value).any id) := by
    refine accepts_eq ?_
    rw [heither]
    exact Pool.answers_disjunction
      (answers_branches hclear (fun branch hbranch => (hsame branch hbranch).1) (by omega))
  have hdual_eq : dual.accepts larger value =
      (branches.map fun branch => branch.accepts limits value).any id := by
    refine accepts_eq ?_
    rw [hdual]
    obtain ⟨levels, hlevels⟩ : ∃ levels, larger.validationDepth + 1 = levels + 3 :=
      ⟨larger.validationDepth - 2, by omega⟩
    rw [hlevels]
    exact Pool.answers_dual
      (answers_branches hclear (fun branch hbranch => (hsame branch hbranch).2) (by omega))
  have hdual_iff : dual.accepts larger value = true ↔
      ∃ branch ∈ branches, branch.accepts larger value = true := by
    rw [hdual_eq, List.any_map, List.any_eq_true]
    refine exists_congr fun branch => and_congr_right fun hbranch => ?_
    rw [accepts_larger (hclear branch hbranch) (by omega)]
    rfl
  rw [← hdual_eq, List.isEmpty_map] at heither_eq
  refine ⟨Schema.decodeWithin_disjunction (hread.imp fun _ _ => Schema.decodeWithin_eq_ok _),
    Schema.decodeWithin_dual (hread.imp fun _ _ => Schema.decodeWithin_eq_ok _), hdual_iff, ?_, ?_⟩
  · rw [← hdual_iff, heither_eq, Ne, List.map_eq_nil_iff]
    cases branches with
    | nil => simp [hdual_eq]
    | cons branch rest => simp
  · rw [heither_eq, Ne, List.map_eq_nil_iff]
    cases branches with
    | nil => simp [hdual_eq]
    | cons branch rest => simp

end Site

/-- A document with a schema that refers to a definition, the disjunction of this and another schema, and the
dual. -/
def Schema.flagOrText : Schema :=
  .object {
    definitions := some [
      ("flag", .object { type := .single .boolean }),
      ("one", .object { ref := some "#/definitions/flag" }),
      ("either", .disjunction [.object { ref := some "#/definitions/flag" },
        .object { type := .single .string }]),
      ("dual", .dual [.object { ref := some "#/definitions/flag" },
        .object { type := .single .string }])] }

/-- Disjunction and dual agree about a text: one branch is a definition beside them that refuses it, the
other one is a document of its own that accepts it. -/
theorem Site.disjunction_and_dual_flagOrText :
    let documents := [Json.object [("$ref", .string "#/definitions/flag")],
      Json.object [("type", .string "string")]]
    let flag : Schema := .object { ref := some "#/definitions/flag" }
    let text : Schema := .object { type := .single .string }
    let definition (name : String) (schema : Schema) : Site :=
      ⟨.ofDocument .flagOrText, (Node.root .main Schema.flagOrText).child ["definitions", name] schema⟩
    let branches := [definition "one" flag, ⟨.ofDocument text, Node.root .main text⟩]
    let either := definition "either" (.disjunction [flag, text])
    let dual := definition "dual" (.dual [flag, text])
    let limits : Limits := { validationDepth := 3 }
    let value := Json.string "a"
    List.Forall₂ (fun document schema => Schema.decode Limits.default document = .ok schema) documents
        [flag, text] ∧
      (∀ branch ∈ branches, branch.Unobstructed limits value) ∧
      (∀ branch ∈ branches, branch.MeansSame either limits value ∧ branch.MeansSame dual limits value) ∧
      dual.accepts Limits.default value = true ∧
      either.accepts Limits.default value = dual.accepts Limits.default value := by
  intro documents flag text definition branches either dual limits value
  have hread : List.Forall₂ (fun document schema => Schema.decode Limits.default document = .ok schema)
      documents [flag, text] := .cons rfl (.cons rfl .nil)
  have hclear : ∀ branch ∈ branches, branch.Unobstructed limits value := by decide
  have hsame (whole : Site) (hpool : whole.pool = .ofDocument .flagOrText)
      (hscope : whole.start.scope = Url.implicitBase) :
      ∀ branch ∈ branches, branch.MeansSame whole limits value := by
    refine List.forall_mem_cons.mpr ⟨Site.meansSame_of_pool_eq hpool (hscope.trans rfl) limits value,
      List.forall_mem_singleton.mpr (Site.meansSame_of_ref_eq_none (hscope.trans rfl) ?_)⟩
    decide
  have hboth : ∀ branch ∈ branches,
      branch.MeansSame either limits value ∧ branch.MeansSame dual limits value :=
    fun branch hbranch => ⟨hsame either rfl rfl branch hbranch, hsame dual rfl rfl branch hbranch⟩
  obtain ⟨_, _, hdual, _, heither⟩ := Site.disjunction_and_dual documents [flag, text] Limits.default hread
    branches rfl either dual rfl rfl limits Limits.default (by decide) value hclear hboth
  exact ⟨hread, hclear, hboth, hdual.mpr (by decide), heither.mpr (List.cons_ne_nil _ _)⟩

/-- The disjunction of no schemas accepts what its dual does not accept. -/
theorem Site.empty_disjunction_accepts :
    let either : Site := ⟨.ofDocument (.disjunction []), Node.root .main (.disjunction [])⟩
    let dual : Site := ⟨.ofDocument (.dual []), Node.root .main (.dual [])⟩
    Schema.decode Limits.default (Json.disjunction []) = .ok either.schema ∧
      Schema.decode Limits.default (Json.dual []) = .ok dual.schema ∧
      either.Unobstructed Limits.default .null ∧ dual.Unobstructed Limits.default .null ∧
      either.accepts Limits.default .null = true ∧ dual.accepts Limits.default .null = false := by
  exact ⟨rfl, rfl, by decide, by decide, by decide, by decide⟩

end Draft6
