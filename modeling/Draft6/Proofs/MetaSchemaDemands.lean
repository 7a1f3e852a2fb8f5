import Draft6.Proofs.MetaSchemaRules

/-!
# The meta-schema asks what keywords demand

A value that the meta-schema grants as the value of a keyword meets the demand of the keyword. Where
schemas stand in it, the meta-schema accepts the parts, and it does so with fewer levels.
-/

namespace Draft6

namespace SimpleType

variable {value : Json}

/-- Whole numbers have the type of integers. -/
theorem accepts_integer_iff :
    integer.accepts value = true ↔ ∃ n, value = .number n ∧ n.isWhole = true := by
  cases value with
  | number n =>
    constructor
    · exact fun h => ⟨n, rfl, h⟩
    · rintro ⟨_, ⟨⟩, h⟩
      exact h
  | _ => exact iff_of_false Bool.false_ne_true (by rintro ⟨_, ⟨⟩, _⟩)

/-- Numbers have the type of numbers. -/
theorem accepts_number_iff : number.accepts value = true ↔ ∃ n, value = .number n := by
  cases value with
  | number n => exact iff_of_true rfl ⟨n, rfl⟩
  | _ => exact iff_of_false Bool.false_ne_true (by rintro ⟨_, ⟨⟩⟩)

/-- Strings have the type of strings. -/
theorem accepts_string_iff : string.accepts value = true ↔ ∃ s, value = .string s := by
  cases value with
  | string s => exact iff_of_true rfl ⟨s, rfl⟩
  | _ => exact iff_of_false Bool.false_ne_true (by rintro ⟨_, ⟨⟩⟩)

/-- Booleans have the type of Booleans. -/
theorem accepts_boolean_iff : boolean.accepts value = true ↔ ∃ b, value = .bool b := by
  cases value with
  | bool b => exact iff_of_true rfl ⟨b, rfl⟩
  | _ => exact iff_of_false Bool.false_ne_true (by rintro ⟨_, ⟨⟩⟩)

/-- Arrays have the type of arrays. -/
theorem accepts_array_iff : array.accepts value = true ↔ ∃ items, value = .array items := by
  cases value with
  | array items => exact iff_of_true rfl ⟨items, rfl⟩
  | _ => exact iff_of_false Bool.false_ne_true (by rintro ⟨_, ⟨⟩⟩)

/-- Objects have the type of objects. -/
theorem accepts_object_iff : object.accepts value = true ↔ ∃ members, value = .object members := by
  cases value with
  | object members => exact iff_of_true rfl ⟨members, rfl⟩
  | _ => exact iff_of_false Bool.false_ne_true (by rintro ⟨_, ⟨⟩⟩)

end SimpleType

namespace ObjectSchema

variable {α : Type} {holds : α → Json → Prop} {o : ObjectSchema α} {schema : α}

/-- One schema for all elements holds of each. -/
theorem ArrayHolds.of_mem {items : List Json} (h : o.ArrayHolds holds items)
    (hitems : o.items = some (.all schema)) {item : Json} (hitem : item ∈ items) :
    holds schema item := by
  obtain ⟨position, hposition⟩ := List.mem_iff_getElem?.mp hitem
  exact h.governed position item schema hposition (.every hitems)

/-- A schema for members that nothing else governs holds of each. -/
theorem MembersHold.of_mem {members : List (String × Json)} (h : o.MembersHold holds members)
    (hadditional : o.additionalProperties = some schema) (hproperties : o.properties = none)
    (hpatterns : o.patternProperties = none) {member : String × Json} (hmember : member ∈ members) :
    holds schema member.2 := by
  refine h.governed member.1 member.2 schema hmember (.additional hadditional ?_ ?_)
  · rw [hproperties]
    rfl
  · rw [hpatterns]
    exact fun _ hentry => (List.not_mem_nil hentry).elim

end ObjectSchema

namespace MetaSchema

variable {maximum levels : Nat} {n : Node} {value : Json}

/-- Whether the meta-schema accepts a value within some levels. -/
def Accepts (maximum levels : Nat) (value : Json) : Prop :=
  Pool.draft6.Grants maximum levels base node value

/-- Whether a node of the meta-schema grants a value within some levels. -/
def Allows (maximum levels : Nat) (n : Node) (value : Json) : Prop :=
  Pool.draft6.Grants maximum levels inside n value

/-- Whether the meta-schema accepts a value within fewer levels. -/
def AcceptsBelow (maximum levels : Nat) (value : Json) : Prop :=
  ∃ fewer < levels, Accepts maximum fewer value

/-- The rule for schemas allows what the meta-schema accepts. -/
theorem Allows.any (h : Allows maximum levels n value) (hn : n.schema = Rule.any) :
    AcceptsBelow maximum levels value := by
  cases levels with
  | zero => exact absurd h Pool.not_grants_zero
  | succ levels =>
    obtain ⟨target, htarget, hgrants⟩ := h.reference hn rfl
    obtain rfl := Except.ok.inj (resolve_root.symm.trans htarget)
    exact ⟨levels, Nat.lt_succ_self _, hgrants⟩

/-- A reference to a definition allows what the definition allows. -/
theorem Allows.definition (h : Allows maximum levels n value) (d : Definition)
    (hn : n.schema = d.reference) : ∃ fewer < levels, Allows maximum fewer d.node value := by
  cases levels with
  | zero => exact absurd h Pool.not_grants_zero
  | succ levels =>
    obtain ⟨target, htarget, hgrants⟩ := h.reference hn rfl
    obtain rfl := Except.ok.inj ((resolve_definition d).symm.trans htarget)
    refine ⟨levels, Nat.lt_succ_self _, ?_⟩
    rw [Allows, ← rootInside_base]
    exact hgrants

/-- What a rule without identifier and reference allows is as its keywords demand. -/
theorem Allows.holds (h : Allows maximum levels n value) {o : ObjectSchema Schema}
    (hn : n.schema = .object o) (hid : o.id = none) (href : o.ref = none) (hone : o.oneOf = none)
    (hnot : o.not = none) :
    ∃ fewer < levels, (o.mapPath n.child).Holds (Allows maximum fewer) value := by
  cases levels with
  | zero => exact absurd h Pool.not_grants_zero
  | succ levels =>
    have hpositive : (o.mapPath n.child).Positive :=
      ⟨congrArg (Option.map _) hone, congrArg (Option.map _) hnot⟩
    have hholds := h.holds hn href hpositive
    rw [hid] at hholds
    exact ⟨levels, Nat.lt_succ_self _, hholds⟩

/-- What is accepted below fewer levels is accepted below more. -/
theorem AcceptsBelow.mono {fewer : Nat} (h : AcceptsBelow maximum fewer value)
    (hlevels : fewer ≤ levels) : AcceptsBelow maximum levels value := by
  obtain ⟨lowest, hlowest, h⟩ := h
  exact ⟨lowest, Nat.lt_of_lt_of_le hlowest hlevels, h⟩

/-- The rule for a type allows values of this type. -/
theorem Allows.ofType (h : Allows maximum levels n value) {type : SimpleType} {notes : Annotations}
    (hn : n.schema = Rule.ofType type notes) : type.accepts value = true := by
  obtain ⟨_, _, hholds⟩ := h.holds hn rfl rfl rfl rfl
  exact hholds.type

/-- A rule with two branches allows what one of them allows. -/
theorem Allows.either (h : Allows maximum levels n value) {o : ObjectSchema Schema}
    {first second : Schema} (hn : n.schema = .object o) (hany : o.anyOf = some [first, second])
    (hid : o.id = none) (href : o.ref = none) (hone : o.oneOf = none) (hnot : o.not = none) :
    ∃ fewer < levels, ∃ branch : Node, (branch.schema = first ∨ branch.schema = second) ∧
      Allows maximum fewer branch value := by
  obtain ⟨fewer, hfewer, hholds⟩ := h.holds hn hid href hone hnot
  have hbranches : (o.mapPath n.child).anyOf = some (ObjectSchema.mapList n.child .anyOf
      [first, second]) := congrArg (Option.map _) hany
  obtain ⟨branch, hbranch, hallows⟩ := hholds.anyOf _ hbranches (List.cons_ne_nil _ _)
  refine ⟨fewer, hfewer, branch, ?_, hallows⟩
  rcases List.mem_cons.mp hbranch with rfl | hbranch
  · exact .inl rfl
  · rw [List.mem_singleton.mp hbranch]
    exact .inr rfl

/-! ## Definitions -/

/-- A reference to arrays of schemas allows arrays of schemas. -/
theorem Allows.schemaArray (h : Allows maximum levels n value)
    (hn : n.schema = Definition.schemaArray.reference) :
    ∃ items, value = .array items ∧ ∀ item ∈ items, AcceptsBelow maximum levels item := by
  obtain ⟨fewer, hfewer, h⟩ := h.definition .schemaArray hn
  obtain ⟨lowest, hlowest, hholds⟩ := h.holds rfl rfl rfl rfl rfl
  obtain ⟨items, rfl⟩ := SimpleType.accepts_array_iff.mp hholds.type
  refine ⟨items, rfl, fun item hitem => ?_⟩
  have hallows : Allows maximum lowest _ item := hholds.kind.of_mem rfl hitem
  exact (hallows.any rfl).mono (by omega)

/-- A reference to lists of strings allows lists of strings. -/
theorem Allows.stringArray (h : Allows maximum levels n value)
    (hn : n.schema = Definition.stringArray.reference) :
    ∃ items, value = .array items ∧ ∀ item ∈ items, ∃ name, item = .string name := by
  obtain ⟨_, _, h⟩ := h.definition .stringArray hn
  obtain ⟨lowest, _, hholds⟩ := h.holds rfl rfl rfl rfl rfl
  obtain ⟨items, rfl⟩ := SimpleType.accepts_array_iff.mp hholds.type
  refine ⟨items, rfl, fun item hitem => ?_⟩
  have hallows : Allows maximum lowest _ item := hholds.kind.of_mem rfl hitem
  exact SimpleType.accepts_string_iff.mp (hallows.ofType rfl)

/-- A reference to the names of types allows these. -/
theorem Allows.simpleTypes (h : Allows maximum levels n value)
    (hn : n.schema = Definition.simpleTypes.reference) :
    ∃ type : SimpleType, value = .string type.name := by
  obtain ⟨_, _, h⟩ := h.definition .simpleTypes hn
  obtain ⟨_, _, hholds⟩ := h.holds rfl rfl rfl rfl rfl
  obtain ⟨candidate, hcandidate, hequal⟩ := hholds.enum _ rfl
  obtain ⟨name, hname, rfl⟩ := List.mem_map.mp hcandidate
  cases value with
  | string s =>
    obtain rfl : name = s := by simpa [Json.equal, Json.equalBy] using hequal
    have htype : ∃ type : SimpleType, type.name = name := by
      simp only [List.mem_cons, List.not_mem_nil, or_false] at hname
      rcases hname with rfl | rfl | rfl | rfl | rfl | rfl | rfl
      · exact ⟨.array, rfl⟩
      · exact ⟨.boolean, rfl⟩
      · exact ⟨.integer, rfl⟩
      · exact ⟨.null, rfl⟩
      · exact ⟨.number, rfl⟩
      · exact ⟨.object, rfl⟩
      · exact ⟨.string, rfl⟩
    obtain ⟨type, rfl⟩ := htype
    exact ⟨type, rfl⟩
  | null | bool | number | array | object => cases hequal

/-- A reference to sizes allows whole numbers that are not negative. -/
theorem Allows.nonNegativeInteger (h : Allows maximum levels n value)
    (hn : n.schema = Definition.nonNegativeInteger.reference) {holds : Json → Prop} :
    Demand.size.Met holds value := by
  obtain ⟨_, _, h⟩ := h.definition .nonNegativeInteger hn
  obtain ⟨_, _, hholds⟩ := h.holds rfl rfl rfl rfl rfl
  obtain ⟨number, rfl, hwhole⟩ := SimpleType.accepts_integer_iff.mp hholds.type
  have hminimum : Number.zero.toRat ≤ number.toRat := hholds.kind.minimum _ rfl
  exact .size number hwhole hminimum

/-- A reference to sizes that may be absent allows the same sizes. -/
theorem Allows.nonNegativeIntegerDefault0 (h : Allows maximum levels n value)
    (hn : n.schema = Definition.nonNegativeIntegerDefault0.reference) {holds : Json → Prop} :
    Demand.size.Met holds value := by
  obtain ⟨_, _, h⟩ := h.definition .nonNegativeIntegerDefault0 hn
  obtain ⟨lowest, _, hholds⟩ := h.holds rfl rfl rfl rfl rfl
  have hallows : Allows maximum lowest _ value := hholds.allOf _ rfl _ List.mem_cons_self
  exact hallows.nonNegativeInteger rfl

/-! ## Rules -/

/-- The rule for objects of schemas allows objects of schemas. -/
theorem Allows.named (h : Allows maximum levels n value) (hn : n.schema = Rule.named) :
    ∃ members, value = .object members ∧
      ∀ member ∈ members, AcceptsBelow maximum levels member.2 := by
  obtain ⟨fewer, hfewer, hholds⟩ := h.holds hn rfl rfl rfl rfl
  obtain ⟨members, rfl⟩ := SimpleType.accepts_object_iff.mp hholds.type
  refine ⟨members, rfl, fun member hmember => ?_⟩
  have hallows : Allows maximum fewer _ member.2 := hholds.kind.of_mem rfl rfl rfl hmember
  exact (hallows.any rfl).mono hfewer.le

/-! ## Schemas -/

set_option maxRecDepth 10000 in
/-- A value that the meta-schema accepts is as its keywords demand. -/
theorem Accepts.holds (h : Accepts maximum levels value) :
    ∃ fewer < levels, (keywords.mapPath node.child).Holds (Allows maximum fewer) value := by
  cases levels with
  | zero => exact absurd h Pool.not_grants_zero
  | succ levels =>
    have hholds := Pool.Grants.holds h schema_eq rfl ⟨rfl, rfl⟩
    rw [id_keywords] at hholds
    exact ⟨levels, Nat.lt_succ_self _, hholds⟩

set_option maxRecDepth 10000 in
/-- The meta-schema accepts objects and Booleans only. -/
theorem Accepts.isSchema (h : Accepts maximum levels value) :
    (∃ members, value = .object members) ∨ ∃ b, value = .bool b := by
  obtain ⟨_, _, hholds⟩ := h.holds
  have htype : (TypeRule.union [.object, .boolean]).accepts value = true := hholds.type
  simp only [TypeRule.accepts, List.any_cons, List.any_nil, Bool.or_false, Bool.or_eq_true,
    SimpleType.accepts_object_iff, SimpleType.accepts_boolean_iff] at htype
  exact htype

/-- The meta-schema accepts no arrays. -/
theorem AcceptsBelow.not_isArray (h : AcceptsBelow maximum levels value) : ¬ value.IsArray := by
  rintro ⟨items, rfl⟩
  obtain ⟨fewer, _, h⟩ := h
  rcases h.isSchema with ⟨_, ⟨⟩⟩ | ⟨_, ⟨⟩⟩

/-- In an object that the meta-schema accepts, the value of every keyword is allowed by the rule of the
keyword. -/
theorem Accepts.allows_keyword {members : List (String × Json)}
    (h : Accepts maximum levels (.object members)) {k : Keyword} {part : Json}
    (hmember : (k.name, part) ∈ members) :
    ∃ fewer < levels, ∃ n : Node, n.schema = Rule.keyword k ∧ Allows maximum fewer n part := by
  obtain ⟨fewer, hfewer, hholds⟩ := h.holds
  refine ⟨fewer, hfewer, node.child [Keyword.properties.name, k.name] (Rule.keyword k), rfl, ?_⟩
  refine hholds.kind.governed k.name part _ hmember (.named ?_)
  rw [ObjectSchema.lookup_properties_mapPath, lookup_keyword]
  rfl

/-- A value that the rule of a keyword allows meets the demand of the keyword. -/
theorem Allows.met {k : Keyword} (h : Allows maximum levels n value) (hn : n.schema = Rule.keyword k) :
    k.demand.Met (AcceptsBelow maximum levels) value := by
  cases k
  case default | const => exact .anything value
  case dialect | id | ref | title | description | format =>
    obtain ⟨s, rfl⟩ := SimpleType.accepts_string_iff.mp (h.ofType hn)
    exact .text s
  case pattern =>
    obtain ⟨s, rfl⟩ := SimpleType.accepts_string_iff.mp (h.ofType hn)
    exact .expression s
  case maximum | exclusiveMaximum | minimum | exclusiveMinimum =>
    obtain ⟨number, rfl⟩ := SimpleType.accepts_number_iff.mp (h.ofType hn)
    exact .number number
  case multipleOf =>
    obtain ⟨_, _, hholds⟩ := h.holds hn rfl rfl rfl rfl
    obtain ⟨number, rfl⟩ := SimpleType.accepts_number_iff.mp hholds.type
    have hpos : Number.zero.toRat < number.toRat := hholds.kind.exclusiveMinimum _ rfl
    exact .divisor number hpos
  case maxLength | maxItems | maxProperties => exact h.nonNegativeInteger hn
  case minLength | minItems | minProperties => exact h.nonNegativeIntegerDefault0 hn
  case uniqueItems =>
    obtain ⟨b, rfl⟩ := SimpleType.accepts_boolean_iff.mp (h.ofType hn)
    exact .flag b
  case enum | examples =>
    obtain ⟨_, _, hholds⟩ := h.holds hn rfl rfl rfl rfl
    obtain ⟨items, rfl⟩ := SimpleType.accepts_array_iff.mp hholds.type
    exact .list items
  case type =>
    obtain ⟨_, _, branch, hbranch | hbranch, h⟩ := h.either hn rfl rfl rfl rfl rfl
    · obtain ⟨type, rfl⟩ := h.simpleTypes hbranch
      exact .type type
    · obtain ⟨lowest, _, hholds⟩ := h.holds hbranch rfl rfl rfl rfl
      obtain ⟨items, rfl⟩ := SimpleType.accepts_array_iff.mp hholds.type
      have hcount : (1 : UInt64).toNat ≤ items.length := hholds.kind.rules.minItems _ rfl
      refine .types items (List.ne_nil_of_length_pos hcount) fun item hitem => ?_
      have hallows : Allows maximum lowest _ item := hholds.kind.of_mem rfl hitem
      exact hallows.simpleTypes rfl
  case required =>
    obtain ⟨items, rfl, hnames⟩ := h.stringArray hn
    exact .names items hnames
  case additionalItems | contains | additionalProperties | propertyNames | not =>
    exact .schema value (h.any hn)
  case allOf | anyOf | oneOf =>
    obtain ⟨items, rfl, hitems⟩ := h.schemaArray hn
    exact .schemas items hitems
  case items =>
    obtain ⟨fewer, hfewer, branch, hbranch | hbranch, h⟩ := h.either hn rfl rfl rfl rfl rfl
    · have haccepts := (h.any hbranch).mono hfewer.le
      exact .all value haccepts.not_isArray haccepts
    · obtain ⟨items, rfl, hitems⟩ := h.schemaArray hbranch
      exact .each items fun item hitem => (hitems item hitem).mono hfewer.le
  case properties | definitions =>
    obtain ⟨members, rfl, hmembers⟩ := h.named hn
    exact .named members hmembers
  case patternProperties =>
    obtain ⟨members, rfl, hmembers⟩ := h.named hn
    exact .matching members hmembers
  case dependencies =>
    obtain ⟨fewer, hfewer, hholds⟩ := h.holds hn rfl rfl rfl rfl
    obtain ⟨members, rfl⟩ := SimpleType.accepts_object_iff.mp hholds.type
    refine .dependencies members fun member hmember => ?_
    have hallows : Allows maximum fewer _ member.2 := hholds.kind.of_mem rfl rfl rfl hmember
    obtain ⟨lowest, hlowest, branch, hbranch | hbranch, h⟩ := hallows.either rfl rfl rfl rfl rfl rfl
    · have haccepts := (h.any hbranch).mono (hlowest.trans hfewer).le
      exact .inl ⟨haccepts.not_isArray, haccepts⟩
    · exact .inr (h.stringArray hbranch)

/-! ## Objects that are accepted -/

variable {frame : Frame}

/-- A visit of a reference to a definition goes on at the definition. -/
theorem visit_reference (d : Definition) (hn : n.schema = d.reference) (hscope : frame.scope = inside)
    (hactive : frame.active = []) :
    Pool.draft6.visit maximum (levels + 1) frame n value =
      Pool.draft6.visit maximum levels (frame.follow (Entry.of d.node base d.around)) d.node
        value := by
  have htarget := resolve_definition d
  rw [← hscope] at htarget
  simp only [Pool.visit, Pool.nodeFailures, hn, Definition.reference, Pool.referenceFailures, htarget,
    hactive]
  rfl

/-- A visit of the rule for schemas goes on at the meta-schema. -/
theorem visit_any (hn : n.schema = Rule.any) (hscope : frame.scope = inside)
    (hactive : frame.active = []) :
    Pool.draft6.visit maximum (levels + 1) frame n value =
      Pool.draft6.visit maximum levels (frame.follow (Entry.of node base ⟨base, Pointer.root⟩)) node
        value := by
  have htarget := resolve_root
  rw [← hscope] at htarget
  simp only [Pool.visit, Pool.nodeFailures, hn, Rule.any, Pool.referenceFailures, htarget, hactive]
  rfl

set_option maxRecDepth 10000 in
/-- The meta-schema asks about the members of an object and nothing else. -/
theorem calls_object {visit : Visit Node} (members : List (String × Json)) :
    (keywords.mapPath node.child).calls visit frame (.object members) =
      (keywords.mapPath node.child).propertyCalls frame members := by
  have hpatterns : (keywords.mapPath node.child).patternProperties = none := rfl
  have hadditional : (keywords.mapPath node.child).additionalProperties = none := rfl
  have hdependencies : (keywords.mapPath node.child).dependencies = none := rfl
  have hnames : (keywords.mapPath node.child).propertyNames = none := rfl
  have hall : (keywords.mapPath node.child).allOf = none := rfl
  have hany : (keywords.mapPath node.child).anyOf = none := rfl
  have hone : (keywords.mapPath node.child).oneOf = none := rfl
  have hnot : (keywords.mapPath node.child).not = none := rfl
  simp [ObjectSchema.calls, ObjectSchema.kindCalls, ObjectSchema.patternCalls,
    ObjectSchema.patternSchemas, ObjectSchema.additionalCalls, ObjectSchema.dependencyCalls,
    ObjectSchema.nameCalls, ObjectSchema.listCalls, ObjectSchema.notCalls, hpatterns, hadditional,
    hdependencies, hnames, hall, hany, hone, hnot]

set_option maxRecDepth 10000 in
/-- An object of keywords is accepted when the rules of the keywords report nothing about their
values. -/
theorem visit_object_eq_nil (members : List (Keyword × Json)) (hscope : frame.scope = base)
    (h : ∀ member ∈ members, ∀ below : Frame, below.scope = inside → below.active = [] →
      Pool.draft6.visit maximum levels below
        (node.child [Keyword.properties.name, member.1.name] (Rule.keyword member.1)) member.2 = []) :
    Pool.draft6.visit maximum (levels + 1) frame node
      (.object (members.map fun member => (member.1.name, member.2))) = [] := by
  have hnode : node.schema = .object keywords := schema_eq
  have href : keywords.ref = none := rfl
  simp only [Pool.visit, Pool.nodeFailures, hnode, href]
  refine ObjectSchema.failures_eq_nil_of_calls _ _ (fun call hcall => ?_) ?_
  · rw [calls_object] at hcall
    obtain ⟨name, part, s, hmem, hlookup, rfl⟩ := (ObjectSchema.mem_propertyCalls _ _).mp hcall
    obtain ⟨member, hmember, heq⟩ := List.mem_map.mp hmem
    obtain ⟨rfl, rfl⟩ := Prod.mk.inj heq
    rw [ObjectSchema.lookup_properties_mapPath, lookup_keyword] at hlookup
    obtain rfl := Option.some.inj hlookup
    refine h member hmember _ ?_ rfl
    rw [Frame.child, Frame.scope_enter, hscope, id_keywords]
    rfl
  · constructor
    case type => rfl
    case kind =>
      constructor
      case rules => constructor <;> rintro _ ⟨⟩
      case governed => exact fun _ _ _ _ _ => trivial
      case demandedNames => exact fun _ _ hentry => (List.not_mem_nil hentry).elim
      case demandedSchemas => exact fun _ _ hentry => (List.not_mem_nil hentry).elim
      case propertyNames => rintro _ ⟨⟩
    all_goals rintro _ ⟨⟩

end MetaSchema

end Draft6
