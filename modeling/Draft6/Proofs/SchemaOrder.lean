import Draft6.Proofs.MemberOrder
import Draft6.Proofs.RearrangedKeywords
import Draft6.Proofs.RearrangedPools
import Draft6.Proofs.SelfContained

/-!
# The order of members in a schema document

Two schema documents that differ only in the order of members are both schemas or both not. As long as no
address is claimed by two nodes they accept the same values, under any limits, and what they report is
about the same parts of the value, with causes of the same kinds.

Where two nodes claim one address the first one has it, and then the order decides. There is no such
address when only the root of the document has an identifier, and not that of the meta-schema.
-/

namespace Draft6

namespace Pool

variable {pool pool' : Pool}

/-- Rearranged nodes report alike in rearranged pools when all further visits do. -/
theorem Rearranged.nodeFailures (h : pool.Rearranged pool') {visit visit' : Visit Node}
    (hvisit : ReportAlike Node.Rearranged visit visit') :
    ReportAlike Node.Rearranged (pool.nodeFailures visit) (pool'.nodeFailures visit') := by
  intro frame node node' value hnode
  obtain ⟨place, s⟩ := node
  obtain ⟨_, s'⟩ := node'
  obtain ⟨rfl, levels, hs⟩ := hnode
  rw [nodeFailures.eq_def, nodeFailures.eq_def]
  cases levels with
  | zero => cases hs
  | succ levels =>
    cases s with
    | boolean answer =>
      obtain rfl : s' = .boolean answer := hs
      cases answer <;> exact Likeness.reports_refl _
    | object o =>
      obtain ⟨o', rfl, ho⟩ := hs
      dsimp only
      rw [ho.ref]
      cases o'.ref with
      | some reference =>
        dsimp only
        rw [referenceFailures.eq_def, referenceFailures.eq_def]
        rcases h.resolve reference frame.scope with ⟨error, herror, herror'⟩ |
          ⟨target, target', htarget, htarget', hentry⟩
        · rw [herror, herror']
          exact Likeness.reports_refl _
        · rw [htarget, htarget']
          have hfollow : frame.follow target = frame.follow target' := by
            rw [Frame.follow, Frame.follow, hentry.scope, hentry.node.place]
          dsimp only
          rw [hentry.node.place, hfollow]
          split
          · exact Likeness.reports_refl _
          · exact hvisit _ _ _ _ hentry.node
      | none =>
        dsimp only
        rw [ho.id]
        refine ObjectSchema.failures_rearranged (R := Node.Rearranged) (ho.mapPath ?_) hvisit
        exact fun segments t t' ht => ⟨rfl, levels, ht⟩

/-- Visits of rearranged nodes report alike. -/
theorem Rearranged.visit (h : pool.Rearranged pool') (maximum levels : Nat) :
    ReportAlike Node.Rearranged (pool.visit maximum levels) (pool'.visit maximum levels) := by
  induction levels with
  | zero => exact fun _ _ _ _ _ => Likeness.reports_refl _
  | succ levels ih => exact h.nodeFailures ih

/-- Rearranged nodes have the same failures on a value as far as outlines are concerned, in some order. -/
theorem Rearranged.failures (h : pool.Rearranged pool') (limits : Limits) {node node' : Node}
    (hnode : node.Rearranged node') (value : Json) :
    Likeness.reordering.Reports (pool.failures limits node value)
      (pool'.failures limits node' value) := by
  have hstart : pool.start node = pool'.start node' := by
    rw [start, start, hnode.place, h.scopeOf?_eq]
  rw [Pool.failures, Pool.failures, hstart]
  exact h.visit _ _ _ _ _ value hnode

end Pool

/-! ## Documents in the pool of the meta-schema -/

/-- The documents in the pool of a schema that is a document of its own. -/
def Pool.rootDocuments (root : Schema) : List Document :=
  [⟨.metaSchema, MetaSchema.schema, MetaSchema.base⟩, ⟨.main, root, Url.implicitBase⟩]

/-- The pool of a schema holds the meta-schema and the schema. -/
theorem Pool.ofRoot_eq (root : Schema) : Pool.ofRoot root = Pool.empty.addAll (rootDocuments root) :=
  rfl

/-- The meta-schema is rearranged into itself. -/
theorem MetaSchema.rearranged_schema : schema.Rearranged schema := by
  have hread := Schema.rel_decode Limits.default ⟨distinctNames_document, .refl document⟩
  rw [decode_document] at hread
  cases hread with
  | some h => exact h

/-- Readings with answering results succeed both or not at all. -/
theorem succeeds_iff_of_rel {ε α β : Type} {R : α → β → Prop} {a : Except ε α} {b : Except ε β}
    (h : Option.Rel R a.toOption b.toOption) : (∃ x, a = .ok x) ↔ ∃ y, b = .ok y := by
  cases a with
  | error e =>
    cases b with
    | error e' => exact ⟨nofun, nofun⟩
    | ok y => cases h
  | ok x =>
    cases b with
    | error e' => cases h
    | ok y => exact ⟨fun _ => ⟨y, rfl⟩, fun _ => ⟨x, rfl⟩⟩

namespace Schema

variable {limits : Limits} {document document' : Json} {s s' : Schema}

/-- Documents that differ in the order of members lead to rearranged pools, where no address is claimed by
two nodes. -/
theorem rearranged_ofRoot (h : document.DistinctReordered document')
    (hread : decode limits document = .ok s) (hs : s.Rearranged s')
    (hunambiguous : (Pool.ofRoot s).Unambiguous) : (Pool.ofRoot s).Rearranged (Pool.ofRoot s') where
  entries := by
    obtain ⟨levels, hs⟩ := hs
    obtain ⟨levels', hmeta⟩ := MetaSchema.rearranged_schema
    rw [Pool.ofRoot_eq, Pool.ofRoot_eq, Pool.entries_addAll, Pool.entries_addAll]
    exact (hmeta.entriesBy _ _ _ _).append ((hs.entriesBy _ _ _ _).append alike_nil)
  places := by
    rw [Pool.ofRoot_eq]
    refine AddedOnce.nodup_places ⟨(by decide : [DocumentName.metaSchema, .main].Nodup), ?_⟩
    rintro d (_ | ⟨_, _ | ⟨_, ⟨⟩⟩⟩)
    · exact MetaSchema.separate_schema
    · exact separate_of_decode hread h.1
  unambiguous := hunambiguous

/-! ## Documents without disputes -/

/-- A single resource none of whose bases is that of the meta-schema claims no address that the
meta-schema claims. -/
theorem Stands.not_claimed_by_metaSchema {root : Schema} {base : Url} (hbase : base.SignFree)
    (hsingle : root.Single .main) (hforeign : ∀ u ∈ root.resources base, u.Foreign) {node : Node}
    {around : Resource} (h : root.Stands .main base node around) {entry : Entry}
    (hentry : entry ∈ Pool.draft6.entries) {address : String}
    (haddress : address ∈ node.addresses base around) : address ∉ entry.addresses := by
  intro hclaimed
  obtain ⟨p, rfl⟩ := MetaSchema.exists_of_mem_addresses hentry hclaimed
  rcases h.claims hbase hsingle haddress with ⟨u, hu, hplace⟩ | ⟨-, hname⟩
  · refine (hforeign u hu).other (Eq.symm ?_)
    exact ((Address.ofPointer_inj MetaSchema.signFree_base (hforeign u hu).signFree).mp hplace).1
  · exact hname _ MetaSchema.signFree_base p rfl

/-- A document in which only the root may have an identifier, and not that of the meta-schema, has no
address that is claimed by two nodes. -/
theorem unambiguous_ofRoot {root : Schema} (hsingle : root.Single .main)
    (hforeign : ∀ u ∈ root.resources Url.implicitBase, u.Foreign) :
    (Pool.ofRoot root).Unambiguous := by
  have hbase := Url.signFree_implicitBase
  intro entry hentry entry' hentry' address haddress haddress'
  rcases List.mem_append.mp hentry with hmeta | hmain <;>
    rcases List.mem_append.mp hentry' with hmeta' | hmain'
  · rw [MetaSchema.entries_draft6] at hmeta hmeta'
    exact place_eq_of_claimed MetaSchema.signFree_base MetaSchema.single_schema hmeta hmeta' haddress
      haddress'
  · obtain ⟨node', around', h', rfl⟩ := mem_entries_iff.mp hmain'
    exact absurd haddress (h'.not_claimed_by_metaSchema hbase hsingle hforeign hmeta haddress')
  · obtain ⟨node, around, h, rfl⟩ := mem_entries_iff.mp hmain
    exact absurd haddress' (h.not_claimed_by_metaSchema hbase hsingle hforeign hmeta' haddress)
  · exact place_eq_of_claimed hbase hsingle hmain hmain' haddress haddress'

/-! ## Documents that differ in the order of members -/

/-- The order of members in a schema document never counts, as long as no address is claimed by two nodes.
Two documents that differ in nothing else are both schemas or both not. When they are, the same values
are valid against both, and what they report has the same outlines in some order. -/
theorem accepts_reordered (limits : Limits) (document document' : Json)
    (hdocument : document.distinctNames = true) (h : document.Reordered document') :
    ((∃ s, decode limits document = .ok s) ↔ ∃ s', decode limits document' = .ok s') ∧
      ∀ s s', decode limits document = .ok s → decode limits document' = .ok s' →
        (Pool.ofRoot s).Unambiguous → ∀ (limits' : Limits) (value : Json),
          (Pool.ofRoot s).accepts limits' s.node value =
              (Pool.ofRoot s').accepts limits' s'.node value ∧
            (((Pool.ofRoot s).failures limits' s.node value).map Failure.outline).Perm
              (((Pool.ofRoot s').failures limits' s'.node value).map Failure.outline) := by
  have hread := rel_decode limits ⟨hdocument, h⟩
  refine ⟨succeeds_iff_of_rel hread, ?_⟩
  intro s s' hs hs' hunambiguous limits' value
  rw [hs, hs'] at hread
  obtain ⟨hsame⟩ := hread
  have hpools := rearranged_ofRoot ⟨hdocument, h⟩ hs hsame hunambiguous
  have hnode : s.node.Rearranged s'.node := ⟨rfl, hsame⟩
  have hreports := hpools.failures limits' hnode value
  exact ⟨hreports.isEmpty_eq, Likeness.perm_outlines hreports⟩

end Schema

/-- A schema for houses, where some members need others and all that is told is texts. -/
def Schema.houses (needed : List (String × Dependency Schema)) : Schema :=
  .object {
    id := some "http://example.org/house"
    dependencies := some needed
    additionalProperties := some (.object { ref := some "#/definitions/text" })
    definitions := some [("text", .object { type := .single .string })] }

set_option maxRecDepth 10000 in
/-- Neither the place of the old identifier nor the order in which members are said to need others decides
whether a house is valid. Only the order of the reports changes. -/
theorem Schema.accepts_reordered_houses :
    let street := ("street", Json.array [.string "town"])
    let number := ("number", Json.array [.string "floor"])
    let text := ("definitions", Json.object [("text", .object [("type", .string "string")])])
    let other := ("additionalProperties", Json.object [("$ref", .string "#/definitions/text")])
    let old := ("id", Json.string "http://old.example/house")
    let new := ("$id", Json.string "http://example.org/house")
    let document := Json.object [old, new, other, text, ("dependencies", .object [street, number])]
    let document' := Json.object [new, old, other, text, ("dependencies", .object [number, street])]
    let s := Schema.houses [("street", .names ["town"]), ("number", .names ["floor"])]
    let s' := Schema.houses [("number", .names ["floor"]), ("street", .names ["town"])]
    let value := Json.object [("street", .null), ("number", .string "1")]
    document.distinctNames = true ∧ document.Reordered document' ∧
      decode Limits.default document = .ok s ∧ decode Limits.default document' = .ok s' ∧
      (Pool.ofRoot s).Unambiguous ∧
      (Pool.ofRoot s).accepts Limits.default s.node value =
        (Pool.ofRoot s').accepts Limits.default s'.node value ∧
      ((Pool.ofRoot s).failures Limits.default s.node value).map Failure.text =
        ["/street: expected string, got null", "/town: required property 'town' is missing",
          "/floor: required property 'floor' is missing"] ∧
      ((Pool.ofRoot s').failures Limits.default s'.node value).map Failure.text =
        ["/street: expected string, got null", "/floor: required property 'floor' is missing",
          "/town: required property 'town' is missing"] := by
  intro street number text other old new document document' s s' value
  have hdocument : document.distinctNames = true := by decide
  have hreordered : document.Reordered document' := by
    refine .trans (.shuffle (.swap new old _)) ?_
    exact .member [new, old, other, text] [] "dependencies" (.shuffle (.swap number street []))
  have hs : decode Limits.default document = .ok s := rfl
  have hs' : decode Limits.default document' = .ok s' := rfl
  have hunambiguous : (Pool.ofRoot s).Unambiguous := by
    refine unambiguous_ofRoot (by decide) fun u hu =>
      ⟨signFree_of_mem_resources Url.signFree_implicitBase hu, ?_⟩
    revert u
    decide
  have hsame := (accepts_reordered Limits.default document document' hdocument hreordered).2 s s' hs
    hs' hunambiguous Limits.default value
  exact ⟨hdocument, hreordered, hs, hs', hunambiguous, hsame.1, by decide +kernel, by decide +kernel⟩

/-- A schema that refers to a name which all of its definitions declare. -/
def Schema.disputed (types : List (String × SimpleType)) : Schema :=
  .object {
    allOf := some [.object { ref := some "#it" }]
    definitions := some (types.map fun (name, type) =>
      (name, .object { id := some "#it", type := .single type })) }

/-- The first of the definitions has the disputed name, so here the order decides. -/
example :
    let s := Schema.disputed [("text", .string), ("nothing", .null)]
    let s' := Schema.disputed [("nothing", .null), ("text", .string)]
    (Pool.ofDocument s).accepts Limits.default s.node .null = false ∧
      (Pool.ofDocument s').accepts Limits.default s'.node .null = true := by decide
end Draft6
