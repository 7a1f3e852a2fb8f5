import Draft6.Proofs.KeywordSources

/-!
# Single keywords

A schema object is put together from its keywords, so one keyword can be taken from another schema
object while all others stay as they are. This is what one more member does in a document: when it has
the name of a keyword that no later member has, the document is read as before but for that keyword.
-/

namespace Draft6

open Decoded (below_eq_ok)

namespace ObjectSchema

variable {σ τ : Type}

/-- The schema object that has one keyword of another one and nothing else. -/
def only (k : Keyword) (o : ObjectSchema σ) : ObjectSchema σ :=
  gather (Function.update (fun _ => {}) k o) []

/-- The schema object that takes one keyword from another one. -/
def withKeyword (o : ObjectSchema σ) (k : Keyword) (p : ObjectSchema σ) : ObjectSchema σ :=
  gather (Function.update (fun _ => o) k p) o.extra

/-- Whether a schema object has nothing to lose when a keyword is taken from it. -/
def Lacks (o : ObjectSchema σ) (k : Keyword) : Prop := o.withKeyword k {} = o

/-! ## What is put together -/

/-- Of each source only its own keyword counts. -/
theorem gather_only (pick : Keyword → ObjectSchema σ) (extra : List (String × σ)) :
    gather (fun k => only k (pick k)) extra = gather pick extra := rfl

/-- A keyword of what was put together is that of its source. -/
theorem only_gather (k : Keyword) (pick : Keyword → ObjectSchema σ) (extra : List (String × σ)) :
    only k (gather pick extra) = only k (pick k) := by
  cases k <;> rfl

/-- Sources that agree on their own keywords are put together alike. -/
theorem gather_congr {pick pick' : Keyword → ObjectSchema σ}
    (h : ∀ k, only k (pick k) = only k (pick' k)) (extra : List (String × σ)) :
    gather pick extra = gather pick' extra := by
  rw [← gather_only pick, ← gather_only pick', funext h]

/-- Taking a keyword from another schema object replaces the source of this keyword. -/
theorem withKeyword_gather (pick : Keyword → ObjectSchema σ) (extra : List (String × σ)) (k : Keyword)
    (p : ObjectSchema σ) :
    (gather pick extra).withKeyword k p = gather (Function.update pick k p) extra := by
  refine gather_congr (fun j => ?_) extra
  by_cases hj : j = k
  · subst hj
    rw [Function.update_self, Function.update_self]
  · rw [Function.update_of_ne hj, Function.update_of_ne hj, only_gather]

/-- The other keywords stay. -/
theorem only_withKeyword_of_ne (o : ObjectSchema σ) {j k : Keyword} (h : j ≠ k) (p : ObjectSchema σ) :
    only j (o.withKeyword k p) = only j o := by
  rw [withKeyword, only_gather, Function.update_of_ne h]

/-- The identifier stays when another keyword is taken. -/
theorem id_withKeyword (o : ObjectSchema σ) {k : Keyword} (h : k ≠ .id) (p : ObjectSchema σ) :
    (o.withKeyword k p).id = o.id := by
  change (only .id (o.withKeyword k p)).id = (only .id o).id
  rw [only_withKeyword_of_ne o h.symm]

/-- The reference stays when another keyword is taken. -/
theorem ref_withKeyword (o : ObjectSchema σ) {k : Keyword} (h : k ≠ .ref) (p : ObjectSchema σ) :
    (o.withKeyword k p).ref = o.ref := by
  change (only .ref (o.withKeyword k p)).ref = (only .ref o).ref
  rw [only_withKeyword_of_ne o h.symm]

/-- Two keywords can be taken in any order. -/
theorem withKeyword_comm (o : ObjectSchema σ) {j k : Keyword} (h : j ≠ k) (p q : ObjectSchema σ) :
    (o.withKeyword j p).withKeyword k q = (o.withKeyword k q).withKeyword j p := by
  have hboth (i i' : Keyword) (r r' : ObjectSchema σ) : (o.withKeyword i r).withKeyword i' r' =
      gather (Function.update (Function.update (fun _ => o) i r) i' r') o.extra :=
    withKeyword_gather _ _ i' r'
  rw [hboth, hboth, Function.update_comm h]

/-- Replacing the sub-schemas can wait until a keyword is taken. -/
theorem mapPath_withKeyword (f : List String → σ → τ) (o : ObjectSchema σ) (k : Keyword)
    (p : ObjectSchema σ) :
    (o.withKeyword k p).mapPath f = (o.mapPath f).withKeyword k (p.mapPath f) := by
  have hmap (pick : Keyword → ObjectSchema σ) (extra : List (String × σ)) :
      (gather pick extra).mapPath f = gather (fun j => (pick j).mapPath f)
        (extra.map fun entry => (entry.1, f [entry.1] entry.2)) := rfl
  rw [withKeyword, hmap]
  refine gather_congr (fun j => ?_) _
  by_cases hj : j = k
  · subst hj
    rw [Function.update_self, Function.update_self]
  · rw [Function.update_of_ne hj, Function.update_of_ne hj]

/-- A keyword that is absent stays so when the sub-schemas are replaced. -/
theorem Lacks.mapPath {o : ObjectSchema σ} {k : Keyword} (h : o.Lacks k) (f : List String → σ → τ) :
    (o.mapPath f).Lacks k :=
  (mapPath_withKeyword f o k {}).symm.trans (congrArg (ObjectSchema.mapPath f) h)

/-! ## One more member -/

variable {child : Json → Decoded σ} {k : Keyword} {o p : ObjectSchema σ}

/-- Reading the value of a keyword takes this keyword from what is read into an empty schema object. -/
theorem decodeKeyword_eq_map (o : ObjectSchema σ) (k : Keyword) (value : Json) :
    decodeKeyword child o k value = o.withKeyword k <$> decodeKeyword child {} k value :=
  decodeKeyword_gather child (fun _ => o) o.extra k value

/-- A member with another name is read as if the keyword had not been taken. -/
theorem decodeMember_withKeyword {name : String} (h : k.name ≠ name) (value : Json) :
    decodeMember child (o.withKeyword k p) name value =
      (fun q => withKeyword q k p) <$> decodeMember child o name value := by
  rw [decodeMember, decodeMember]
  cases hname : Keyword.ofName? name with
  | none =>
    have hself : keepUnknown child o name value =
        gather (fun _ => o) (o.extra ++ (unknown? child value).toList.map (Prod.mk name)) :=
      @keepUnknown_gather σ child (fun _ => o) o.extra name value
    dsimp only
    rw [hself, withKeyword, keepUnknown_gather, ← withKeyword_gather]
    rfl
  | some j =>
    obtain rfl : j.name = name := by simpa using List.find?_some hname
    have hjk : j ≠ k := fun heq => h (congrArg Keyword.name heq.symm)
    dsimp only
    rw [decodeKeyword_eq_map, decodeKeyword_eq_map o]
    cases decodeKeyword child {} j value with
    | error e => rfl
    | ok q => exact congrArg Except.ok (withKeyword_comm o hjk.symm p q)

/-- Members with other names are read as if the keyword had not been taken. -/
theorem foldlM_withKeyword {members : List (String × Json)} (h : k.name ∉ members.map Prod.fst)
    (o : ObjectSchema σ) :
    members.foldlM (fun o member => decodeMember child o member.1 member.2) (o.withKeyword k p) =
      (fun q => withKeyword q k p) <$>
        members.foldlM (fun o member => decodeMember child o member.1 member.2) o := by
  induction members generalizing o with
  | nil => rfl
  | cons member rest ih =>
    rw [List.map_cons, List.mem_cons, not_or] at h
    rw [List.foldlM_cons, List.foldlM_cons, decodeMember_withKeyword h.1]
    cases decodeMember child o member.1 member.2 with
    | error e => rfl
    | ok q => exact ih h.2 q

/-- One more member for a keyword that no later member is for is read, if it is, as this keyword, and the
rest of the document is read as without it. -/
theorem decode_insert_eq_ok_iff {before after : List (String × Json)} {value : Json}
    (h : k.name ∉ after.map Prod.fst) {q : ObjectSchema σ} :
    decode child (before ++ (k.name, value) :: after) = .ok q ↔
      ∃ o, decode child (before ++ after) = .ok o ∧
        ∃ p, decodeKeyword child {} k value = .ok p ∧ q = o.withKeyword k p := by
  have holder : olderId? (before ++ (k.name, value) :: after) = olderId? (before ++ after) := by
    have hne : (Keyword.olderId == k.name) = false := by cases k <;> rfl
    rw [olderId?, olderId?, List.lookup_append, List.lookup_append, List.lookup_cons, hne]
  have hmember (o : ObjectSchema σ) : decodeMember child o k.name value =
      Decoded.below k.name (o.withKeyword k <$> decodeKeyword child {} k value) := by
    rw [decodeMember, ofName?_name]
    exact congrArg (Decoded.below k.name) (decodeKeyword_eq_map o k value)
  rw [decode, decode, holder, List.foldlM_append, List.foldlM_append, bind_eq_ok]
  simp only [bind_eq_ok, List.foldlM_cons, hmember, below_eq_ok, map_eq_ok]
  constructor
  · rintro ⟨first, hfirst, _, ⟨p, hp, rfl⟩, hrest⟩
    rw [foldlM_withKeyword h, map_eq_ok] at hrest
    obtain ⟨o, ho, rfl⟩ := hrest
    exact ⟨o, ⟨first, hfirst, ho⟩, p, hp, rfl⟩
  · rintro ⟨o, ⟨first, hfirst, ho⟩, p, hp, rfl⟩
    refine ⟨first, hfirst, _, ⟨p, hp, rfl⟩, ?_⟩
    rw [foldlM_withKeyword h, ho]
    rfl

end ObjectSchema

end Draft6
