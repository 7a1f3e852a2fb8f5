import Draft6.Proofs.Meaning
import Draft6.Proofs.Standing
import Draft6.Proofs.UrlResource

/-!
# References to the places of a document

A reference that is only a pointer is looked up in the resource of the base where it stands. In the
base inside the root of a document the text of a pointer finds the node at this place when the node
belongs to the resource of the root. Below a schema that begins a resource of its own, the places of
the document are only claimed for the base around the root. They are found as well if that base is the
one inside the root, and not otherwise.
-/

namespace Draft6

namespace Pointer

/-- Pointers with one text are one. -/
theorem text_inj {p q : Pointer} : p.text = q.text ↔ p = q := by
  constructor
  · intro h
    have hparse := congrArg parse? h
    rw [parse?_text, parse?_text] at hparse
    exact Option.some.inj hparse
  · exact congrArg text

end Pointer

namespace Address

/-- Two addresses of places are one when both the documents and the places in them are. -/
theorem ofPointer_inj {u v : Url} (hu : u.SignFree) (hv : v.SignFree) {p q : Pointer} :
    ofPointer u p = ofPointer v q ↔
      u.withoutFragment.text = v.withoutFragment.text ∧ p = q := by
  rw [ofPointer, ofPointer, ofAnchor_inj hu hv, Pointer.text_inj]

/-- A plain name is no text of a pointer. -/
theorem anchor?_ne_text {id name : String} (h : anchor? id = some name) (p : Pointer) :
    name ≠ p.text := by
  intro htext
  rw [anchor?.eq_def] at h
  split at h
  · cases h
  · cases h
  · cases h
  · next cs hempty hslash _ =>
    obtain rfl := Option.some.inj h
    have hlist := congrArg String.toList htext
    rw [String.toList_ofList, p.toList_text] at hlist
    obtain ⟨segments⟩ := p
    cases segments with
    | nil => exact hempty hlist
    | cons s segments => exact hslash _ hlist

end Address

namespace Resource

/-- The base inside a schema has no number sign. -/
theorem signFree_enter {around : Resource} (h : around.base.SignFree) (id? : Option String) :
    (around.enter id?).base.SignFree := by
  rw [enter.eq_def]
  split
  · split
    · next hscope =>
      split
      · exact h
      · exact h.scope hscope
    · exact h
  · exact h

/-- The address of a plain name is the address of no place. -/
theorem anchor?_ne_ofPointer {around : Resource} (haround : around.base.SignFree)
    {id? : Option String} {address : String} (h : around.anchor? id? = some address) {u : Url}
    (hu : u.SignFree) (p : Pointer) : address ≠ Address.ofPointer u p := by
  obtain ⟨id, _, h⟩ := Option.bind_eq_some_iff.mp h
  obtain ⟨name, hname, h⟩ := Option.bind_eq_some_iff.mp h
  obtain ⟨document, hdocument, h⟩ := Option.bind_eq_some_iff.mp h
  obtain rfl := Option.some.inj h
  intro heq
  cases hscope : around.base.scope? id with
  | error e =>
    rw [hscope] at hdocument
    cases hdocument
  | ok scope =>
    rw [hscope] at hdocument
    obtain rfl := Option.some.inj hdocument
    have hsame := (Address.ofAnchor_inj (haround.scope hscope) hu).mp heq
    exact Address.anchor?_ne_text hname p hsame.2

end Resource

namespace Schema

variable {root : Schema} {document : DocumentName} {base : Url}

/-- The base around a standing node has no number sign. -/
theorem Stands.signFree (hbase : base.SignFree) {node : Node} {around : Resource}
    (h : root.Stands document base node around) : around.base.SignFree := by
  induction h with
  | root => exact hbase
  | child _ _ _ _ ih => exact Resource.signFree_enter ih _

/-- The base inside the root is the one that its identifier names, but for the fragment. -/
theorem rootInside_withoutFragment :
    (root.rootInside document base).base.withoutFragment =
      (base.inside root.id?).withoutFragment := by
  change ((Resource.mk base Pointer.root).enter root.id?).base.withoutFragment = _
  cases hid : root.id? with
  | none => rfl
  | some id =>
    cases hscope : base.scope? id with
    | error e => simp only [Resource.enter, Url.inside, hscope, Option.bind_some]; rfl
    | ok scope =>
      by_cases hhead : id.toList.head? = some '#'
      -- Joined, an identifier that is only a fragment gives the base with another fragment.
      · have hsame : scope = base.withoutFragment :=
          Except.ok.inj (hscope.symm.trans (base.scope?_of_fragment hhead))
        simp only [Resource.enter, Url.inside, hscope, if_pos hhead, Option.bind_some]
        change base.withoutFragment = scope.withoutFragment
        rw [hsame, Url.withoutFragment_withoutFragment]
      · simp only [Resource.enter, Url.inside, hscope, if_neg hhead, Option.bind_some]
        rfl

/-- The address of a place in the base inside the root. -/
theorem ofPointer_rootInside (p : Pointer) :
    Address.ofPointer (root.rootInside document base).base p =
      Address.ofPointer (base.inside root.id?) p := by
  rw [Address.ofPointer, Address.ofPointer, Address.ofAnchor, Address.ofAnchor,
    rootInside_withoutFragment]

/-- The base inside the root has no number sign. -/
theorem signFree_inside (hbase : base.SignFree) (id? : Option String) :
    (base.inside id?).SignFree := by
  cases id? with
  | none => exact hbase
  | some id =>
    rw [Url.inside, Option.bind_some]
    cases hscope : base.scope? id with
    | error e => exact hbase
    | ok scope => exact hbase.scope hscope

/-- A standing node claims its place in the base inside the root when this is the base of the
document, or when the node belongs to the resource of the root. -/
theorem Stands.ofPointer_mem_addresses_iff (hbase : base.SignFree) {node : Node} {around : Resource}
    (h : root.Stands document base node around) :
    Address.ofPointer (base.inside root.id?) node.place.pointer ∈ node.addresses base around ↔
      (base.inside root.id?).withoutFragment.text = base.withoutFragment.text ∨
        root.Unbroken document base node around := by
  have hinside := signFree_inside hbase root.id?
  have haround := h.signFree hbase
  have hmem (address : String) : address ∈ node.addresses base around ↔
      around.anchor? node.schema.id? = some address ∨ address = (node.inside around).address ∨
        address = Address.ofPointer base node.place.pointer := by
    rw [Node.addresses, List.mem_append, Option.mem_toList, List.mem_pair]
    rfl
  rw [hmem]
  constructor
  · rintro (hanchor | hplace | hdocument)
    · exact absurd rfl (Resource.anchor?_ne_ofPointer haround hanchor hinside _)
    · have hsignFree : (node.inside around).base.SignFree := Resource.signFree_enter haround _
      -- Below a schema that begins a resource the pointer is too short to be that of the place.
      have hpointer := ((Address.ofPointer_inj hinside hsignFree).mp hplace).2
      rcases h.unbroken_or with hunbroken | hshorter
      · exact .inr hunbroken
      · rw [hpointer] at hshorter
        exact absurd hshorter (Nat.lt_irrefl _)
    · exact .inl ((Address.ofPointer_inj hinside hbase).mp hdocument).1
  · rintro (hdocument | hunbroken)
    · exact .inr (.inr ((Address.ofPointer_inj hinside hbase).mpr ⟨hdocument, rfl⟩))
    · refine .inr (.inl ?_)
      rw [Resource.address, hunbroken.inside_eq, ofPointer_rootInside]

end Schema

namespace Pool

/-- The entry that has an address is one of the pool, and claims the address. -/
theorem claimed_of_found {pool : Pool} {address : String} {entry : Entry}
    (h : pool.entry? address = some entry) : entry ∈ pool.entries ∧ address ∈ entry.addresses := by
  have hcontains := @List.find?_some _ (fun e : Entry => e.addresses.contains address) _ _ h
  exact ⟨List.mem_of_find?_eq_some h, List.contains_iff_mem.mp hcontains⟩

/-- Nobody claims an address that no entry has. -/
theorem not_claimed_of_missed {pool : Pool} {address : String}
    (h : pool.entry? address = none) {entry : Entry} (hentry : entry ∈ pool.entries) :
    address ∉ entry.addresses := by
  intro haddress
  exact List.find?_eq_none.mp h entry hentry (List.contains_iff_mem.mpr haddress)

/-- A reference that is only the text of a pointer is looked up in the resource of the base. -/
theorem resolve_fragment (pool : Pool) (extra : Char → Bool) (p : Pointer) (scope : Url) :
    pool.resolve ("#" ++ p.fragment extra) scope =
      match pool.entry? (Address.ofPointer scope p) with
      | some entry => .ok entry
      | none => .error (.unresolvable (Address.ofPointer scope p)) := by
  have hjoin : scope.join? ("#" ++ p.fragment extra) =
      .ok { scope with fragment := some (p.fragment extra) } := by
    have hplain : ∀ c ∈ (p.fragment extra).toList, Url.InFragment c := fun c hc =>
      p.inFragment_of_mem_fragment extra hc
    simpa only [String.ofList_toList] using scope.join?_fragment hplain
  cases hentry : pool.entry? (Address.ofPointer scope p) with
  | none => simp only [resolve, hjoin, Address.ofUrl_fragment, hentry]
  | some entry => simp only [resolve, hjoin, Address.ofUrl_fragment, hentry]

end Pool

namespace Schema

/-- Whether no other node of a document claims the place of a node in the base inside the root. -/
def Undisputed (root : Schema) (document : DocumentName) (base : Url) (node : Node) : Prop :=
  ∀ entry ∈ (Pool.empty.addAt document root base).entries,
    Address.ofPointer (base.inside root.id?) node.place.pointer ∈ entry.addresses →
      entry.node = node

/-- Whether the text of the pointer of a node, in a reference that stands in the base inside the root,
finds the node. -/
def Finds (root : Schema) (document : DocumentName) (base : Url) (extra : Char → Bool)
    (node : Node) : Prop :=
  ((Pool.empty.addAt document root base).resolve ("#" ++ node.place.pointer.fragment extra)
    (base.inside root.id?)).toOption.map Entry.node = some node

/-- A node whose place is undisputed is found at it from the base inside the root exactly when this
base is the one of the document, or when the node belongs to the resource of the root. -/
theorem finds_iff (root : Schema) (document : DocumentName) (base : Url) (hbase : base.SignFree)
    (node : Node) (hnode : node ∈ root.nodes document)
    (hundisputed : root.Undisputed document base node) (extra : Char → Bool) :
    root.Finds document base extra node ↔
      (base.inside root.id?).withoutFragment.text = base.withoutFragment.text ∨
        ∃ around, root.Unbroken document base node around := by
  rw [Finds, Pool.resolve_fragment]
  constructor
  · intro hfound
    split at hfound
    · next entry hentry =>
      obtain rfl : entry.node = node := Option.some.inj hfound
      obtain ⟨hmem, haddress⟩ := Pool.claimed_of_found hentry
      obtain ⟨node, around, hstands, rfl⟩ := mem_entries_iff.mp hmem
      rcases (hstands.ofPointer_mem_addresses_iff hbase).mp haddress with hdocument | hunbroken
      · exact .inl hdocument
      · exact .inr ⟨around, hunbroken⟩
    · cases hfound
  · intro hplace
    have hclaims : ∃ around, root.Stands document base node around ∧
        Address.ofPointer (base.inside root.id?) node.place.pointer ∈
          node.addresses base around := by
      rcases hplace with hdocument | ⟨around, hunbroken⟩
      · obtain ⟨around, hstands⟩ := exists_stands_of_mem_nodes hnode base
        exact ⟨around, hstands, (hstands.ofPointer_mem_addresses_iff hbase).mpr (.inl hdocument)⟩
      · have hstands := hunbroken.stands
        exact ⟨around, hstands, (hstands.ofPointer_mem_addresses_iff hbase).mpr (.inr hunbroken)⟩
    obtain ⟨around, hstands, haddress⟩ := hclaims
    have hentry := mem_entries_iff.mpr ⟨node, around, hstands, rfl⟩
    cases hfound : Pool.entry? (Pool.empty.addAt document root base)
        (Address.ofPointer (base.inside root.id?) node.place.pointer) with
    | none => exact absurd haddress (Pool.not_claimed_of_missed hfound hentry)
    | some entry =>
      obtain ⟨hmem, hclaimed⟩ := Pool.claimed_of_found hfound
      exact congrArg some (hundisputed entry hmem hclaimed)

/-- A document that has a schema with an identifier, and perhaps one itself. -/
def withPart (id? : Option String) : Schema :=
  .object { id := id?, definitions := some [("part", .object { id := some "part.json" })] }

/-- The schema with an identifier in the document. -/
def part (id? : Option String) : Node :=
  (Node.root .main (withPart id?)).child ["definitions", "part"] (.object { id := some "part.json" })

/-- Where the root has no identifier, a schema with one is found at its place. -/
theorem finds_part : (withPart none).Finds .main Url.implicitBase (fun _ => false) (part none) := by
  have hundisputed : (withPart none).Undisputed .main Url.implicitBase (part none) := by
    intro entry hentry haddress
    rcases List.mem_cons.mp hentry with rfl | hentry
    · exact absurd haddress (by decide)
    · rcases List.mem_cons.mp hentry with rfl | hentry
      · rfl
      · cases hentry
  exact (finds_iff (withPart none) .main Url.implicitBase Url.signFree_implicitBase (part none)
    (List.mem_of_getElem? (i := 1) rfl) hundisputed (fun _ => false)).mpr (.inl rfl)

/-- Where the root has an identifier of its own, a schema with another is not found at its place,
although nobody else claims it. -/
theorem not_finds_part :
    part (some "root.json") ∈ (withPart (some "root.json")).nodes .main ∧
      (withPart (some "root.json")).Undisputed .main Url.implicitBase (part (some "root.json")) ∧
      ¬ (withPart (some "root.json")).Finds .main Url.implicitBase (fun _ => false)
        (part (some "root.json")) := by
  refine ⟨List.mem_of_getElem? (i := 1) rfl, ?_, ?_⟩
  · intro entry hentry haddress
    have hnobody : ∀ entry ∈ (Pool.empty.addAt .main (withPart (some "root.json"))
        Url.implicitBase).entries,
        "json-schema:///root.json#/definitions/part" ∉ entry.addresses := by
      decide
    exact absurd haddress (hnobody entry hentry)
  · intro hfound
    have hmissed : ((Pool.empty.addAt .main (withPart (some "root.json")) Url.implicitBase).resolve
        ("#" ++ (part (some "root.json")).place.pointer.fragment fun _ => false)
        (Url.implicitBase.inside (some "root.json"))).toOption.isNone = true := by
      decide
    have hnone := congrArg (Option.map Entry.node) (Option.isNone_iff_eq_none.mp hmissed)
    exact absurd (hnone.symm.trans hfound) (by simp)

end Schema

end Draft6
