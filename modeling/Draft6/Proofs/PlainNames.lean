import Draft6.Proofs.FirstClaim
import Draft6.Proofs.FragmentReading
import Draft6.Proofs.Places

/-!
# References to plain names

A schema declares a plain name by an identifier that is a number sign and the name. The name is claimed
as it is written, but a reference of the same text is read first. So the schema is found under its name
when the name is read as itself. A name that is read as another one leads elsewhere, and back to the
schema only if it is read as a pointer to it.
-/

namespace Draft6

namespace Spot

variable {spot : Spot}

/-- What is in effect inside a spot has no number sign in its base. -/
theorem signFree_inside (h : spot.document.base.SignFree) : (spot.inside Url.scope?).base.SignFree := by
  induction spot with
  | root d =>
    have haround : ((root d).around Url.scope?).base.SignFree := h
    rw [inside_eq]
    exact Resource.signFree_enter haround _
  | child parent segments s ih =>
    have haround : ((child parent segments s).around Url.scope?).base.SignFree := ih h
    rw [inside_eq]
    exact Resource.signFree_enter haround _

/-- The base in effect where a spot is has no number sign. -/
theorem signFree_base (h : spot.document.base.SignFree) : (spot.base Url.scope?).SignFree := by
  rw [← base_around]
  cases spot with
  | root d => exact h
  | child parent segments s => exact signFree_inside h

/-- All spots on the way from the root of a resource are in one document. -/
theorem Leads.document_eq {scope? : Joining} {home : Spot} {pointer : Pointer}
    (h : home.Leads scope? pointer spot) : home.document = spot.document := by
  induction h with
  | home => rfl
  | child _ _ _ _ ih => exact ih

/-- The base of a resource has no number sign. -/
theorem signFree_resource {base : Url} (h : spot.document.base.SignFree)
    (hresource : spot.resource? Url.scope? = some base) : base.SignFree := by
  have hinside := signFree_inside h
  rwa [inside_of_resource? hresource] at hinside

/-- A claimed address is the plain name of the spot in the base in effect there, or the text of a
pointer. -/
theorem Claims.eq_ofAnchor (h : spot.document.base.SignFree) {address : String}
    (hclaims : spot.Claims Url.scope? address) :
    ∃ base fragment, base.SignFree ∧ address = Address.ofAnchor base fragment ∧
      ((∃ id, spot.schema.id? = some id ∧ Address.anchor? id = some fragment) ∨
        ∃ p : Pointer, fragment = p.text) := by
  cases hclaims with
  | anchor id name base hid hname hbase =>
    exact ⟨base, name, (signFree_base h).scope hbase, rfl, .inl ⟨id, hid, hname⟩⟩
  | resource home base p hhome hleads =>
    exact ⟨base, p.text, signFree_resource (hleads.document_eq ▸ h) hhome, rfl, .inr ⟨p, rfl⟩⟩
  | document => exact ⟨_, _, h, rfl, .inr ⟨_, rfl⟩⟩

/-- An address that a spot claims stands for what its fragment stands for. -/
theorem Claims.ofFragment_eq (h : spot.document.base.SignFree) {base : Url} {fragment : String}
    (hbase : base.SignFree) (hclaims : spot.Claims Url.scope? (Address.ofAnchor base fragment)) :
    Address.ofFragment base fragment = Address.ofAnchor base fragment := by
  obtain ⟨base', fragment', hbase', heq, hkind⟩ := hclaims.eq_ofAnchor h
  obtain ⟨-, rfl⟩ := (Address.ofAnchor_inj hbase hbase').mp heq
  rcases hkind with ⟨id, -, hname⟩ | ⟨p, rfl⟩
  · exact Address.ofFragment_of_parse? base (Address.parse?_of_anchor? hname)
  · exact Address.ofFragment_text base p

/-- A spot claims the plain name that it declares in the base in effect there. -/
theorem claims_name {id name : String} (hid : spot.schema.id? = some id)
    (hhead : id.toList.head? = some '#') (hname : Address.anchor? id = some name) :
    spot.Claims Url.scope? (Address.ofAnchor (spot.base Url.scope?) name) := by
  rw [← Address.ofAnchor_withoutFragment]
  exact .anchor id name _ hid hname (Url.scope?_of_fragment _ hhead)

end Spot

namespace Pool

/-- A reference that joins is looked up at the address of what it joins to. -/
theorem resolve_of_join? (pool : Pool) {reference : String} {scope target : Url}
    (hjoin : scope.join? reference = .ok target) :
    pool.resolve reference scope =
      match pool.entry? (Address.ofUrl target) with
      | some entry => .ok entry
      | none => .error (.unresolvable (Address.ofUrl target)) := by
  cases hentry : pool.entry? (Address.ofUrl target) with
  | none => simp only [resolve, hjoin, hentry]
  | some entry => simp only [resolve, hjoin, hentry]

/-- A reference that is a number sign and a fragment is looked up as it is read. -/
theorem resolve_sign (pool : Pool) (fragment : String) (scope : Url) :
    pool.resolve ("#" ++ fragment) scope =
      match pool.entry? (Address.ofFragment scope (Address.readFragment fragment)) with
      | some entry => .ok entry
      | none => .error (.unresolvable
          (Address.ofFragment scope (Address.readFragment fragment))) := by
  rw [resolve_of_join? pool (scope.join?_sign fragment), Address.ofUrl_withFragment]

end Pool

/-- All spots of a schema are in the document of the spot that it is at. -/
theorem Schema.document_of_mem_spots {s : Schema} {home spot : Spot} (h : spot ∈ s.spots home) :
    spot.document = home.document := by
  induction s using induction_on_children generalizing home with
  | boolean value => rw [List.mem_singleton.mp h]
  | object o ih =>
    rw [spots_object] at h
    rcases List.mem_cons.mp h with rfl | h
    · rfl
    · obtain ⟨child, hchild, h⟩ := List.mem_flatMap.mp h
      have hdocument := ih child hchild h
      exact hdocument

namespace Document

/-- Whether a spot of a document declares a plain name that no spot before it claims in the same
resource. -/
structure Declares (d : Document) (spot : Spot) (name : String) : Prop where
  id : spot.schema.id? = some ("#" ++ name)
  nonempty : name ≠ ""
  slash : name.toList.head? ≠ some '/'
  first : ∃ before after, d.spots = before ++ spot :: after ∧ ∀ earlier ∈ before,
    ¬ earlier.Claims Url.scope? (Address.ofAnchor (spot.base Url.scope?) name)

/-- Whether the node of a spot is found under a name, by a reference in the base in effect there. -/
def Finds (d : Document) (spot : Spot) (name : String) : Prop :=
  ((Pool.empty.addAll [d]).resolve ("#" ++ name) (spot.base Url.scope?)).toOption.map Entry.node =
    some spot.node

/-- Whether a name is read as a pointer to a spot. -/
def PointsBack (d : Document) (spot : Spot) (name : String) : Prop :=
  ∃ p, Pointer.parse? (Address.readFragment name) = some p ∧
    (Pool.entry? (Pool.empty.addAll [d])
      (Address.ofPointer (spot.base Url.scope?) p)).map Entry.node = some spot.node

namespace Declares

variable {d : Document} {spot : Spot} {name : String}

/-- The name that is declared, as a pool finds it in the identifier. -/
theorem anchor? (h : d.Declares spot name) : Address.anchor? ("#" ++ name) = some name :=
  Address.anchor?_sign h.nonempty h.slash

/-- The spot is one of the document. -/
theorem mem_spots (h : d.Declares spot name) : spot ∈ d.spots := by
  obtain ⟨before, after, hspots, -⟩ := h.first
  exact hspots ▸ List.mem_append_right _ List.mem_cons_self

/-- The base in effect at the spot has no number sign. -/
theorem signFree_base (h : d.Declares spot name) (hbase : d.base.SignFree) :
    (spot.base Url.scope?).SignFree := by
  refine Spot.signFree_base ?_
  rw [Schema.document_of_mem_spots h.mem_spots]
  exact hbase

/-- The name stands for the spot. -/
theorem entry?_eq (h : d.Declares spot name) :
    Pool.entry? (Pool.empty.addAll [d]) (Address.ofAnchor (spot.base Url.scope?) name) =
      some (spot.entry Url.scope?) := by
  obtain ⟨before, after, hspots, hfirst⟩ := h.first
  have hlist : [d].flatMap Document.spots = before ++ spot :: after := by
    rw [List.flatMap_singleton, hspots]
  exact Pool.entry?_eq_some_iff.mpr
    ⟨before, spot, after, hlist, Spot.claims_name h.id (by rw [String.toList_append]; rfl) h.anchor?,
      hfirst, rfl⟩

/-- The spot claims no other name. -/
theorem eq_of_claims (h : d.Declares spot name) (hbase : d.base.SignFree) {fragment : String}
    (hclaims : spot.Claims Url.scope? (Address.ofAnchor (spot.base Url.scope?) fragment))
    (hparse : Pointer.parse? fragment = none) : fragment = name := by
  have hdocument : spot.document.base.SignFree :=
    (Schema.document_of_mem_spots h.mem_spots).symm ▸ hbase
  obtain ⟨base, fragment', hbase', heq, hkind⟩ := hclaims.eq_ofAnchor hdocument
  obtain ⟨-, rfl⟩ := (Address.ofAnchor_inj (h.signFree_base hbase) hbase').mp heq
  rcases hkind with ⟨id, hid, hname⟩ | ⟨p, rfl⟩
  · rw [h.id] at hid
    obtain rfl := Option.some.inj hid
    exact Option.some.inj (hname.symm.trans h.anchor?)
  · rw [Pointer.parse?_text] at hparse
    cases hparse

end Declares

/-- A spot of a decoded document claims what the node of the spot is found under. -/
theorem claims_of_entry?_eq {limits : Limits} {json : Json} {d : Document}
    (hdecode : Schema.decode limits json = .ok d.root) (hjson : json.distinctNames = true)
    {spot : Spot} (hspot : spot ∈ d.spots) {address : String} {entry : Entry}
    (hentry : Pool.entry? (Pool.empty.addAll [d]) address = some entry)
    (hnode : entry.node = spot.node) : spot.Claims Url.scope? address := by
  have honce : AddedOnce [d] := addedOnce_of_decode (List.nodup_singleton _)
    (List.forall_mem_singleton.mpr ⟨limits, json, hjson, hdecode⟩)
  have hspotEntry : spot.entry Url.scope? ∈ (Pool.empty.addAll [d]).entries := by
    rw [Pool.entries_addAll_eq, List.flatMap_singleton]
    exact List.mem_map_of_mem hspot
  obtain ⟨hmem, haddress⟩ := Pool.claimed_of_found hentry
  have hsame : entry = spot.entry Url.scope? :=
    honce.eq_of_place_eq hmem hspotEntry (congrArg Node.place hnode)
  exact Spot.mem_addresses_iff.mp (hsame ▸ haddress)

/-- A plain name is found under the text that declares it exactly when it is legible, but for a name
that is read as a pointer back to the spot. -/
theorem finds_iff_legible {limits : Limits} {json : Json} {d : Document}
    (hdecode : Schema.decode limits json = .ok d.root) (hjson : json.distinctNames = true)
    (hbase : d.base.SignFree) {spot : Spot} {name : String} (h : d.Declares spot name) :
    d.Finds spot name ↔ Address.Legible name ∨ d.PointsBack spot name := by
  have hname : Pointer.parse? name = none := Address.parse?_of_anchor? h.anchor?
  rw [Finds, Pool.resolve_sign, PointsBack]
  constructor
  · intro hfound
    split at hfound
    · next entry hentry =>
      have hnode : entry.node = spot.node := Option.some.inj hfound
      cases hparse : Pointer.parse? (Address.readFragment name) with
      | some p =>
        rw [Address.ofFragment, hparse] at hentry
        exact .inr ⟨p, rfl, by rw [hentry, Option.map_some, hnode]⟩
      | none =>
        rw [Address.ofFragment_of_parse? _ hparse] at hentry
        have hclaims := claims_of_entry?_eq hdecode hjson h.mem_spots hentry hnode
        have hsame := h.eq_of_claims hbase hclaims hparse
        exact .inl (Address.readFragment_eq_self_iff.mp hsame)
    · cases hfound
  · rintro (hlegible | ⟨p, hparse, hfound⟩)
    · rw [Address.readFragment_eq_self_iff.mpr hlegible, Address.ofFragment_of_parse? _ hname,
        h.entry?_eq]
      rfl
    · obtain ⟨entry, hentry, hnode⟩ := Option.map_eq_some_iff.mp hfound
      rw [Address.ofFragment, hparse]
      simp only [hentry]
      exact congrArg some hnode

/-- A document with one schema that has an identifier, as JSON. -/
def partJson (id : String) : Json :=
  .object [("definitions", .object [("part", .object [("$id", .string id)])])]

/-- A document with one schema that has an identifier. -/
def withPart (id : String) : Document where
  name := .main
  root := .object { definitions := some [("part", .object { id := some id })] }
  base := Url.implicitBase

/-- The schema with an identifier in the document. -/
def part (id : String) : Spot :=
  .child (.root (withPart id)) ["definitions", "part"] (.object { id := some id })

/-- The schema with an identifier declares its name when only the root, which does not claim it, comes
before it. -/
theorem declares_part {id name : String} (hid : id = "#" ++ name) (hempty : name ≠ "")
    (hslash : name.toList.head? ≠ some '/')
    (hspots : (withPart id).spots = [.root (withPart id), part id])
    (hfirst : Address.ofAnchor ((part id).base Url.scope?) name ∉
      ((Spot.root (withPart id)).entry Url.scope?).addresses) :
    (withPart id).Declares (part id) name := by
  refine ⟨congrArg some hid, hempty, hslash, [.root (withPart id)], [], hspots, ?_⟩
  intro earlier hearlier
  rw [List.mem_singleton.mp hearlier, ← Spot.mem_addresses_iff]
  exact hfirst

/-- A legible name is found. -/
theorem finds_legible_name :
    Schema.decode Limits.default (partJson "#a") = .ok (withPart "#a").root ∧
      (withPart "#a").Declares (part "#a") "a" ∧ (withPart "#a").Finds (part "#a") "a" := by
  have hdecode : Schema.decode Limits.default (partJson "#a") = .ok (withPart "#a").root := by rfl
  have hdeclares : (withPart "#a").Declares (part "#a") "a" :=
    declares_part (by decide) (by decide) (by decide) rfl (by decide)
  have hlegible : Address.Legible "a" := Address.readFragment_eq_self_iff.mp (by decide)
  exact ⟨hdecode, hdeclares, (finds_iff_legible hdecode (by decide) Url.signFree_implicitBase
    hdeclares).mpr (.inl hlegible)⟩

/-- A name with two digits behind a percent sign is not found, although nobody else declares it: it is
read as another name. -/
theorem not_finds_percent_name :
    Schema.decode Limits.default (partJson "#a%41") = .ok (withPart "#a%41").root ∧
      (withPart "#a%41").Declares (part "#a%41") "a%41" ∧
      ¬ (withPart "#a%41").Finds (part "#a%41") "a%41" := by
  refine ⟨rfl, declares_part (by decide) (by decide) (by decide) rfl (by decide), fun hfinds => ?_⟩
  have hmissed : ((Pool.empty.addAll [withPart "#a%41"]).resolve "#a%41"
      ((part "#a%41").base Url.scope?)).toOption.isNone = true := by
    decide
  have hnone := congrArg (Option.map Entry.node) (Option.isNone_iff_eq_none.mp hmissed)
  exact absurd (hnone.symm.trans hfinds) (by simp)

end Document

end Draft6
