import Draft6.Proofs.AddedKeyword
import Draft6.Proofs.PointerAddress
import Draft6.Proofs.RearrangedPools

/-!
# Unknown keywords and the targets of references

A document with one more unknown keyword is indexed like the one without it, but for the schemas in the
value of the keyword. They come in one place of the order. So a reference keeps its target, or leads to
one of these schemas: one that claims the address, and that comes before the schema that had it.

Schemas without identifiers claim only their ways from the roots of resources that were there before.
Where no address is claimed by two nodes, no node has one of these ways, and every reference keeps its
target.
-/

namespace Draft6

section Lists

variable {α β : Type} {P Q : α → Prop} {xs xs' : List α}

/-- Whether a list has come from another one by elements that were put in at one place, and all of them
are as they should be. -/
def Inserted (P : α → Prop) (xs xs' : List α) : Prop :=
  ∃ before added after, xs = before ++ after ∧ xs' = before ++ (added ++ after) ∧ ∀ x ∈ added, P x

/-- Nothing may be put in. -/
theorem inserted_self (P : α → Prop) (xs : List α) : Inserted P xs xs :=
  ⟨xs, [], [], (List.append_nil xs).symm, (List.append_nil xs).symm, nofun⟩

/-- What was in the list stays in it, in the same order. -/
theorem Inserted.sublist (h : Inserted P xs xs') : xs.Sublist xs' := by
  obtain ⟨before, added, after, rfl, rfl, -⟩ := h
  exact List.Sublist.append_left (List.sublist_append_right added after) before

/-- What is in the list now was there, or was put in. -/
theorem Inserted.of_mem (h : Inserted P xs xs') {x : α} (hx : x ∈ xs') : x ∈ xs ∨ P x := by
  obtain ⟨before, added, after, rfl, rfl, hadded⟩ := h
  rcases List.mem_append.mp hx with hx | hx
  · exact .inl (List.mem_append_left _ hx)
  · exact (List.mem_append.mp hx).symm.imp (List.mem_append_right _) (hadded x)

/-- What is put into a part of a list is put into the list. -/
theorem Inserted.append (h : Inserted P xs xs') (hPQ : ∀ x, P x → Q x) (first last : List α) :
    Inserted Q (first ++ (xs ++ last)) (first ++ (xs' ++ last)) := by
  obtain ⟨before, added, after, rfl, rfl, hadded⟩ := h
  refine ⟨first ++ before, added, after ++ last, ?_, ?_, fun x hx => hPQ x (hadded x hx)⟩ <;>
    simp only [List.append_assoc]

/-- What a search finds in a list without repetitions it finds in every part of the list that holds it. -/
theorem find?_of_sublist (h : xs.Sublist xs') (hnodup : xs'.Nodup) {p : α → Bool} {y : α}
    (hy : xs'.find? p = some y) (hmem : y ∈ xs) : xs.find? p = some y := by
  induction h with
  | slnil => exact hy
  | cons a h ih =>
    obtain ⟨ha, hnodup⟩ := List.nodup_cons.mp hnodup
    rw [List.find?_cons] at hy
    split at hy
    · obtain rfl := Option.some.inj hy
      exact absurd (h.subset hmem) ha
    · exact ih hnodup hy hmem
  | cons_cons a h ih =>
    rw [List.find?_cons] at hy ⊢
    split at hy
    · exact hy
    · next hp =>
      have hne : y ≠ a := by
        rintro rfl
        exact absurd (List.find?_some hy) (Bool.eq_false_iff.mp hp)
      exact ih (List.nodup_cons.mp hnodup).2 hy (List.mem_of_ne_of_mem hne hmem)

/-- Where elements are told apart by something, a search in a longer list finds what it finds in a part of
it, unless another element is found and does not come behind that one. -/
theorem exists_find?_of_sublist (h : xs.Sublist xs') {f : α → β} (hnodup : (xs'.map f).Nodup)
    {p : α → Bool} {x : α} (hx : xs.find? p = some x) :
    ∃ y, xs'.find? p = some y ∧ (f y = f x → y = x) ∧ (f y = f x ↔ ¬ ∃ before z after,
      xs' = before ++ z :: after ∧ f z ∉ xs.map f ∧ p z = true ∧ f x ∉ before.map f) := by
  have hold := List.mem_of_find?_eq_some hx
  have hmem := h.subset hold
  have hp := List.find?_some hx
  obtain ⟨y, hy⟩ := Option.isSome_iff_exists.mp (List.find?_isSome.mpr ⟨x, hmem, hp⟩)
  have hin := List.mem_of_find?_eq_some hy
  have hsame : f y = f x → y = x := List.inj_on_of_nodup_map hnodup hin hmem
  refine ⟨y, hy, hsame, fun heq => ?_, fun hnot => ?_⟩
  · rintro ⟨before, z, after, rfl, hz, hpz, hbefore⟩
    obtain rfl := hsame heq
    rw [List.find?_append, List.find?_cons_of_pos hpz] at hy
    cases hfound : before.find? p with
    | none =>
      obtain rfl : z = y := by simpa [hfound] using hy
      exact hz (List.mem_map_of_mem hold)
    | some w =>
      obtain rfl : w = y := by simpa [hfound] using hy
      exact hbefore (List.mem_map_of_mem (List.mem_of_find?_eq_some hfound))
  · by_contra hne
    obtain ⟨hpy, before, after, hsplit, hbefore⟩ := List.find?_eq_some_iff_append.mp hy
    refine hnot ⟨before, y, after, hsplit, fun hmap => hne ?_, hpy, fun hmap => ?_⟩
    · obtain ⟨w, hw, heq⟩ := List.mem_map.mp hmap
      obtain rfl := List.inj_on_of_nodup_map hnodup (h.subset hw) hin heq
      have hfound := find?_of_sublist h (hnodup.of_map f) hy hw
      exact congrArg f (Option.some.inj (hfound.symm.trans hx))
    · obtain ⟨w, hw, heq⟩ := List.mem_map.mp hmap
      have hwin : w ∈ xs' := hsplit ▸ List.mem_append_left _ hw
      obtain rfl := List.inj_on_of_nodup_map hnodup hwin hmem heq
      have hnone := hbefore w hw
      rw [hp] at hnone
      cases hnone

end Lists

/-! ## The entries of a document -/

/-- What a pool notes of a node, apart from its schema. -/
structure Listing where
  place : Place
  scope : Url
  addresses : List String

/-- What a pool notes of the node of an entry. -/
def Entry.listing (entry : Entry) : Listing := ⟨entry.node.place, entry.scope, entry.addresses⟩

namespace ObjectSchema

/-- Lists in which one schema changes have that schema in one place. -/
theorem Replaced.split {σ : Type} {S : List String → σ → σ → Prop} {route : List String}
    {parts parts' : List (List String × σ)} (h : Replaced S route parts parts') :
    ∃ before after segments rest s s', S rest s s' ∧ route = segments ++ rest ∧
      parts = before ++ (segments, s) :: after ∧ parts' = before ++ (segments, s') :: after := by
  cases h with
  | intro before after segments h => exact ⟨before, after, segments, _, _, _, h, rfl, rfl, rfl⟩

end ObjectSchema

namespace Schema

variable {s s' : Schema} {route : List String}

/-- The entries of a schema that has grown are the same, with more of them in one place. Those stand where
the schema has grown. -/
theorem Grown.entriesBy (h : s.Grown route s') (scope? : Joining) (document : Url) (place : Place)
    (around : Resource) :
    Inserted (fun listing => place.pointer.segments ++ route <+: listing.place.pointer.segments)
      ((s.entriesBy scope? document place around).map Entry.listing)
      ((s'.entriesBy scope? document place around).map Entry.listing) := by
  induction s using induction_on_children generalizing s' route place around with
  | boolean value => cases h
  | object o ih =>
    cases h with
    | @object _ _ o' h =>
      -- The entry of the schema itself, and what is in effect inside it, depend on the identifier only.
      have hobject (hid : o'.id = o.id) :
          (Entry.of ⟨place, .object o'⟩ document around scope?).listing =
              (Entry.of ⟨place, .object o⟩ document around scope?).listing ∧
            Node.inside ⟨place, .object o'⟩ around scope? = Node.inside ⟨place, .object o⟩ around scope? := by
        simp only [Entry.listing, Entry.of, Node.addresses, Node.inside, Schema.id?, object?,
          Option.bind_some, hid, and_self]
      rw [entriesBy_object, entriesBy_object]
      cases h with
      | same => exact inserted_self _ _
      | added hid before after segments c h h' =>
        obtain ⟨hentry, hinside⟩ := hobject hid
        rw [h, h', hinside, List.map_cons, List.map_cons, hentry]
        simp only [List.flatMap_append, List.flatMap_cons, List.map_append]
        refine ⟨_ :: _, _, _, rfl, rfl, fun listing hlisting => ?_⟩
        obtain ⟨entry, hentry, rfl⟩ := List.mem_map.mp hlisting
        obtain ⟨way, hway⟩ := exists_way_of_mem_entriesBy hentry
        exact ⟨way, (congrArg Pointer.segments hway).symm⟩
      | below hid h =>
        obtain ⟨hentry, hinside⟩ := hobject hid
        obtain ⟨before, after, segments, rest, c, c', hc, rfl, hchildren, hchildren'⟩ := h.split
        have hmem : (segments, c) ∈ o.children :=
          hchildren ▸ List.mem_append_right _ List.mem_cons_self
        have hbelow := ih _ hmem hc ⟨place.document, place.pointer ++ ⟨segments⟩⟩
          ((Node.inside ⟨place, .object o⟩ around scope?).descend segments)
        rw [hchildren, hchildren', hinside, List.map_cons, List.map_cons, hentry]
        simp only [List.flatMap_append, List.flatMap_cons, List.map_append]
        refine hbelow.append (fun listing hlisting => ?_) (_ :: _) _
        rw [← List.append_assoc]
        exact hlisting

end Schema

namespace Pool

/-- Whether no node of a pool stands at a place. -/
def Lacks (pool : Pool) (place : Place) : Prop := ∀ entry ∈ pool.entries, entry.node.place ≠ place

instance (pool : Pool) (place : Place) : Decidable (pool.Lacks place) :=
  inferInstanceAs (Decidable (∀ entry ∈ pool.entries, entry.node.place ≠ place))

instance (pool : Pool) : Decidable pool.Unambiguous :=
  inferInstanceAs (Decidable (∀ entry ∈ pool.entries, ∀ entry' ∈ pool.entries,
    ∀ address ∈ entry.addresses, address ∈ entry'.addresses → entry.node.place = entry'.node.place))

/-- Whether a node that only the second pool has takes an address from a node that both have: it claims the
address, and the other node does not stand before it. -/
def Captures (pool pool' : Pool) (address : String) (place : Place) : Prop :=
  ∃ before entry after, pool'.entries = before ++ entry :: after ∧ pool.Lacks entry.node.place ∧
    address ∈ entry.addresses ∧ ∀ earlier ∈ before, earlier.node.place ≠ place

variable {P : Listing → Prop} {pool pool' : Pool}

/-- The entry for an address is the first one that lists it. -/
theorem entry?_map_listing (pool : Pool) (address : String) : (pool.entry? address).map Entry.listing =
    (pool.entries.map Entry.listing).find? fun listing => listing.addresses.contains address := by
  rw [List.find?_map]
  rfl

/-- A place is lacking when it is not listed. -/
theorem lacks_iff {place : Place} : pool.Lacks place ↔
    place ∉ (pool.entries.map Entry.listing).map Listing.place := by
  rw [List.map_map, List.mem_map, not_exists]
  exact forall_congr' fun entry => not_and.symm

/-- A reference leads to the entry that has the address it is joined to. -/
theorem resolve_eq_ok_iff {reference : String} {scope : Url} {entry : Entry} :
    pool.resolve reference scope = .ok entry ↔
      ∃ target, scope.join? reference = .ok target ∧ pool.entry? (Address.ofUrl target) = some entry := by
  rw [resolve]
  cases scope.join? reference with
  | error reason => simp
  | ok target =>
    simp only [Except.ok.injEq, exists_eq_left']
    cases pool.entry? (Address.ofUrl target) with
    | none => simp
    | some found => rw [Except.ok.injEq, Option.some.injEq]

/-- A node that is put in is as it should be. -/
theorem of_lacks (h : Inserted P (pool.entries.map Entry.listing) (pool'.entries.map Entry.listing))
    {entry : Entry} (hentry : entry ∈ pool'.entries) (hlacks : pool.Lacks entry.node.place) :
    P entry.listing := by
  refine (h.of_mem (List.mem_map_of_mem hentry)).resolve_left fun hold => ?_
  obtain ⟨kept, hkept, hlisting⟩ := List.mem_map.mp hold
  exact hlacks kept hkept (congrArg Listing.place hlisting)

/-- Where nodes are put in, those that were there are noted as before. -/
theorem exists_of_not_lacks
    (h : Inserted P (pool.entries.map Entry.listing) (pool'.entries.map Entry.listing))
    (hnodup : (pool'.entries.map fun entry => entry.node.place).Nodup) {entry' : Entry}
    (hentry' : entry' ∈ pool'.entries) (hold : ¬ pool.Lacks entry'.node.place) :
    ∃ entry ∈ pool.entries, entry.listing = entry'.listing := by
  simp only [Lacks, not_forall, not_not] at hold
  obtain ⟨entry, hentry, hplace⟩ := hold
  obtain ⟨kept, hkept, hlisting⟩ := List.mem_map.mp (h.sublist.subset (List.mem_map_of_mem hentry))
  have hsame : kept.node.place = entry'.node.place :=
    (congrArg Listing.place hlisting).trans hplace
  obtain rfl := List.inj_on_of_nodup_map hnodup hkept hentry' hsame
  exact ⟨entry, hentry, hlisting.symm⟩

/-- Where nodes are put in, an address keeps its node unless one of them takes it. -/
theorem entry?_of_inserted
    (h : Inserted P (pool.entries.map Entry.listing) (pool'.entries.map Entry.listing))
    (hnodup : (pool'.entries.map fun entry => entry.node.place).Nodup) {address : String} {entry : Entry}
    (hentry : pool.entry? address = some entry) :
    ∃ entry', pool'.entry? address = some entry' ∧
      (entry'.node.place = entry.node.place → entry'.listing = entry.listing) ∧
        (entry'.node.place = entry.node.place ↔ ¬ pool.Captures pool' address entry.node.place) := by
  have hplaces : ((pool'.entries.map Entry.listing).map Listing.place).Nodup := by
    rw [List.map_map]
    exact hnodup
  have hfound := (entry?_map_listing pool address).symm.trans (congrArg (Option.map Entry.listing) hentry)
  obtain ⟨listing, hlisting, hsame, hiff⟩ := exists_find?_of_sublist h.sublist hplaces hfound
  rw [← entry?_map_listing, Option.map_eq_some_iff] at hlisting
  obtain ⟨entry', hentry', rfl⟩ := hlisting
  refine ⟨entry', hentry', hsame, hiff.trans (not_congr ⟨?_, ?_⟩)⟩
  · rintro ⟨before, listing, after, hsplit, hplace, haddress, hbefore⟩
    obtain ⟨before, rest, hentries, rfl, hrest⟩ := List.map_eq_append_iff.mp hsplit
    obtain ⟨found, after, rfl, rfl, rfl⟩ := List.map_eq_cons_iff.mp hrest
    refine ⟨before, found, after, hentries, lacks_iff.mpr hplace, List.contains_iff_mem.mp haddress,
      fun earlier hearlier heq => hbefore ?_⟩
    rw [List.map_map]
    exact List.mem_map.mpr ⟨earlier, hearlier, heq⟩
  · rintro ⟨before, found, after, hsplit, hlacks, haddress, hbefore⟩
    refine ⟨before.map Entry.listing, found.listing, after.map Entry.listing, ?_, lacks_iff.mp hlacks,
      List.contains_iff_mem.mpr haddress, ?_⟩
    · rw [hsplit, List.map_append, List.map_cons]
    · rw [List.map_map, List.mem_map]
      rintro ⟨earlier, hearlier, heq⟩
      exact hbefore earlier hearlier heq

end Pool

/-! ## Where addresses come from -/

namespace Schema

variable {root : Schema} {document : DocumentName} {base : Url} {node : Node} {around : Resource}

/-- Whether a node is the root of a resource with a base, and another node stands some way below it. The
root of the document is one of these nodes, and all others have identifiers. -/
def Homes (root : Schema) (document : DocumentName) (base : Url) (node : Node) (r : Resource) : Prop :=
  ∃ home around, root.Stands document base home around ∧
    Address.ofPointer r.base Pointer.root ∈ home.addresses base around ∧
      node.place.pointer = home.place.pointer ++ r.pointer ∧
        (home.place.pointer = Pointer.root ∨ home.schema.id? ≠ none)

/-- The root of a document is the root of the resource that the base names. -/
theorem homes_document (root : Schema) (document : DocumentName) (base : Url) (node : Node) :
    root.Homes document base node ⟨base, node.place.pointer⟩ :=
  ⟨Node.root document root, _, .root,
    List.mem_append_right _ (List.mem_cons_of_mem _ List.mem_cons_self), rfl, .inl rfl⟩

/-- What is in effect inside a node leads to the root of its resource, when what is around it does. -/
theorem Stands.homes_inside (h : root.Stands document base node around)
    (hhomes : root.Homes document base node around) :
    root.Homes document base node (node.inside around) := by
  by_cases hbegins : node.schema.Begins around
  · have hpointer := Node.inside_of_begins hbegins
    obtain ⟨id, _, hid, _, _⟩ := hbegins
    refine ⟨node, around, h, ?_, ?_, .inr fun hnone => ?_⟩
    · have haddress : (node.inside around).address ∈ node.addresses base around :=
        List.mem_append_right _ List.mem_cons_self
      rw [Resource.address, hpointer] at haddress
      exact haddress
    · rw [hpointer]
      exact congrArg Pointer.mk (List.append_nil _).symm
    · rw [hid] at hnone
      cases hnone
  · rw [Node.inside_of_not_begins hbegins]
    exact hhomes

/-- What is in effect around a node leads to the root of its resource. -/
theorem Stands.homes (h : root.Stands document base node around) :
    root.Homes document base node around := by
  induction h with
  | root => exact root.homes_document document base _
  | @child node around h segments schema hchild ih =>
    obtain ⟨home, homeAround, hhome, haddress, hpointer, hid⟩ := h.homes_inside ih
    refine ⟨home, homeAround, hhome, haddress, ?_, hid⟩
    change node.place.pointer ++ ⟨segments⟩ = _
    rw [hpointer]
    exact congrArg Pointer.mk (List.append_assoc _ _ _)

/-- An address that a node claims is that of its plain name, or names its way from the root of a
resource. -/
theorem Stands.anchor_or_homes (h : root.Stands document base node around) (hbase : base.SignFree)
    {address : String} (haddress : address ∈ node.addresses base around) :
    around.anchor? node.schema.id? = some address ∨
      ∃ r : Resource, r.base.SignFree ∧ address = Address.ofPointer r.base r.pointer ∧
        root.Homes document base node r := by
  rw [Node.addresses, List.mem_append, Option.mem_toList, List.mem_pair] at haddress
  rcases haddress with hanchor | hplace | hdocument
  · exact .inl hanchor
  · exact .inr ⟨node.inside around, Resource.signFree_enter (h.signFree hbase) _, hplace,
      h.homes_inside h.homes⟩
  · exact .inr ⟨⟨base, node.place.pointer⟩, hbase, hdocument, root.homes_document document base node⟩

variable {root' : Schema} {P : Listing → Prop}

/-- The entries of the pool of one document are those of the nodes that stand in it. -/
theorem mem_entries_addAt_iff {entry : Entry} : entry ∈ (Pool.empty.addAt document root base).entries ↔
    ∃ node around, root.Stands document base node around ∧ entry = Entry.of node base around := by
  rw [← mem_entries_iff]
  exact Iff.rfl

section Inserted

variable (h : Inserted P ((Pool.empty.addAt document root base).entries.map Entry.listing)
    ((Pool.empty.addAt document root' base).entries.map Entry.listing))
  (hnodup : ((Pool.empty.addAt document root' base).entries.map fun entry => entry.node.place).Nodup)
  (hids : ∀ entry ∈ (Pool.empty.addAt document root' base).entries,
    (Pool.empty.addAt document root base).Lacks entry.node.place → entry.node.schema.id? = none)

include h hnodup hids

/-- Where nodes without identifiers are put in, the root of each resource was there before: it is the root
of the document, or has an identifier. -/
theorem Homes.exists_entry {r : Resource} (hhomes : root'.Homes document base node r) :
    ∃ entry ∈ (Pool.empty.addAt document root base).entries,
      Address.ofPointer r.base Pointer.root ∈ entry.addresses ∧
        node.place.pointer = entry.node.place.pointer ++ r.pointer := by
  obtain ⟨home, around, hstands, hroot, hway, hhomeId⟩ := hhomes
  have hhome := mem_entries_addAt_iff.mpr ⟨home, around, hstands, rfl⟩
  have hold : ¬ (Pool.empty.addAt document root base).Lacks home.place := by
    intro hlacks
    rcases hhomeId with hpointer | hhomeId
    · refine hlacks _ (mem_entries_addAt_iff.mpr ⟨_, _, .root, rfl⟩) ?_
      have hdocument : home.place.document = document := document_of_mem_entriesBy hhome
      exact congrArg₂ Place.mk hdocument.symm hpointer.symm
    · exact hhomeId (hids _ hhome hlacks)
  obtain ⟨entry, hentry, hlisting⟩ := Pool.exists_of_not_lacks h hnodup hhome hold
  have haddresses : entry.addresses = home.addresses base around := congrArg Listing.addresses hlisting
  have hplace : entry.node.place = home.place := congrArg Listing.place hlisting
  exact ⟨entry, hentry, haddresses ▸ hroot, by rw [hplace, hway]⟩

/-- Nodes without identifiers that are put into a document where no address is claimed by two nodes claim
no address of the nodes that were there. -/
theorem not_mem_addresses_of_inserted (hbase : base.SignFree)
    (hunambiguous : (Pool.empty.addAt document root base).Unambiguous) {entry found : Entry}
    (hentry : entry ∈ (Pool.empty.addAt document root base).entries)
    (hfound : found ∈ (Pool.empty.addAt document root' base).entries)
    (hlacks : (Pool.empty.addAt document root base).Lacks found.node.place) {address : String}
    (haddress : address ∈ entry.addresses) : address ∉ found.addresses := by
  intro hclaimed
  have hid := hids found hfound hlacks
  have hdocument : entry.node.place.document = found.node.place.document :=
    (document_of_mem_entriesBy hentry).trans (document_of_mem_entriesBy hfound).symm
  obtain ⟨node, around, hstands, rfl⟩ := mem_entries_addAt_iff.mp hentry
  obtain ⟨node', around', hstands', rfl⟩ := mem_entries_addAt_iff.mp hfound
  -- The new node has no plain name, so the address names its way from the root of a resource.
  have hclaims := hstands'.anchor_or_homes hbase hclaimed
  rw [show node'.schema.id? = none from hid] at hclaims
  obtain hanchor | ⟨r', hsign', rfl, hhomes'⟩ := hclaims
  · cases hanchor
  obtain ⟨homeEntry, hhomeEntry, hhomeClaims, hway'⟩ := hhomes'.exists_entry h hnodup hids
  -- The old node names its own way to the address, from the root of the same resource.
  rcases hstands.anchor_or_homes hbase haddress with
    hanchor | ⟨r, hsign, haddress, home, homeAround, hstandsHome, hroot, hway, -⟩
  · exact Resource.anchor?_ne_ofPointer (hstands.signFree hbase) hanchor hsign' r'.pointer rfl
  · obtain ⟨hbases, hpointers⟩ := (Address.ofPointer_inj hsign' hsign).mp haddress
    rw [(Address.ofPointer_inj hsign' hsign).mpr ⟨hbases, rfl⟩] at hhomeClaims
    have hhomes : homeEntry.node.place = home.place := hunambiguous _ hhomeEntry _
      (mem_entries_addAt_iff.mpr ⟨home, homeAround, hstandsHome, rfl⟩) _ hhomeClaims hroot
    have hpointer : node.place.pointer = node'.place.pointer := by
      rw [hway, hway', hpointers, hhomes]
    exact hlacks _ hentry (congrArg₂ Place.mk hdocument hpointer)

end Inserted

/-- A document with one more unknown keyword is still read, and a reference that led somewhere still does.
It leads to the same place unless a schema in the value of the keyword takes its address: one that claims
the address, where the schema that had it does not come before. None does when the schemas in the value have
no identifiers and no address was claimed by two nodes. -/
theorem references_of_gains {limits : Limits} {route : List String} {value value' : Json} {s : Schema}
    (h : Json.Gains route value value') (hnames : value'.distinctNames = true)
    (hread : decode limits value = .ok s) (document : DocumentName) (base : Url) :
    ∃ s', decode limits value' = .ok s' ∧
      let pool := Pool.empty.addAt document s base
      let pool' := Pool.empty.addAt document s' base
      (∀ entry ∈ pool'.entries, pool.Lacks entry.node.place →
        route <+: entry.node.place.pointer.segments) ∧
      (∀ reference scope entry, pool.resolve reference scope = .ok entry →
        ∃ target entry', scope.join? reference = .ok target ∧ pool'.resolve reference scope = .ok entry' ∧
          (entry'.node.place = entry.node.place ↔
            ¬ pool.Captures pool' (Address.ofUrl target) entry.node.place)) ∧
      (base.SignFree → pool.Unambiguous →
        (∀ entry ∈ pool'.entries, pool.Lacks entry.node.place → entry.node.schema.id? = none) →
          ∀ reference scope entry, pool.resolve reference scope = .ok entry →
            ∃ entry', pool'.resolve reference scope = .ok entry' ∧
              entry'.node.place = entry.node.place ∧ entry'.scope = entry.scope) := by
  obtain ⟨s', hread', hgrown⟩ := decodeWithin_gains h hnames s hread
  refine ⟨s', hread', ?_⟩
  intro pool pool'
  have hinserted : Inserted (fun listing : Listing => route <+: listing.place.pointer.segments)
      (pool.entries.map Entry.listing) (pool'.entries.map Entry.listing) :=
    hgrown.entriesBy Url.scope? base ⟨document, Pointer.root⟩ ⟨base, Pointer.root⟩
  have honce : AddedOnce [⟨document, s', base⟩] := ⟨List.nodup_singleton _,
    List.forall_mem_singleton.mpr (separate_of_decode hread' hnames)⟩
  have hnodup : (pool'.entries.map fun entry => entry.node.place).Nodup := honce.nodup_places
  refine ⟨fun entry => Pool.of_lacks hinserted, ?_, ?_⟩
  · intro reference scope entry hentry
    obtain ⟨target, htarget, hfound⟩ := Pool.resolve_eq_ok_iff.mp hentry
    obtain ⟨entry', hfound', -, hiff⟩ := Pool.entry?_of_inserted hinserted hnodup hfound
    exact ⟨target, entry', htarget, Pool.resolve_eq_ok_iff.mpr ⟨target, htarget, hfound'⟩, hiff⟩
  · intro hbase hunambiguous hids reference scope entry hentry
    obtain ⟨target, htarget, hfound⟩ := Pool.resolve_eq_ok_iff.mp hentry
    obtain ⟨entry', hfound', hsame, hiff⟩ := Pool.entry?_of_inserted hinserted hnodup hfound
    obtain ⟨hmem, haddress⟩ := Pool.claimed_of_found hfound
    have hplace : entry'.node.place = entry.node.place := by
      refine hiff.mpr ?_
      rintro ⟨before, found, after, hsplit, hlacks, hclaimed, -⟩
      have hin : found ∈ pool'.entries := hsplit ▸ List.mem_append_right _ List.mem_cons_self
      exact not_mem_addresses_of_inserted hinserted hnodup hids hbase hunambiguous hmem hin hlacks
        haddress hclaimed
    exact ⟨entry', Pool.resolve_eq_ok_iff.mpr ⟨target, htarget, hfound'⟩, hplace,
      congrArg Listing.scope (hsame hplace)⟩

/-- A document with two definitions, of which the second one has a plain name and the first one has some
members. -/
def namedBehind (members : List (String × Json)) : Json :=
  .object [("definitions", .object [
    ("first", .object members), ("second", .object [("$id", .string "#part")])])]

/-- The first definition has one more unknown keyword. -/
theorem gains_namedBehind (value : Json) :
    Json.Gains ["definitions", "first", "note"] (namedBehind []) (namedBehind [("note", value)]) :=
  .keyword [] [] (k := .definitions)
    (.named [] [("second", .object [("$id", .string "#part")])] "first"
      (.here [] [] value (by decide) (by decide)))

/-- A schema without identifier under an unknown keyword does not take the plain name of a definition. -/
theorem references_of_gains_note :
    let value' := namedBehind [("note", .object [("not", .object [])])]
    Json.Gains ["definitions", "first", "note"] (namedBehind []) value' ∧ value'.distinctNames = true ∧
      ∃ s s', decode Limits.default (namedBehind []) = .ok s ∧ decode Limits.default value' = .ok s' ∧
        ∃ entry entry',
          (Pool.empty.addAt .main s Url.implicitBase).resolve "#part" Url.implicitBase = .ok entry ∧
          (Pool.empty.addAt .main s' Url.implicitBase).resolve "#part" Url.implicitBase = .ok entry' ∧
            entry.node.place.pointer = ⟨["definitions", "second"]⟩ ∧
              entry'.node.place = entry.node.place := by
  intro value'
  have hgains := gains_namedBehind (.object [("not", .object [])])
  have hnames : value'.distinctNames = true := by decide
  let second : Schema := .object { id := some "#part" }
  let s : Schema := .object { definitions := some [("first", .object {}), ("second", second)] }
  let grown : Schema := .object { definitions := some [
    ("first", .object { extra := [("note", .object { not := some (.object {}) })] }), ("second", second)] }
  have hread : decode Limits.default (namedBehind []) = .ok s := rfl
  have hgrown : decode Limits.default value' = .ok grown := rfl
  obtain ⟨s', hread', -, -, hkept⟩ := references_of_gains hgains hnames hread .main Url.implicitBase
  obtain rfl : s' = grown := Except.ok.inj (hread'.symm.trans hgrown)
  have hunambiguous : (Pool.empty.addAt .main s Url.implicitBase).Unambiguous := by decide
  have hids : ∀ entry ∈ (Pool.empty.addAt .main grown Url.implicitBase).entries,
      (Pool.empty.addAt .main s Url.implicitBase).Lacks entry.node.place →
        entry.node.schema.id? = none := by decide
  have hpointer : ((Pool.empty.addAt .main s Url.implicitBase).resolve "#part"
      Url.implicitBase).toOption.map (fun entry => entry.node.place.pointer) =
        some ⟨["definitions", "second"]⟩ := by decide
  cases hresolve : (Pool.empty.addAt .main s Url.implicitBase).resolve "#part" Url.implicitBase with
  | error reason =>
    rw [hresolve] at hpointer
    cases hpointer
  | ok entry =>
    rw [hresolve] at hpointer
    obtain ⟨entry', hresolve', hplace, -⟩ :=
      hkept Url.signFree_implicitBase hunambiguous hids "#part" Url.implicitBase entry hresolve
    exact ⟨hgains, hnames, s, grown, hread, hgrown, entry, entry', hresolve, hresolve',
      Option.some.inj hpointer, hplace⟩

/-- A schema under an unknown keyword takes the plain name of a definition behind it. -/
theorem reference_captured :
    let value' := namedBehind [("note", .object [("$id", .string "#part")])]
    Json.Gains ["definitions", "first", "note"] (namedBehind []) value' ∧ value'.distinctNames = true ∧
      ∃ s s', decode Limits.default (namedBehind []) = .ok s ∧ decode Limits.default value' = .ok s' ∧
        ((Pool.empty.addAt .main s Url.implicitBase).resolve "#part" Url.implicitBase).toOption.map
            (fun entry => entry.node.place.pointer) = some ⟨["definitions", "second"]⟩ ∧
          ((Pool.empty.addAt .main s' Url.implicitBase).resolve "#part" Url.implicitBase).toOption.map
            (fun entry => entry.node.place.pointer) = some ⟨["definitions", "first", "note"]⟩ := by
  intro value'
  refine ⟨gains_namedBehind _, by decide, _, _, rfl, rfl, ?_, ?_⟩ <;> decide

end Schema

end Draft6
