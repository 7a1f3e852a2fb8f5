import Draft6.Proofs.KeywordSources
import Draft6.Proofs.Rearranging

/-!
# Reading documents whose members stand in another order

A reader of one value does the same for a value that differs in the order of members: it succeeds as well
and gives a result that answers to the first one. For schema objects this rests on a form of the result
that names no order. Each keyword takes what was read from its member, if there is one, and the unknown
keywords are those members whose values are schemas. An older identifier is looked up by its name.
-/

namespace Draft6

namespace Decoded

variable {α β γ δ : Type} {R : α → β → Prop} {S : γ → δ → Prop}

/-- Whether a success comes with an answering success on the other side. -/
def Follows (R : α → β → Prop) (result : Decoded α) (result' : Decoded β) : Prop :=
  ∀ a, result = .ok a → ∃ b, result' = .ok b ∧ R a b

/-- Two steps follow when the second ones do after answering first ones. -/
theorem Follows.bind {result : Decoded α} {result' : Decoded β} (h : Follows R result result')
    {next : α → Decoded γ} {next' : β → Decoded δ}
    (hnext : ∀ a b, R a b → Follows S (next a) (next' b)) :
    Follows S (result >>= next) (result' >>= next') := by
  intro c hc
  obtain ⟨a, ha, hc⟩ := bind_eq_ok.mp hc
  obtain ⟨b, hb, hab⟩ := h a ha
  obtain ⟨d, hd, hcd⟩ := hnext a b hab c hc
  exact ⟨d, bind_eq_ok.mpr ⟨b, hb, hd⟩, hcd⟩

/-- Results follow when they answer to each other. -/
theorem follows_ok {a : α} {b : β} (h : R a b) : Follows R (.ok a) (.ok b) :=
  fun _ ha => ⟨b, rfl, Except.ok.inj ha ▸ h⟩

/-- What is made of results that follow answers to each other. -/
theorem Follows.bind_pure {result : Decoded α} {result' : Decoded β} (h : Follows R result result')
    {f : α → γ} {g : β → δ} (hfg : ∀ a b, R a b → S (f a) (g b)) :
    Follows S (result >>= fun a => pure (f a)) (result' >>= fun b => pure (g b)) :=
  h.bind fun a b hab => follows_ok (hfg a b hab)

/-- What is made of results that follow answers to each other. -/
theorem Follows.map {result : Decoded α} {result' : Decoded β} (h : Follows R result result')
    {f : α → γ} {g : β → δ} (hfg : ∀ a b, R a b → S (f a) (g b)) :
    Follows S (f <$> result) (g <$> result') := by
  rw [← bind_pure_comp, ← bind_pure_comp]
  exact h.bind_pure hfg

/-- The places of parts do not count. -/
theorem Follows.below {result : Decoded α} {result' : Decoded β} (h : Follows R result result')
    (segment segment' : String) :
    Follows R (below segment result) (below segment' result') := by
  intro a ha
  obtain ⟨b, hb, hab⟩ := h a (below_eq_ok.mp ha)
  exact ⟨b, below_eq_ok.mpr hb, hab⟩

end Decoded

open Decoded (Follows follows_ok)

/-- Whether values that differ in the order of members are read as results that answer to each other. -/
def ReadsAlike {α : Type} (R : α → α → Prop) (read : Json → Decoded α) : Prop :=
  ∀ {value value' : Json}, value.DistinctReordered value' → Follows R (read value) (read value')

/-- Results that answer to each other in one sense do so in a wider one. -/
theorem ReadsAlike.mono {α : Type} {R S : α → α → Prop} {read : Json → Decoded α}
    (h : ReadsAlike R read) (hRS : ∀ a b, R a b → S a b) : ReadsAlike S read := by
  intro value value' hvalues a ha
  obtain ⟨b, hb, hab⟩ := h hvalues a ha
  exact ⟨b, hb, hRS a b hab⟩

namespace Json

variable {κ α : Type} {R : α → α → Prop} {item : Json → Decoded α}

/-- Values that differ in the order of members are both read or both not. -/
theorem rel_toOption (h : ReadsAlike R item) {value value' : Json}
    (hvalues : value.DistinctReordered value') :
    Option.Rel R (item value).toOption (item value').toOption := by
  cases hread : item value with
  | ok a =>
    obtain ⟨b, hb, hab⟩ := h hvalues a hread
    rw [hb]
    exact .some hab
  | error e =>
    cases hread' : item value' with
    | error e' => exact .none
    | ok b =>
      obtain ⟨a, ha, _⟩ := h hvalues.symm b hread'
      rw [hread] at ha
      cases ha

/-! ## Readers of values -/

/-- A reader that refuses arrays and objects reads the same. -/
theorem readsAlike_of_scalar (harray : ∀ items, ∃ e, item (.array items) = .error e)
    (hobject : ∀ members, ∃ e, item (.object members) = .error e) : ReadsAlike Eq item := by
  intro value value' h a ha
  cases h.matches with
  | scalar => exact ⟨a, ha, rfl⟩
  | @array items _ =>
    obtain ⟨e, he⟩ := harray items
    cases he.symm.trans ha
  | @object members _ =>
    obtain ⟨e, he⟩ := hobject members
    cases he.symm.trans ha

/-- Strings are read as they are. -/
theorem readsAlike_asString : ReadsAlike Eq asString :=
  readsAlike_of_scalar (fun _ => ⟨_, rfl⟩) fun _ => ⟨_, rfl⟩

/-- Booleans are read as they are. -/
theorem readsAlike_asBool : ReadsAlike Eq asBool :=
  readsAlike_of_scalar (fun _ => ⟨_, rfl⟩) fun _ => ⟨_, rfl⟩

/-- Numbers are read as they are. -/
theorem readsAlike_asNumber : ReadsAlike Eq asNumber :=
  readsAlike_of_scalar (fun _ => ⟨_, rfl⟩) fun _ => ⟨_, rfl⟩

/-- Sizes are read as they are. -/
theorem readsAlike_asSize : ReadsAlike Eq asSize :=
  readsAlike_of_scalar (fun _ => ⟨_, rfl⟩) fun _ => ⟨_, rfl⟩

/-- Divisors are read as they are. -/
theorem readsAlike_asDivisor : ReadsAlike Eq asDivisor :=
  readsAlike_of_scalar (fun _ => ⟨_, rfl⟩) fun _ => ⟨_, rfl⟩

/-- Regular expressions are read as they are. -/
theorem readsAlike_asPattern : ReadsAlike Eq fun value => value.asString >>= Pattern.decode := by
  intro value value' h
  refine (readsAlike_asString h).bind fun source source' hsource p hp => ?_
  exact ⟨p, hsource ▸ hp, rfl⟩

/-- Names of types are read as they are. -/
theorem readsAlike_asType : ReadsAlike Eq asType :=
  readsAlike_of_scalar (fun _ => ⟨_, rfl⟩) fun _ => ⟨_, rfl⟩

/-- The elements of arrays differ in the order of members. -/
theorem readsAlike_asArray : ReadsAlike (List.Forall₂ DistinctReordered) asArray := by
  intro value value' h
  cases h.matches with
  | scalar harray =>
    cases value with
    | array items => exact absurd rfl (harray items)
    | null | bool | number | string | object => exact nofun
  | array hitems => exact follows_ok hitems
  | object => exact nofun

/-- The members of objects differ in their order and in that of their own members. -/
theorem readsAlike_asObject : ReadsAlike (fun members members' => (members.map Prod.fst).Nodup ∧
    Alike true (Paired DistinctReordered) members members') asObject := by
  intro value value' h
  have hvalue := h.1
  cases h.matches with
  | scalar _ hobject =>
    cases value with
    | object members => exact absurd rfl (hobject members)
    | null | bool | number | string | array => exact nofun
  | array => exact nofun
  | object hmembers => exact follows_ok ⟨(distinctNames_object.mp hvalue).1, hmembers⟩

/-- Lists are read alike when their elements are. -/
theorem readsAlike_asList (h : ReadsAlike R item) : ReadsAlike (List.Forall₂ R) (asList item) := by
  intro value value' hvalues
  refine (readsAlike_asArray hvalues).bind fun items items' hitems => ?_
  generalize 0 = start
  induction hitems generalizing start with
  | nil => exact follows_ok .nil
  | cons hfirst _ ih =>
    exact ((h hfirst).below _ _).bind fun _ _ hread =>
      (ih (start + 1)).bind fun _ _ hrest => follows_ok (.cons hread hrest)

/-- Rules for types are read as they are. -/
theorem readsAlike_asTypeRule : ReadsAlike Eq asTypeRule := by
  intro value value' h
  cases h.matches with
  | scalar => exact fun rule hrule => ⟨rule, hrule, rfl⟩
  | object => exact fun _ hrule => by cases hrule
  | @array items items' hitems =>
    cases hitems with
    | nil => exact fun rule hrule => ⟨rule, hrule, rfl⟩
    | cons hfirst hrest =>
      refine (readsAlike_asList readsAlike_asType h).map fun types types' htypes => ?_
      rw [List.forall₂_eq_eq_eq] at htypes
      exact congrArg TypeRule.ofList htypes

/-- Members are read in their order, each with its name. -/
theorem readMembers_eq_ok_iff {name : String → Decoded κ} {members : List (String × Json)}
    {entries : List (κ × α)} : readMembers name item members = .ok entries ↔
      List.Forall₂ (fun member entry => name member.1 = .ok entry.1 ∧ item member.2 = .ok entry.2)
        members entries := by
  induction members generalizing entries with
  | nil => rw [readMembers, List.forall₂_nil_left_iff, Except.ok.injEq, eq_comm]
  | cons member rest ih =>
    rw [List.forall₂_cons_left_iff]
    constructor
    · intro h
      obtain ⟨entry, hentry, h⟩ := bind_eq_ok.mp h
      obtain ⟨others, hothers, h⟩ := bind_eq_ok.mp h
      cases h
      obtain ⟨k, hk, hentry⟩ := bind_eq_ok.mp (Decoded.below_eq_ok.mp hentry)
      obtain ⟨x, hx, hentry⟩ := bind_eq_ok.mp hentry
      cases hentry
      exact ⟨(k, x), others, ⟨hk, hx⟩, ih.mp hothers, rfl⟩
    · rintro ⟨entry, others, ⟨hk, hx⟩, hothers, rfl⟩
      refine bind_eq_ok.mpr ⟨entry, Decoded.below_eq_ok.mpr ?_,
        bind_eq_ok.mpr ⟨others, ih.mpr hothers, rfl⟩⟩
      exact bind_eq_ok.mpr ⟨entry.1, hk, bind_eq_ok.mpr ⟨entry.2, hx, rfl⟩⟩

/-- Members in the same order are read alike when their values are. -/
theorem readMembers_forall₂ (name : String → Decoded κ) (h : ReadsAlike R item)
    {members members' : List (String × Json)}
    (hmembers : List.Forall₂ (Paired DistinctReordered) members members') :
    Follows (List.Forall₂ (Paired R)) (readMembers name item members)
      (readMembers name item members') := by
  induction hmembers with
  | nil => exact follows_ok .nil
  | @cons member member' _ _ hfirst _ ih =>
    have hentry : Follows (Paired R) (do pure (← name member.1, ← item member.2))
        (do pure (← name member'.1, ← item member'.2)) := by
      rw [← hfirst.1]
      refine Follows.bind (fun k hk => ⟨k, hk, rfl⟩) fun k k' hk => ?_
      exact (h hfirst.2).bind_pure fun _ _ hab => ⟨hk, hab⟩
    exact (hentry.below _ _).bind fun _ _ hfirst => ih.bind fun _ _ hrest =>
      follows_ok (.cons hfirst hrest)

/-- Members in another order are read in that order. -/
theorem readMembers_perm (name : String → Decoded κ) (item : Json → Decoded α)
    {members members' : List (String × Json)} (h : members.Perm members') :
    Follows List.Perm (readMembers name item members) (readMembers name item members') := by
  intro entries hread
  rw [readMembers_eq_ok_iff] at hread
  obtain ⟨entries', hread', hperm⟩ := List.perm_comp_forall₂ h.symm hread
  exact ⟨entries', readMembers_eq_ok_iff.mpr hread', hperm.symm⟩

/-- Members are read alike when their values are. -/
theorem readMembers_follows (name : String → Decoded κ) (h : ReadsAlike R item)
    {members members' : List (String × Json)}
    (hmembers : Alike true (Paired DistinctReordered) members members') :
    Follows (Alike true (Paired R)) (readMembers name item members)
      (readMembers name item members') := by
  obtain ⟨others, hrelated, hshuffled⟩ := hmembers
  intro entries hread
  obtain ⟨middle, hmiddle, hentries⟩ := readMembers_forall₂ name h hrelated entries hread
  obtain ⟨entries', hread', hperm⟩ := readMembers_perm name item hshuffled middle hmiddle
  exact ⟨entries', hread', middle, hentries, hperm⟩

/-- Named values are read alike when the values are, and no name is repeated. -/
theorem readsAlike_asNamed (h : ReadsAlike R item) : ReadsAlike
    (fun entries entries' => (entries.map Prod.fst).Nodup ∧ Alike true (Paired R) entries entries')
    (asNamed item) := by
  intro value value' hvalues entries hread
  obtain ⟨hnames, _⟩ := of_asNamed hread hvalues.1
  obtain ⟨entries', hread', hentries⟩ := ((readsAlike_asObject hvalues).bind fun _ _ hmembers =>
    readMembers_follows pure h hmembers.2) entries hread
  exact ⟨entries', hread', hnames, hentries⟩

end Json

namespace ObjectSchema

variable {σ : Type} {R : σ → σ → Prop} {child : Json → Decoded σ}

/-- Schemas for elements are read alike when schemas are. -/
theorem readsAlike_decodeItems (h : ReadsAlike R child) :
    ReadsAlike (Items.Rel R) (decodeItems child) := by
  intro value value' hvalues
  have hlist := Json.readsAlike_asList h hvalues
  have hone := h hvalues
  cases hvalues.matches with
  | scalar harray =>
    cases value with
    | array items => exact absurd rfl (harray items)
    | null | bool | number | string | object => exact hone.map fun _ _ => .all
  | array => exact hlist.map fun _ _ => .each
  | object => exact hone.map fun _ _ => .all

/-- What members demand is read alike when schemas are. -/
theorem readsAlike_decodeDependency (h : ReadsAlike R child) :
    ReadsAlike (Dependency.Rel R) (decodeDependency child) := by
  intro value value' hvalues
  have hnames := Json.readsAlike_asList Json.readsAlike_asString hvalues
  have hone := h hvalues
  cases hvalues.matches with
  | scalar harray =>
    cases value with
    | array items => exact absurd rfl (harray items)
    | null | bool | number | string | object => exact hone.map fun _ _ => .schema
  | array =>
    refine hnames.map fun names names' hsame => ?_
    rw [List.forall₂_eq_eq_eq] at hsame
    exact hsame ▸ .names names
  | object => exact hone.map fun _ _ => .schema

/-- The values of a keyword are read alike when schemas are. -/
theorem readsAlike_decodeKeyword (h : ReadsAlike R child) (k : Keyword) :
    ReadsAlike (Rearranged R) (decodeKeyword child {} k) := by
  intro value value' hvalues
  cases k
  case dialect | title | description | format =>
    exact (Json.readsAlike_asString hvalues).bind_pure fun _ _ _ => { rearranged_empty with }
  case id =>
    exact (Json.readsAlike_asString hvalues).bind_pure fun _ _ hsame =>
      { rearranged_empty with id := congrArg some hsame }
  case ref =>
    exact (Json.readsAlike_asString hvalues).bind_pure fun _ _ hsame =>
      { rearranged_empty with ref := congrArg some hsame }
  case type =>
    exact (Json.readsAlike_asTypeRule hvalues).bind_pure fun _ _ hsame =>
      { rearranged_empty with type := hsame }
  case default => exact follows_ok { rearranged_empty with }
  case examples =>
    exact (Json.readsAlike_asArray hvalues).bind_pure fun _ _ _ => { rearranged_empty with }
  case enum =>
    exact (Json.readsAlike_asArray hvalues).bind_pure fun _ _ hitems =>
      { rearranged_empty with enum := .some (hitems.imp fun _ _ h => h.2) }
  case const => exact follows_ok { rearranged_empty with const := .some hvalues.2 }
  case multipleOf =>
    exact (Json.readsAlike_asDivisor hvalues).bind_pure fun _ _ hsame =>
      { rearranged_empty with numbers := by rw [hsame] }
  case maximum | exclusiveMaximum | minimum | exclusiveMinimum =>
    exact (Json.readsAlike_asNumber hvalues).bind_pure fun _ _ hsame =>
      { rearranged_empty with numbers := by rw [hsame] }
  case maxLength | minLength =>
    exact (Json.readsAlike_asSize hvalues).bind_pure fun _ _ hsame =>
      { rearranged_empty with strings := by rw [hsame] }
  case pattern =>
    simp only [decodeKeyword, ← bind_assoc]
    exact (Json.readsAlike_asPattern hvalues).bind_pure fun _ _ hsame =>
      { rearranged_empty with strings := by rw [hsame] }
  case maxItems | minItems =>
    exact (Json.readsAlike_asSize hvalues).bind_pure fun _ _ hsame =>
      { rearranged_empty with arrays := by rw [hsame] }
  case uniqueItems =>
    exact (Json.readsAlike_asBool hvalues).bind_pure fun _ _ hsame =>
      { rearranged_empty with arrays := by rw [hsame] }
  case required =>
    refine (Json.readsAlike_asList Json.readsAlike_asString hvalues).bind_pure fun _ _ hsame => ?_
    rw [List.forall₂_eq_eq_eq] at hsame
    exact { rearranged_empty with objects := by rw [hsame] }
  case maxProperties | minProperties =>
    exact (Json.readsAlike_asSize hvalues).bind_pure fun _ _ hsame =>
      { rearranged_empty with objects := by rw [hsame] }
  case items =>
    exact (readsAlike_decodeItems h hvalues).bind_pure fun _ _ hitems =>
      { rearranged_empty with items := .some hitems }
  case additionalItems =>
    exact (h hvalues).bind_pure fun _ _ hs => { rearranged_empty with additionalItems := .some hs }
  case contains =>
    exact (h hvalues).bind_pure fun _ _ hs => { rearranged_empty with contains := .some hs }
  case additionalProperties =>
    exact (h hvalues).bind_pure fun _ _ hs =>
      { rearranged_empty with additionalProperties := .some hs }
  case propertyNames =>
    exact (h hvalues).bind_pure fun _ _ hs => { rearranged_empty with propertyNames := .some hs }
  case not => exact (h hvalues).bind_pure fun _ _ hs => { rearranged_empty with not := .some hs }
  case properties =>
    exact (Json.readsAlike_asNamed h hvalues).bind_pure fun _ _ hs =>
      { rearranged_empty with properties := .some hs.2, memberNames := hs.1 }
  case definitions =>
    exact (Json.readsAlike_asNamed h hvalues).bind_pure fun _ _ hs =>
      { rearranged_empty with definitions := .some hs.2 }
  case patternProperties =>
    exact (Json.readsAlike_asObject hvalues).bind fun _ _ hmembers =>
      (Json.readMembers_follows Pattern.decode h hmembers.2).bind_pure fun _ _ hs =>
        { rearranged_empty with patternProperties := .some hs }
  case dependencies =>
    exact (Json.readsAlike_asNamed (readsAlike_decodeDependency h) hvalues).bind_pure fun _ _ hs =>
      { rearranged_empty with dependencies := .some hs.2 }
  case allOf =>
    exact (Json.readsAlike_asList h hvalues).bind_pure fun _ _ hs =>
      { rearranged_empty with allOf := .some hs }
  case anyOf =>
    exact (Json.readsAlike_asList h hvalues).bind_pure fun _ _ hs =>
      { rearranged_empty with anyOf := .some hs }
  case oneOf =>
    exact (Json.readsAlike_asList h hvalues).bind_pure fun _ _ hs =>
      { rearranged_empty with oneOf := .some hs }

variable {members members' : List (String × Json)}

/-- Members that differ in their order have the same older identifier. -/
theorem olderId?_eq (hnames : (members.map Prod.fst).Nodup)
    (hmembers : Alike true (Paired Json.DistinctReordered) members members') :
    olderId? members = olderId? members' := by
  have hfound := rel_lookup hnames hmembers Keyword.olderId
  rw [olderId?, olderId?]
  generalize members.lookup Keyword.olderId = found, members'.lookup Keyword.olderId = found'
    at hfound ⊢
  cases hfound with
  | none => rfl
  | some hvalues => cases hvalues.matches <;> rfl

/-- What is there for the keywords before members in another order are read is the same. -/
theorem rearranged_older (hnames : (members.map Prod.fst).Nodup)
    (hmembers : Alike true (Paired Json.DistinctReordered) members members') (k : Keyword) :
    Rearranged R (older (σ := σ) members k) (older members' k) := by
  rw [older, older, olderId?_eq hnames hmembers]
  split
  · exact { rearranged_empty with id := rfl }
  · exact rearranged_empty

/-- What is read for a keyword from members in another order answers to it. -/
theorem source_follows (h : ReadsAlike R child) (hnames : (members.map Prod.fst).Nodup)
    (hmembers : Alike true (Paired Json.DistinctReordered) members members') (k : Keyword) :
    Follows (Rearranged R) (source child members (older members) k)
      (source child members' (older members') k) := by
  have hfound := rel_lookup hnames hmembers k.name
  rw [source, source]
  generalize members.lookup k.name = found, members'.lookup k.name = found' at hfound ⊢
  cases hfound with
  | none => exact follows_ok (rearranged_older hnames hmembers k)
  | some hvalues => exact readsAlike_decodeKeyword h k hvalues

/-- The unknown keywords among members in another order are kept in that order. -/
theorem alike_unknowns (h : ReadsAlike R child)
    (hmembers : Alike true (Paired Json.DistinctReordered) members members') :
    Alike true (Paired R) (unknowns child members) (unknowns child members') := by
  refine hmembers.flatMap fun member member' hpair => ?_
  obtain ⟨name, value⟩ := member
  obtain ⟨_, value'⟩ := member'
  obtain ⟨rfl, hvalues⟩ := hpair
  have hkept : Option.Rel R (unknown? child value) (unknown? child value') := by
    have hread := Json.rel_toOption h hvalues
    cases hvalues.matches with
    | scalar _ hobject =>
      cases value with
      | object members => exact absurd rfl (hobject members)
      | null | bool | number | string | array => exact .none
    | array => exact .none
    | object => exact hread
  dsimp only
  cases Keyword.ofName? name with
  | some k => exact alike_nil
  | none =>
    dsimp only
    generalize unknown? child value = kept, unknown? child value' = kept' at hkept ⊢
    cases hkept with
    | none => exact alike_nil
    | some hs => exact alike_singleton ⟨rfl, hs⟩

/-- Schema objects are read alike when schemas are. -/
theorem decode_follows (h : ReadsAlike R child) (hnames : (members.map Prod.fst).Nodup)
    (hmembers : Alike true (Paired Json.DistinctReordered) members members') :
    Follows (Rearranged R) (decode child members) (decode child members') := by
  intro o ho
  obtain ⟨pick, hpick, rfl⟩ := (decode_eq_ok_iff hnames).mp ho
  have hfollow (k : Keyword) := source_follows h hnames hmembers k (pick k) (hpick k)
  choose pick' hpick' hrearranged using hfollow
  have hnames' : (members'.map Prod.fst).Nodup := hmembers.perm_names.nodup_iff.mp hnames
  exact ⟨_, (decode_eq_ok_iff hnames').mpr ⟨pick', hpick', rfl⟩,
    rearranged_gather hrearranged (alike_unknowns h hmembers)⟩

end ObjectSchema

namespace Schema

/-- Whether two schemas differ in the order of named parts, in some levels of schema objects. -/
def RearrangedWithin : (levels : Nat) → Schema → Schema → Prop
  | 0, _, _ => False
  | _ + 1, .boolean value, s' => s' = .boolean value
  | levels + 1, .object o, s' => ∃ o', s' = .object o' ∧ o.Rearranged (RearrangedWithin levels) o'

/-- Whether two schemas differ in the order of named parts. -/
def Rearranged (s s' : Schema) : Prop := ∃ levels, s.RearrangedWithin levels s'

/-- Values that differ in the order of members are read as rearranged schemas, or both are not read. -/
theorem readsAlike_decodeWithin (maximum levels : Nat) :
    ReadsAlike (RearrangedWithin levels) (decodeWithin maximum levels) := by
  induction levels with
  | zero => exact fun _ _ hs => by cases hs
  | succ levels ih =>
    intro value value' hvalues
    have hnames := hvalues.1
    cases hvalues.matches with
    | scalar harray hobject =>
      cases value with
      | bool answer => exact follows_ok rfl
      | object members => exact absurd rfl (hobject members)
      | null | number | string | array => exact fun _ hs => by cases hs
    | array => exact fun _ hs => by cases hs
    | object hmembers =>
      exact (ObjectSchema.decode_follows ih (Json.distinctNames_object.mp hnames).1 hmembers).map
        fun o o' ho => ⟨o', rfl, ho⟩

/-- Documents that differ in the order of members are read as rearranged schemas, or both are not
read. -/
theorem rel_decode (limits : Limits) {document document' : Json}
    (h : document.DistinctReordered document') :
    Option.Rel Rearranged (decode limits document).toOption (decode limits document').toOption := by
  have hread : ReadsAlike Rearranged (decode limits) :=
    ReadsAlike.mono (readsAlike_decodeWithin limits.schemaDepth (limits.schemaDepth + 1))
      fun _ _ hs => ⟨_, hs⟩
  exact Json.rel_toOption hread h

end Schema

end Draft6
