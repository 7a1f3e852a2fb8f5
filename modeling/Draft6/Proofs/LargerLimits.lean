import Draft6.Proofs.KeywordReading
import Draft6.Proofs.KeywordSources
import Draft6.Proofs.Places

/-!
# Reading with a larger limit

A document that is read with some limit is read with a larger one too, though perhaps as another schema:
what nests too deep under an unknown keyword is passed over with the smaller limit and kept with the
larger one. Nothing else can differ. So the two schemas are the same exactly when the one that is read
with the larger limit nests no deeper than the smaller limit allows.

The proof goes down from the larger limit. A reader that still reads what another one read, as long as
it nests within some levels, makes readers of lists, of members, of keywords and of schema objects that
do so, with one level more.
-/

namespace Draft6

/-- Whether schemas nest at most some levels deep. -/
def Schema.NestsWithin : (levels : Nat) → Schema → Prop
  | 0, _ => False
  | _ + 1, .boolean _ => True
  | levels + 1, .object o => ∀ child ∈ o.children, NestsWithin levels child.2

/-- Whether a reader still reads what another one read from a value that repeats no member name, as long
as what was read is good. -/
def Decoded.Keeps {α : Type} (good : α → Prop) (read read' : Json → Decoded α) : Prop :=
  ∀ value, value.distinctNames = true → ∀ a, read value = .ok a → good a → read' value = .ok a

open Decoded (Keeps Succeeds)

namespace Json

variable {κ α : Type} {good : α → Prop} {item item' : Json → Decoded α} (h : Keeps good item item')
include h

/-- Lists of good elements are still read. -/
theorem asList_keeps : Keeps (fun xs => ∀ x ∈ xs, good x) (asList item) (asList item') := by
  have hitems (start : Nat) (items : List Json) (hdistinct : ∀ value ∈ items, value.distinctNames = true)
      (xs : List α) (hread : readItems item start items = .ok xs) (hgood : ∀ x ∈ xs, good x) :
      readItems item' start items = .ok xs := by
    induction items generalizing start xs with
    | nil => exact hread
    | cons value rest ih =>
      obtain ⟨x, hx, hread⟩ := bind_eq_ok.mp hread
      obtain ⟨others, hothers, hread⟩ := bind_eq_ok.mp hread
      cases hread
      rw [List.forall_mem_cons] at hdistinct hgood
      have hfirst := h value hdistinct.1 x (Decoded.below_eq_ok.mp hx) hgood.1
      exact bind_eq_ok.mpr ⟨x, Decoded.below_eq_ok.mpr hfirst,
        bind_eq_ok.mpr ⟨others, ih (start + 1) hdistinct.2 others hothers hgood.2, rfl⟩⟩
  intro value hvalue xs hread hgood
  obtain ⟨items, hvalue', hread⟩ := bind_eq_ok.mp hread
  cases value with
  | array items' =>
    cases hvalue'
    exact hitems 0 items (distinctNames_array.mp hvalue) xs hread hgood
  | null | bool | number | string | object => cases hvalue'

/-- Members with good values are still read. -/
theorem readMembers_keeps (name : String → Decoded κ) {members : List (String × Json)}
    (hmembers : ∀ member ∈ members, member.2.distinctNames = true) {entries : List (κ × α)}
    (hread : readMembers name item members = .ok entries) (hgood : ∀ entry ∈ entries, good entry.2) :
    readMembers name item' members = .ok entries := by
  induction members generalizing entries with
  | nil => exact hread
  | cons member rest ih =>
    obtain ⟨entry, hentry, hread⟩ := bind_eq_ok.mp hread
    obtain ⟨others, hothers, hread⟩ := bind_eq_ok.mp hread
    cases hread
    obtain ⟨key, hkey, hentry⟩ := bind_eq_ok.mp (Decoded.below_eq_ok.mp hentry)
    obtain ⟨a, ha, hentry⟩ := bind_eq_ok.mp hentry
    cases hentry
    rw [List.forall_mem_cons] at hmembers hgood
    have hfirst : (do pure (← name member.1, ← item' member.2)) = Except.ok (key, a) :=
      bind_eq_ok.mpr ⟨key, hkey, bind_eq_ok.mpr ⟨a, h _ hmembers.1 a ha hgood.1, rfl⟩⟩
    exact bind_eq_ok.mpr ⟨(key, a), Decoded.below_eq_ok.mpr hfirst,
      bind_eq_ok.mpr ⟨others, ih hmembers.2 hothers hgood.2, rfl⟩⟩

/-- Objects with good values are still read. -/
theorem asObject_readMembers_keeps (name : String → Decoded κ) :
    Keeps (fun entries => ∀ entry ∈ entries, good entry.2)
      (fun value => value.asObject >>= readMembers name item)
      (fun value => value.asObject >>= readMembers name item') := by
  intro value hvalue entries hread hgood
  obtain ⟨members, hmembers, hread⟩ := bind_eq_ok.mp hread
  cases value with
  | object members' =>
    cases hmembers
    exact readMembers_keeps h name (distinctNames_object.mp hvalue).2 hread hgood
  | null | bool | number | string | array => cases hmembers

end Json

namespace ObjectSchema

variable {σ : Type} {good : σ → Prop} {child child' : Json → Decoded σ}

/-- What is true of the schemas of a list with their positions is true of these schemas. -/
theorem forall_mem_of_listed {schemas : List σ} (h : ∀ part ∈ listed schemas, good part.2) :
    ∀ s ∈ schemas, good s := by
  intro s hs
  obtain ⟨i, hi, rfl⟩ := List.getElem_of_mem hs
  exact h _ (List.mem_mapIdx.mpr ⟨i, hi, rfl⟩)

/-- What is true of named schemas under their names is true of these schemas. -/
theorem forall_mem_of_named {κ : Type} (key : κ → String) {entries : List (κ × σ)}
    (h : ∀ part ∈ named key entries, good part.2) : ∀ entry ∈ entries, good entry.2 :=
  fun _ hentry => h _ (List.mem_map_of_mem hentry)

section Keeps

variable (h : Keeps good child child')
include h

/-- Good schemas for the elements of arrays are still read. -/
theorem decodeItems_keeps : Keeps (fun items => ∀ part ∈ itemParts (some items), good part.2)
    (decodeItems child) (decodeItems child') := by
  intro value hvalue items hread hgood
  cases value with
  | array values =>
    obtain ⟨schemas, hschemas, rfl⟩ := map_eq_ok.mp hread
    have hlist := Json.asList_keeps h _ hvalue schemas hschemas (forall_mem_of_listed hgood)
    exact map_eq_ok.mpr ⟨schemas, hlist, rfl⟩
  | null | bool | number | string | object =>
    obtain ⟨s, hs, rfl⟩ := map_eq_ok.mp hread
    exact map_eq_ok.mpr ⟨s, h _ hvalue s hs (hgood _ List.mem_cons_self), rfl⟩

/-- Good demands of members are still read. -/
theorem decodeDependency_keeps : Keeps (fun dependency => ∀ s ∈ dependency.toList, good s)
    (decodeDependency child) (decodeDependency child') := by
  intro value hvalue dependency hread hgood
  cases value with
  | array values => exact hread
  | null | bool | number | string | object =>
    obtain ⟨s, hs, rfl⟩ := map_eq_ok.mp hread
    exact map_eq_ok.mpr ⟨s, h _ hvalue s hs (hgood _ List.mem_cons_self), rfl⟩

/-- The value of a keyword is still read when the schemas under the keyword are good. -/
theorem decodeKeyword_keeps (k : Keyword) : Keeps (fun p => ∀ part ∈ p.parts k, good part.2)
    (decodeKeyword child {} k) (decodeKeyword child' {} k) := by
  intro value hvalue p hread hgood
  cases k
  case items =>
    obtain ⟨items, hitems, hread⟩ := bind_eq_ok.mp hread
    cases hread
    exact bind_eq_ok.mpr ⟨items, decodeItems_keeps h value hvalue items hitems hgood, rfl⟩
  case additionalItems | contains | additionalProperties | propertyNames | not =>
    obtain ⟨s, hs, hread⟩ := bind_eq_ok.mp hread
    cases hread
    exact bind_eq_ok.mpr ⟨s, h value hvalue s hs (hgood _ List.mem_cons_self), rfl⟩
  case properties | definitions =>
    obtain ⟨entries, hentries, hread⟩ := bind_eq_ok.mp hread
    cases hread
    exact bind_eq_ok.mpr ⟨entries, Json.asObject_readMembers_keeps h pure value hvalue entries hentries
      (forall_mem_of_named (fun name => name) hgood), rfl⟩
  case patternProperties =>
    rw [decodeKeyword, ← bind_assoc] at hread ⊢
    obtain ⟨entries, hentries, hread⟩ := bind_eq_ok.mp hread
    cases hread
    exact bind_eq_ok.mpr ⟨entries, Json.asObject_readMembers_keeps h Pattern.decode value hvalue entries
      hentries (forall_mem_of_named Pattern.source hgood), rfl⟩
  case dependencies =>
    obtain ⟨entries, hentries, hread⟩ := bind_eq_ok.mp hread
    cases hread
    refine bind_eq_ok.mpr ⟨entries, Json.asObject_readMembers_keeps (decodeDependency_keeps h) pure value
      hvalue entries hentries fun entry hentry s hs => ?_, rfl⟩
    exact hgood ([entry.1], s) (List.mem_flatMap.mpr ⟨entry, hentry, List.mem_map_of_mem hs⟩)
  case allOf | anyOf | oneOf =>
    obtain ⟨schemas, hschemas, hread⟩ := bind_eq_ok.mp hread
    cases hread
    exact bind_eq_ok.mpr ⟨schemas, Json.asList_keeps h value hvalue schemas hschemas
      (forall_mem_of_listed hgood), rfl⟩
  all_goals exact hread

end Keeps

variable {o : ObjectSchema σ}

/-- What is true of all sub-schemas is true of those under a keyword. -/
theorem forall_mem_parts (hgood : ∀ below ∈ o.children, good below.2) (k : Keyword) :
    ∀ part ∈ o.parts k, good part.2 := by
  intro part hpart
  by_cases hk : k ∈ holders
  · refine hgood (k.name :: part.1, part.2) ?_
    rw [children_eq_branches]
    exact List.mem_flatMap.mpr ⟨_, List.mem_append_left _ (List.mem_map_of_mem hk),
      List.mem_map_of_mem hpart⟩
  · cases k
    case definitions | items | additionalItems | contains | properties | patternProperties
        | additionalProperties | dependencies | propertyNames | allOf | anyOf | oneOf | not =>
      exact absurd (by decide) hk
    all_goals cases hpart

/-- What is true of all sub-schemas is true of those under unknown keywords. -/
theorem forall_mem_extra (hgood : ∀ below ∈ o.children, good below.2) : ∀ entry ∈ o.extra, good entry.2 := by
  intro entry hentry
  refine hgood ([entry.1], entry.2) ?_
  rw [children_eq_branches]
  exact List.mem_flatMap.mpr ⟨_, List.mem_append_right _ (List.mem_map_of_mem hentry),
    List.mem_cons_self⟩

/-- An unknown keyword is still kept when its schema is good, and still passed over when it is none. -/
theorem unknown?_keeps (h : Keeps good child child')
    (hsucceeds : ∀ value, (child' value).Succeeds → (child value).Succeeds) {value : Json}
    (hvalue : value.distinctNames = true) (hgood : ∀ s, unknown? child value = some s → good s) :
    unknown? child' value = unknown? child value := by
  cases value with
  | object members =>
    rw [unknown?] at hgood
    rw [unknown?, unknown?]
    cases hread : child (.object members) with
    | ok s =>
      rw [h _ hvalue s hread (hgood s (by rw [hread]; rfl))]
    | error e =>
      cases hread' : child' (.object members) with
      | error e' => rfl
      | ok s =>
        obtain ⟨t, ht⟩ := hsucceeds _ ⟨s, hread'⟩
        cases hread.symm.trans ht
  | null | bool | number | string | array => rfl

/-- Unknown keywords are still the same when those that were kept are good. -/
theorem unknowns_keeps (h : Keeps good child child')
    (hsucceeds : ∀ value, (child' value).Succeeds → (child value).Succeeds)
    {members : List (String × Json)} (hvalues : ∀ member ∈ members, member.2.distinctNames = true)
    (hgood : ∀ entry ∈ unknowns child members, good entry.2) :
    unknowns child' members = unknowns child members := by
  induction members with
  | nil => rfl
  | cons member rest ih =>
    obtain ⟨name, value⟩ := member
    rw [List.forall_mem_cons] at hvalues
    cases hname : Keyword.ofName? name with
    | some k =>
      rw [unknowns_cons_of_some hname] at hgood
      rw [unknowns_cons_of_some hname, unknowns_cons_of_some hname, ih hvalues.2 hgood]
    | none =>
      rw [unknowns_cons_of_none hname, List.forall_mem_append] at hgood
      have hfirst : unknown? child' value = unknown? child value :=
        unknown?_keeps h hsucceeds hvalues.1 fun s hs =>
          hgood.1 (name, s) (hs ▸ List.mem_map_of_mem List.mem_cons_self)
      rw [unknowns_cons_of_none hname, unknowns_cons_of_none hname, hfirst, ih hvalues.2 hgood.2]

/-- The members of a schema object with good sub-schemas are still read. -/
theorem decode_keeps (h : Keeps good child child')
    (hsucceeds : ∀ value, (child' value).Succeeds → (child value).Succeeds)
    {members : List (String × Json)} (hmembers : (Json.object members).distinctNames = true)
    (hread : decode child members = .ok o) (hgood : ∀ below ∈ o.children, good below.2) :
    decode child' members = .ok o := by
  obtain ⟨hnodup, hvalues⟩ := Json.distinctNames_object.mp hmembers
  -- Every keyword comes from its own member, so each of them can be read again by itself.
  obtain ⟨pick, hpick, rfl⟩ := (decode_eq_ok_iff hnodup).mp hread
  refine (decode_eq_ok_iff hnodup).mpr ⟨pick, fun k => ?_, congrArg (gather pick) ?_⟩
  · have hk := hpick k
    rw [source] at hk ⊢
    cases hvalue : members.lookup k.name with
    | none =>
      rw [hvalue] at hk
      exact hk
    | some value =>
      rw [hvalue] at hk
      have hmember := (lookup_eq_some_iff_mem hnodup).mp hvalue
      have hparts := forall_mem_parts hgood k
      rw [parts_gather] at hparts
      exact decodeKeyword_keeps h k value (hvalues _ hmember) (pick k) hk hparts
  · exact (unknowns_keeps h hsucceeds hvalues (forall_mem_extra hgood)).symm

end ObjectSchema

namespace Schema

variable {maximum maximum' few more : Nat}

/-- What is read with more levels is read with fewer of them when it nests within these. -/
theorem decodeWithin_keeps (hle : few ≤ more) :
    Keeps (NestsWithin few) (decodeWithin maximum more) (decodeWithin maximum' few) := by
  induction few generalizing more with
  | zero => exact fun _ _ _ _ hnests => hnests.elim
  | succ few ih =>
    obtain ⟨more, rfl⟩ := Nat.exists_eq_succ_of_ne_zero (by omega : more ≠ 0)
    intro value hvalue s hread hnests
    cases value with
    | bool b => exact hread
    | object members =>
      obtain ⟨o, ho, rfl⟩ := map_eq_ok.mp hread
      have hfewer : few ≤ more := by omega
      exact map_eq_ok.mpr ⟨o, ObjectSchema.decode_keeps (ih hfewer)
        (fun _ => succeeds_decodeWithin_mono hfewer) hvalue ho hnests, rfl⟩
    | null | number | string | array => cases hread

/-- What is read with some levels nests within these. -/
theorem nestsWithin_of_decodeWithin {value : Json} {s : Schema} {levels : Nat}
    (h : decodeWithin maximum levels value = .ok s) (hvalue : value.distinctNames = true) :
    s.NestsWithin levels := by
  induction levels generalizing value s with
  | zero => cases h
  | succ levels ih =>
    cases value with
    | bool b =>
      cases h
      trivial
    | object members =>
      obtain ⟨o, ho, rfl⟩ := map_eq_ok.mp h
      intro child hchild
      obtain ⟨part, hpart, hread⟩ := ObjectSchema.exists_part_of_decode ho hvalue hchild
      exact ih hread (Pointer.distinctNames_of_follow? hpart hvalue)
    | null | number | string | array => cases h

/-- A document that is read is read with a larger limit too. It is then the same schema exactly when what
is read with the larger limit nests no deeper than the smaller limit allows. -/
theorem decode_larger {limits larger : Limits} (hle : limits.schemaDepth ≤ larger.schemaDepth)
    {document : Json} (hdocument : document.distinctNames = true) {s : Schema}
    (h : decode limits document = .ok s) :
    ∃ t, decode larger document = .ok t ∧ (t = s ↔ t.NestsWithin (limits.schemaDepth + 1)) := by
  have hlevels := Nat.succ_le_succ hle
  obtain ⟨t, ht⟩ := succeeds_decodeWithin_mono hlevels ⟨s, h⟩
  refine ⟨t, ht, fun heq => ?_, fun hnests => ?_⟩
  · exact heq ▸ nestsWithin_of_decodeWithin h hdocument
  · exact Except.ok.inj ((decodeWithin_keeps hlevels document hdocument t ht hnests).symm.trans h)

/-- An unknown keyword that nests within the smaller limit is kept with both limits. -/
theorem decode_larger_shallow :
    let limits : Limits := { schemaDepth := 1 }
    let document : Json := .object [("part", .object [])]
    let s : Schema := .object { extra := [("part", .object {})] }
    decode limits document = .ok s ∧ decode Limits.default document = .ok s ∧ s.NestsWithin 2 := by
  intro limits document s
  have hsmaller : decode limits document = .ok s := rfl
  have hlarger : decode Limits.default document = .ok s := rfl
  have hle : limits.schemaDepth ≤ Limits.default.schemaDepth := by decide
  obtain ⟨t, ht, hsame⟩ := decode_larger hle rfl hsmaller
  obtain rfl : t = s := Except.ok.inj (ht.symm.trans hlarger)
  exact ⟨hsmaller, ht, hsame.mp rfl⟩

/-- An unknown keyword that nests too deep for the smaller limit is passed over with this limit, and kept
with the larger one. -/
theorem decode_larger_deep :
    let limits : Limits := { schemaDepth := 1 }
    let document : Json := .object [("part", .object [("not", .object [])])]
    let kept : Schema := .object { extra := [("part", .object { not := some (.object {}) })] }
    decode limits document = .ok (.object {}) ∧ decode Limits.default document = .ok kept ∧
      kept ≠ .object {} :=
  ⟨rfl, rfl, nofun⟩

end Schema

end Draft6
