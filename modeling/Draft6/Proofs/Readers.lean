import Draft6.Proofs.TextReading
import Draft6.Proofs.WholeNumber
import Draft6.Schema.Decode

/-!
# Reading back what was written

A reader and a writer belong together when everything that was once read is read again from what is
written for it. The value that it was first read from may have looked different: a size may have been
a binary64 number, and the names of types may have stood in a list of one. Readers of lists and of
members take this property from the reader of one element.
-/

namespace Draft6

namespace Decoded

variable {α : Type}

/-- The place of a part only counts when it is refused. -/
@[simp] theorem below_eq_ok {segment : String} {result : Decoded α} {a : α} :
    below segment result = .ok a ↔ result = .ok a := by
  cases result with
  | error e => exact iff_of_false nofun nofun
  | ok b => rfl

end Decoded

open Decoded (below_eq_ok)

/-- Whether everything that was read is read again from what is written for it. -/
def RoundTrips {α : Type} (read : Json → Decoded α) (write : α → Json) : Prop :=
  ∀ value a, read value = .ok a → read (write a) = .ok a

namespace Json

/-- A size is written as a number that reads as the size. -/
theorem size?_ofUInt64 (size : UInt64) : size? (Number.ofUInt64 size) = some size := by
  change (if (0 : Int) ≤ size.toNat then some (UInt64.ofNat (size.toNat : Int).toNat) else none) = _
  rw [if_pos (Int.natCast_nonneg _), Int.toNat_natCast, UInt64.ofNat_toNat]

/-- Sizes are written as integers. -/
theorem asSize_sizeJson (size : UInt64) : asSize (ObjectSchema.sizeJson size) = .ok size := by
  simp only [ObjectSchema.sizeJson, asSize, size?_ofUInt64]

/-- Divisors are read back. -/
theorem asDivisor_roundTrips : RoundTrips asDivisor fun x => .number (Number.ofDivisor x) := by
  intro value x h
  obtain ⟨n, _, h⟩ := bind_eq_ok.mp h
  dsimp only at h
  split at h
  · next hpos =>
    cases h
    change (if (Number.ofDivisor n.toBinary64).toBinary64.compare .zero = .gt then _ else _) = _
    rw [Number.toBinary64_ofDivisor _ hpos, if_pos hpos]
    rfl
  · cases h

/-- The elements of a list are read back, at whatever position it begins. -/
theorem readItems_map {α : Type} {item : Json → Decoded α} {write : α → Json}
    (h : RoundTrips item write) {start : Nat} (position : Nat) {values : List Json} {xs : List α}
    (hread : readItems item start values = .ok xs) :
    readItems item position (xs.map write) = .ok xs := by
  induction values generalizing start position xs with
  | nil =>
    cases hread
    rfl
  | cons value rest ih =>
    obtain ⟨x, hx, hread⟩ := bind_eq_ok.mp hread
    obtain ⟨others, hothers, hread⟩ := bind_eq_ok.mp hread
    cases hread
    refine bind_eq_ok.mpr ⟨x, below_eq_ok.mpr (h value x (below_eq_ok.mp hx)), ?_⟩
    exact bind_eq_ok.mpr ⟨others, ih (position + 1) hothers, rfl⟩

/-- Lists are read back. -/
theorem asList_roundTrips {α : Type} {item : Json → Decoded α} {write : α → Json}
    (h : RoundTrips item write) : RoundTrips (asList item) fun xs => .array (xs.map write) := by
  intro value xs hread
  obtain ⟨values, _, hread⟩ := bind_eq_ok.mp hread
  exact readItems_map h 0 hread

/-- The members of an object are read back, when their names are. -/
theorem readMembers_map {κ α : Type} {name : String → Decoded κ} {item : Json → Decoded α}
    (key : κ → String) {write : α → Json} (hname : ∀ s k, name s = .ok k → name (key k) = .ok k)
    (h : RoundTrips item write) {members : List (String × Json)} {entries : List (κ × α)}
    (hread : readMembers name item members = .ok entries) :
    readMembers name item (entries.map fun entry => (key entry.1, write entry.2)) =
      .ok entries := by
  induction members generalizing entries with
  | nil =>
    cases hread
    rfl
  | cons member rest ih =>
    obtain ⟨entry, hentry, hread⟩ := bind_eq_ok.mp hread
    obtain ⟨others, hothers, hread⟩ := bind_eq_ok.mp hread
    cases hread
    obtain ⟨k, hk, hentry⟩ := bind_eq_ok.mp (below_eq_ok.mp hentry)
    obtain ⟨x, hx, hentry⟩ := bind_eq_ok.mp hentry
    cases hentry
    refine bind_eq_ok.mpr ⟨(k, x), below_eq_ok.mpr ?_, bind_eq_ok.mpr ⟨others, ih hothers, rfl⟩⟩
    exact bind_eq_ok.mpr ⟨k, hname _ k hk, bind_eq_ok.mpr ⟨x, h _ x hx, rfl⟩⟩

/-- Objects from names to values are read back. -/
theorem asNamed_roundTrips {α : Type} {item : Json → Decoded α} {write : α → Json}
    (h : RoundTrips item write) :
    RoundTrips (asNamed item) fun entries =>
      .object (entries.map fun entry => (entry.1, write entry.2)) := by
  intro value entries hread
  obtain ⟨members, _, hread⟩ := bind_eq_ok.mp hread
  exact readMembers_map id (fun _ _ hname => by cases hname; rfl) h hread

/-- Type names are read back. -/
theorem asType_roundTrips : RoundTrips asType fun type => .string type.name := by
  intro _ type _
  cases type <;> rfl

/-- The rule made of null and another type comes from these two types. -/
theorem ofList_null (type : SimpleType) (h : type ≠ .null) :
    TypeRule.ofList [.null, type] = .nullable type := by
  rw [TypeRule.ofList, if_pos ⟨rfl, h⟩]

/-- A rule made of a list is for one type, for null and another one, or the list itself. -/
theorem ofList_cases (types : List SimpleType) :
    (∃ type, TypeRule.ofList types = .single type) ∨
      (∃ type, type ≠ .null ∧ TypeRule.ofList types = .nullable type) ∨
        TypeRule.ofList types = .union types := by
  rw [TypeRule.ofList.eq_def]
  split
  · next type => exact .inl ⟨type, rfl⟩
  · next first second =>
    split
    · next h => exact .inr (.inl ⟨second, h.2, rfl⟩)
    · split
      · next h => exact .inr (.inl ⟨first, h.2, rfl⟩)
      · exact .inr (.inr rfl)
  · exact .inr (.inr rfl)

/-- A rule for types that was read is written as a value, and read back from it. -/
theorem asTypeRule_toJson? {value : Json} {rule : TypeRule} (h : asTypeRule value = .ok rule) :
    ∃ written, rule.toJson? = some written ∧ asTypeRule written = .ok rule := by
  have hsingle (type : SimpleType) : asTypeRule (.string type.name) = .ok (.single type) :=
    map_eq_ok.mpr ⟨type, asType_roundTrips (.string type.name) type (by cases type <;> rfl), rfl⟩
  rw [asTypeRule.eq_def] at h
  split at h
  · obtain ⟨type, _, rfl⟩ := map_eq_ok.mp h
    exact ⟨_, rfl, hsingle type⟩
  · cases h
  · next items hitems =>
    obtain ⟨types, htypes, rfl⟩ := map_eq_ok.mp h
    rcases ofList_cases types with ⟨type, hrule⟩ | ⟨type, hnull, hrule⟩ | hrule
    · exact hrule ▸ ⟨_, rfl, hsingle type⟩
    · refine hrule ▸ ⟨_, rfl, map_eq_ok.mpr ⟨[.null, type], ?_, ofList_null type hnull⟩⟩
      cases type <;> rfl
    · refine ⟨.array (types.map fun type => .string type.name), ?_, ?_⟩
      · rw [hrule, TypeRule.toJson?, strings, List.map_map]
        rfl
      · cases types with
        | nil =>
          obtain ⟨first, rest, rfl⟩ := List.exists_cons_of_ne_nil hitems
          obtain ⟨_, ⟨⟩, htypes⟩ := bind_eq_ok.mp htypes
          obtain ⟨_, _, htypes⟩ := bind_eq_ok.mp htypes
          obtain ⟨_, _, htypes⟩ := bind_eq_ok.mp htypes
          cases htypes
        | cons type rest =>
          exact map_eq_ok.mpr ⟨_, asList_roundTrips asType_roundTrips _ _ htypes, rfl⟩
  · cases h

end Json

/-- A pattern has the text that it was read from. -/
theorem Pattern.source_of_decode {source : String} {p : Pattern} (h : Pattern.decode source = .ok p) :
    p.source = source := by
  unfold Pattern.decode Pattern.ofSource? at h
  split at h
  · next q hq =>
    cases h
    split at hq
    · cases hq
      rfl
    · cases hq
  · cases h

/-- Patterns are read back from their texts. -/
theorem Pattern.decode_source (source : String) (p : Pattern)
    (h : Pattern.decode source = .ok p) : Pattern.decode p.source = .ok p := by
  rw [Pattern.source_of_decode h, h]

namespace ObjectSchema

variable {σ : Type} {child : Json → Decoded σ} {write : σ → Json}

/-- Schemas for elements are read back, when no schema is written as an array. -/
theorem decodeItems_roundTrips (h : RoundTrips child write)
    (harray : ∀ s items, write s ≠ .array items) :
    RoundTrips (decodeItems child) fun items => (items.mapPath fun _ => write).toJson := by
  intro value items hread
  rw [decodeItems.eq_def] at hread
  split at hread
  · obtain ⟨schemas, hschemas, rfl⟩ := map_eq_ok.mp hread
    simp only [Items.mapPath, Schema.mapIdx_eq_map]
    exact map_eq_ok.mpr ⟨schemas, Json.asList_roundTrips h _ _ hschemas, rfl⟩
  · obtain ⟨s, hs, rfl⟩ := map_eq_ok.mp hread
    have hwrite := h _ s hs
    simp only [Items.mapPath, Items.toJson]
    rw [decodeItems.eq_def]
    split
    · next items hitems => exact absurd hitems (harray s items)
    · exact map_eq_ok.mpr ⟨s, hwrite, rfl⟩

/-- What a member demands is read back, when no schema is written as an array. -/
theorem decodeDependency_roundTrips (h : RoundTrips child write)
    (harray : ∀ s items, write s ≠ .array items) (trigger : String) :
    RoundTrips (decodeDependency child) fun d => (d.mapPath (fun _ => write) trigger).toJson := by
  intro value dependency hread
  rw [decodeDependency.eq_def] at hread
  split at hread
  · obtain ⟨names, hnames, rfl⟩ := map_eq_ok.mp hread
    have hstring : RoundTrips Json.asString Json.string := fun _ _ _ => rfl
    exact map_eq_ok.mpr ⟨names, Json.asList_roundTrips hstring _ _ hnames, rfl⟩
  · obtain ⟨s, hs, rfl⟩ := map_eq_ok.mp hread
    have hwrite := h _ s hs
    simp only [Dependency.mapPath, Dependency.toJson]
    rw [decodeDependency.eq_def]
    split
    · next items hitems => exact absurd hitems (harray s items)
    · exact map_eq_ok.mpr ⟨s, hwrite, rfl⟩

end ObjectSchema

end Draft6
