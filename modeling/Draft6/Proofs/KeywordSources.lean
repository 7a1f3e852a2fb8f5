import Draft6.Proofs.MemberNames
import Draft6.Proofs.RoundTrip

/-!
# Where the keywords come from

The members of a schema object are read one after another. Where no name is repeated, the result can be
said without that order: each keyword takes what is read from its own member, and is absent when there is
none. Without a member for it the identifier takes the older name. The unknown keywords are the other
members whose values are schema objects, in the order of the members.
-/

namespace Draft6

open Decoded (below_eq_ok)

namespace ObjectSchema

variable {σ : Type} (child : Json → Decoded σ)

/-- The schema that is kept for the value of an unknown keyword. -/
def unknown? (value : Json) : Option σ :=
  match value with
  | .object _ => (child value).toOption
  | _ => none

/-- The unknown keywords that are kept. -/
def unknowns (members : List (String × Json)) : List (String × σ) :=
  members.flatMap fun (name, value) =>
    match Keyword.ofName? name with
    | some _ => []
    | none => (unknown? child value).toList.map (Prod.mk name)

/-- What is read for a keyword: from the member with its name, or else what was there before. -/
def source (members : List (String × Json)) (before : Keyword → ObjectSchema σ) (k : Keyword) :
    Decoded (ObjectSchema σ) :=
  match members.lookup k.name with
  | some value => decodeKeyword child {} k value
  | none => .ok (before k)

/-- What is there for the keywords before the members are read: the older name of the identifier. -/
def older (members : List (String × Json)) (k : Keyword) : ObjectSchema σ :=
  if k = .id then { id := olderId? members } else {}

variable {child}

/-- No keyword has the name of an unknown one. -/
theorem name_ne_of_ofName?_eq_none {name : String} (h : Keyword.ofName? name = none) (k : Keyword) :
    k.name ≠ name := by
  rintro rfl
  rw [ofName?_name] at h
  cases h

variable {members rest : List (String × Json)} {before : Keyword → ObjectSchema σ}
  {extra : List (String × σ)} {o : ObjectSchema σ}

/-- A member with the name of a keyword is no unknown keyword. -/
theorem unknowns_cons_of_some {name : String} {k : Keyword} (h : Keyword.ofName? name = some k)
    (value : Json) : unknowns child ((name, value) :: rest) = unknowns child rest := by
  rw [unknowns, List.flatMap_cons]
  simp only [h]
  rfl

/-- An unknown keyword is kept when its value is a schema object. -/
theorem unknowns_cons_of_none {name : String} (h : Keyword.ofName? name = none) (value : Json) :
    unknowns child ((name, value) :: rest) =
      (unknown? child value).toList.map (Prod.mk name) ++ unknowns child rest := by
  rw [unknowns, List.flatMap_cons]
  simp only [h]
  rfl

/-- An unknown keyword that is kept comes behind the others. -/
theorem keepUnknown_gather (name : String) (value : Json) :
    keepUnknown child (gather before extra) name value =
      gather before (extra ++ (unknown? child value).toList.map (Prod.mk name)) := by
  have hnothing : gather before extra = gather before (extra ++ []) := by rw [List.append_nil]
  cases value with
  | object members =>
    simp only [keepUnknown, unknown?]
    cases child (.object members) with
    | ok s => rfl
    | error e => exact hnothing
  | null | bool | number | string | array => exact hnothing

/-- A keyword is read from the first member when that has its name. -/
theorem source_cons_self (k : Keyword) (value : Json) :
    source child ((k.name, value) :: rest) before k = decodeKeyword child {} k value := by
  rw [source, List.lookup_cons_self]

/-- A keyword is read from later members when the first one has another name. -/
theorem source_cons_of_ne {k : Keyword} {name : String} (h : k.name ≠ name) (value : Json) :
    source child ((name, value) :: rest) before k = source child rest before k := by
  rw [source, source, List.lookup_cons, beq_false_of_ne h]

/-- A keyword without a member keeps what was there before. -/
theorem source_of_not_mem {k : Keyword} (h : k.name ∉ members.map Prod.fst) :
    source child members before k = .ok (before k) := by
  have hnone : members.lookup k.name = none := by
    refine List.lookup_eq_none_iff.mpr fun member hmember => ?_
    exact bne_iff_ne.mpr fun hname => h (hname ▸ List.mem_map_of_mem hmember)
  rw [source, hnone]

/-- What was there before does not count for a keyword that has a member. -/
theorem source_update {k : Keyword} (j : Keyword) (h : j ≠ k) (p : ObjectSchema σ) :
    source child members (Function.update before k p) j = source child members before j := by
  rw [source, source, Function.update_of_ne h]

/-- Reading the members of a schema object gives every keyword what is read for it, and keeps the unknown
keywords. -/
theorem foldlM_gather_eq_ok_iff (hnames : (members.map Prod.fst).Nodup) :
    members.foldlM (fun o member => decodeMember child o member.1 member.2) (gather before extra) =
        .ok o ↔
      ∃ pick, (∀ k, source child members before k = .ok (pick k)) ∧
        o = gather pick (extra ++ unknowns child members) := by
  induction members generalizing before extra with
  | nil =>
    constructor
    · intro h
      cases h
      exact ⟨before, fun _ => rfl, by rw [unknowns, List.flatMap_nil, List.append_nil]⟩
    · rintro ⟨pick, hpick, rfl⟩
      obtain rfl : before = pick := funext fun k => Except.ok.inj (hpick k)
      rw [unknowns, List.flatMap_nil, List.append_nil]
      rfl
  | cons member rest ih =>
    obtain ⟨name, value⟩ := member
    rw [List.map_cons, List.nodup_cons] at hnames
    rw [List.foldlM_cons]
    dsimp only
    rw [decodeMember]
    cases hname : Keyword.ofName? name with
    | none =>
      have hne := name_ne_of_ofName?_eq_none hname
      simp only [source_cons_of_ne (hne _), unknowns_cons_of_none hname, ← List.append_assoc]
      rw [keepUnknown_gather]
      exact ih hnames.2
    | some k =>
      obtain rfl : k.name = name := by simpa using List.find?_some hname
      have hother {j : Keyword} (h : j ≠ k) : j.name ≠ k.name := fun heq => h
        (Option.some.inj ((ofName?_name j).symm.trans (heq ▸ ofName?_name k)))
      dsimp only
      rw [unknowns_cons_of_some hname]
      constructor
      · intro h
        obtain ⟨next, hnext, h⟩ := bind_eq_ok.mp h
        rw [below_eq_ok, decodeKeyword_gather, map_eq_ok] at hnext
        obtain ⟨p, hp, rfl⟩ := hnext
        obtain ⟨pick, hpick, rfl⟩ := (ih hnames.2).mp h
        refine ⟨pick, fun j => ?_, rfl⟩
        by_cases hj : j = k
        · subst hj
          have hsame := (hpick j).symm.trans (source_of_not_mem hnames.1)
          rw [source_cons_self, hp, Except.ok.inj hsame, Function.update_self]
        · rw [source_cons_of_ne (hother hj), ← hpick j, source_update j hj]
      · rintro ⟨pick, hpick, rfl⟩
        have hp := (source_cons_self k value).symm.trans (hpick k)
        refine bind_eq_ok.mpr ⟨gather (Function.update before k (pick k)) extra, ?_, ?_⟩
        · rw [below_eq_ok, decodeKeyword_gather, hp]
          rfl
        · refine (ih hnames.2).mpr ⟨pick, fun j => ?_, rfl⟩
          by_cases hj : j = k
          · subst hj
            rw [source_of_not_mem hnames.1, Function.update_self]
          · rw [source_update j hj, ← hpick j, source_cons_of_ne (hother hj)]

/-- A schema object takes every keyword from its own member, and the unknown keywords from the others. -/
theorem decode_eq_ok_iff (hnames : (members.map Prod.fst).Nodup) : decode child members = .ok o ↔
    ∃ pick, (∀ k, source child members (older members) k = .ok (pick k)) ∧
      o = gather pick (unknowns child members) :=
  @foldlM_gather_eq_ok_iff _ child members (older members) [] o hnames

end ObjectSchema

end Draft6
