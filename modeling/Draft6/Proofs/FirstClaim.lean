import Draft6.Proofs.Spots
import Mathlib.Data.List.Sort
import Mathlib.Data.String.Basic

/-!
# The first claim counts

An address is known to a pool exactly when some schema of its documents claims it, and it stands for
the first one that does. What comes later changes nothing of this. All this holds for any way to join
identifiers and references.
-/

namespace Draft6

namespace Pool

/-! ## Lists of addresses -/

/-- Leaving out repetitions keeps every member. -/
theorem mem_dedupSorted {address : String} {addresses : List String} :
    address ∈ dedupSorted addresses ↔ address ∈ addresses := by
  fun_induction dedupSorted addresses with
  | case1 => exact Iff.rfl
  | case2 a => exact Iff.rfl
  | case3 b rest ih => simp [ih]
  | case4 a b rest hne ih => simp [ih]

/-- A sorted list without repetitions is strictly sorted. -/
theorem sortedLT_dedupSorted {addresses : List String} (h : addresses.SortedLE) :
    (dedupSorted addresses).SortedLT := by
  fun_induction dedupSorted addresses with
  | case1 => exact List.Pairwise.sortedLT List.Pairwise.nil
  | case2 a => exact List.Pairwise.sortedLT (List.pairwise_singleton _ _)
  | case3 b rest ih => exact ih (List.Pairwise.sortedLE (List.pairwise_cons.mp h.pairwise).2)
  | case4 a b rest hne ih =>
    obtain ⟨hle, hrest⟩ := List.pairwise_cons.mp h.pairwise
    obtain ⟨hle', _⟩ := List.pairwise_cons.mp hrest
    have hlt : a < b := lt_of_le_of_ne (hle b List.mem_cons_self) hne
    refine List.Pairwise.sortedLT (List.pairwise_cons.mpr ⟨fun c hc => ?_, (ih hrest.sortedLE).pairwise⟩)
    rcases List.mem_cons.mp (mem_dedupSorted.mp hc) with rfl | hc
    · exact hlt
    · exact lt_of_lt_of_le hlt (hle' c hc)

/-- The addresses of a pool are those that its entries have. -/
theorem mem_addresses {pool : Pool} {address : String} :
    address ∈ pool.addresses ↔ ∃ entry ∈ pool.entries, address ∈ entry.addresses := by
  rw [addresses, mem_dedupSorted, List.mem_mergeSort, List.mem_flatMap]

/-- The addresses of a pool are strictly sorted. -/
theorem sortedLT_addresses (pool : Pool) : pool.addresses.SortedLT := by
  refine sortedLT_dedupSorted (List.Pairwise.sortedLE ?_)
  have htrans (a b c : String) (hab : decide (a ≤ b) = true) (hbc : decide (b ≤ c) = true) :
      decide (a ≤ c) = true :=
    decide_eq_true (le_trans (of_decide_eq_true hab) (of_decide_eq_true hbc))
  have htotal (a b : String) : (decide (a ≤ b) || decide (b ≤ a)) = true := by
    simpa using le_total a b
  have hsorted := List.pairwise_mergeSort htrans htotal (pool.entries.flatMap Entry.addresses)
  exact hsorted.imp of_decide_eq_true

/-! ## The entry that has an address -/

variable {scope? : Joining} {documents : List Document}

/-- The entries of a pool are those of the spots of its documents, in their order. -/
theorem entries_addAll_eq (scope? : Joining) (documents : List Document) :
    (empty.addAll documents scope?).entries =
      (documents.flatMap Document.spots).map (Spot.entry scope?) := by
  rw [entries_addAll, List.map_flatMap]
  exact List.flatMap_congr fun d _ => d.entries_eq scope?

/-- An address stands for the first spot that claims it. -/
theorem entry?_eq_some_iff {address : String} {entry : Entry} :
    Pool.entry? (empty.addAll documents scope?) address = some entry ↔
      ∃ before spot after, documents.flatMap Document.spots = before ++ spot :: after ∧
        spot.Claims scope? address ∧ (∀ earlier ∈ before, ¬ earlier.Claims scope? address) ∧
          spot.entry scope? = entry := by
  have hclaims (spot : Spot) : (spot.entry scope?).addresses.contains address = true ↔
      spot.Claims scope? address := by
    rw [List.contains_iff_mem, Spot.mem_addresses_iff]
  rw [ Pool.entry?, entries_addAll_eq, List.find?_map, Option.map_eq_some_iff]
  constructor
  · rintro ⟨spot, hfind, rfl⟩
    obtain ⟨hspot, before, after, hlist, hbefore⟩ := List.find?_eq_some_iff_append.mp hfind
    refine ⟨before, spot, after, hlist, (hclaims spot).mp hspot, fun earlier hearlier => ?_, rfl⟩
    rw [← hclaims earlier, Bool.not_eq_true]
    exact Bool.not_eq_true' _ ▸ hbefore earlier hearlier
  · rintro ⟨before, spot, after, hlist, hspot, hbefore, rfl⟩
    refine ⟨spot, List.find?_eq_some_iff_append.mpr
      ⟨(hclaims spot).mpr hspot, before, after, hlist, fun earlier hearlier => ?_⟩, rfl⟩
    rw [Bool.not_eq_true']
    exact Bool.not_eq_true _ ▸ fun h => hbefore earlier hearlier ((hclaims earlier).mp h)

/-- An address is known when some spot claims it. -/
theorem mem_addresses_addAll {address : String} :
    address ∈ (empty.addAll documents scope?).addresses ↔
      ∃ spot ∈ documents.flatMap Document.spots, spot.Claims scope? address := by
  rw [mem_addresses, entries_addAll_eq]
  constructor
  · rintro ⟨entry, hentry, haddress⟩
    obtain ⟨spot, hspot, rfl⟩ := List.mem_map.mp hentry
    exact ⟨spot, hspot, Spot.mem_addresses_iff.mp haddress⟩
  · rintro ⟨spot, hspot, hclaims⟩
    exact ⟨_, List.mem_map_of_mem hspot, Spot.mem_addresses_iff.mpr hclaims⟩

/-! ## Later documents -/

variable {pool : Pool}

/-- Put documents into a pool in two goes. -/
theorem addAll_append (pool : Pool) (documents later : List Document) (scope? : Joining) :
    pool.addAll (documents ++ later) scope? = (pool.addAll documents scope?).addAll later scope? :=
  List.foldl_append

/-- Whether a pool has come from another one by putting more into it. The entries that were there stay
in front. -/
def Extends (pool' pool : Pool) : Prop := pool.entries <+: pool'.entries

/-- What is found among the entries of a pool is found when more has come. -/
theorem Extends.find? {pool' : Pool} (h : pool'.Extends pool) {test : Entry → Bool} {entry : Entry}
    (hfound : pool.entries.find? test = some entry) : pool'.entries.find? test = some entry := by
  obtain ⟨more, hmore⟩ := h
  rw [← hmore, List.find?_append, hfound]
  rfl

/-- A reference keeps its target when more has come. -/
theorem Extends.resolve {pool' : Pool} (h : pool'.Extends pool) {reference : String} {scope : Url}
    {join? : Joining} {entry : Entry} (hresolve : pool.resolve reference scope join? = .ok entry) :
    pool'.resolve reference scope join? = .ok entry := by
  rw [Pool.resolve] at hresolve ⊢
  cases hjoin : join? scope reference with
  | error reason =>
    rw [hjoin] at hresolve
    cases hresolve
  | ok target =>
    simp only [hjoin] at hresolve ⊢
    cases hentry : pool.entry? (Address.ofUrl target) with
    | none =>
      rw [hentry] at hresolve
      cases hresolve
    | some found =>
      rw [hentry] at hresolve
      have hstays : pool'.entry? (Address.ofUrl target) = some found := h.find? hentry
      rw [hstays]
      exact hresolve

/-- Documents that are put into a pool come behind what is in it. -/
theorem extends_addAll (pool : Pool) (later : List Document) (scope? : Joining) :
    (pool.addAll later scope?).Extends pool :=
  ⟨_, (entries_addAll pool later scope?).symm⟩

/-- A reference keeps its target when more documents come. -/
theorem resolve_addAll {reference : String} {scope : Url} {join? : Joining} {entry : Entry}
    (h : pool.resolve reference scope join? = .ok entry) (later : List Document)
    (scope? : Joining) :
    (pool.addAll later scope?).resolve reference scope join? = .ok entry :=
  (extends_addAll pool later scope?).resolve h

/-- Whether two pools give the same answer to everything that can be asked of them. -/
structure Alike (pool pool' : Pool) : Prop where
  entry? : ∀ address, pool'.entry? address = pool.entry? address
  resolve : ∀ reference scope, ∀ join? : Joining,
    pool'.resolve reference scope join? = pool.resolve reference scope join?
  scopeOf? : ∀ place, pool'.scopeOf? place = pool.scopeOf? place
  addresses : pool'.addresses = pool.addresses
  isEmpty : pool'.isEmpty = pool.isEmpty

/-- Searching entries that come again behind the others finds nothing new. -/
theorem find?_append_of_subset {entries again : List Entry} (h : again ⊆ entries)
    (test : Entry → Bool) : (entries ++ again).find? test = entries.find? test := by
  rw [List.find?_append]
  cases hfound : entries.find? test with
  | some entry => rfl
  | none => exact List.find?_eq_none.mpr fun entry hentry => List.find?_eq_none.mp hfound entry (h hentry)

/-- Entries that come again behind the others change nothing. -/
theorem alike_append (pool : Pool) {again : List Entry} (h : again ⊆ pool.entries) :
    pool.Alike ⟨pool.entries ++ again⟩ := by
  have hentry (address : String) :
      Pool.entry? ⟨pool.entries ++ again⟩ address = pool.entry? address :=
    find?_append_of_subset h _
  constructor
  · exact hentry
  · intro reference scope join?
    simp only [Pool.resolve, hentry]
  · intro place
    exact congrArg (Option.map Entry.scope) (find?_append_of_subset h _)
  · refine (sortedLT_addresses _).eq_of_mem_iff (sortedLT_addresses _) fun address => ?_
    rw [mem_addresses, mem_addresses]
    constructor
    · rintro ⟨entry, hmem, haddress⟩
      exact ⟨entry, (List.mem_append.mp hmem).elim id fun hagain => h hagain, haddress⟩
    · rintro ⟨entry, hmem, haddress⟩
      exact ⟨entry, List.mem_append_left _ hmem, haddress⟩
  · cases hentries : pool.entries with
    | nil =>
      rw [hentries] at h
      rw [List.subset_nil.mp h, Pool.isEmpty, Pool.isEmpty, hentries]
      rfl
    | cons entry rest =>
      rw [Pool.isEmpty, Pool.isEmpty, hentries]
      rfl

/-- A pool is the index of first claims. It knows the addresses that some spot of its documents claims,
and each stands for the first spot that claims it, with the base in effect there. A reference that leads
somewhere leads there whatever documents come later. A document that comes again changes nothing. -/
theorem first_claim_counts (scope? : Joining) (documents : List Document) :
    (∀ address, address ∈ (empty.addAll documents scope?).addresses ↔
      ∃ spot ∈ documents.flatMap Document.spots, spot.Claims scope? address) ∧
    (∀ address node scope,
      (∃ entry, Pool.entry? (empty.addAll documents scope?) address = some entry ∧
        entry.node = node ∧ entry.scope = scope) ↔
      ∃ before spot after, documents.flatMap Document.spots = before ++ spot :: after ∧
        spot.Claims scope? address ∧ (∀ earlier ∈ before, ¬ earlier.Claims scope? address) ∧
          spot.node = node ∧ spot.base scope? = scope) ∧
    (∀ (join? : Joining) reference scope entry,
      (empty.addAll documents scope?).resolve reference scope join? = .ok entry →
        ∀ later, (empty.addAll (documents ++ later) scope?).resolve reference scope join? =
          .ok entry) ∧
    ∀ d ∈ documents, (empty.addAll documents scope?).Alike
      (empty.addAll (documents ++ [d]) scope?) := by
  refine ⟨fun address => mem_addresses_addAll, fun address node scope => ?_, ?_, ?_⟩
  · simp only [entry?_eq_some_iff]
    constructor
    · rintro ⟨entry, ⟨before, spot, after, hlist, hspot, hbefore, rfl⟩, rfl, rfl⟩
      exact ⟨before, spot, after, hlist, hspot, hbefore, rfl, (spot.base_around scope?).symm⟩
    · rintro ⟨before, spot, after, hlist, hspot, hbefore, rfl, rfl⟩
      exact ⟨_, ⟨before, spot, after, hlist, hspot, hbefore, rfl⟩, rfl, spot.base_around scope?⟩
  · intro join? reference scope entry h later
    rw [addAll_append]
    exact resolve_addAll h later scope?
  · intro d hd
    have hagain : d.entries scope? ⊆ (empty.addAll documents scope?).entries :=
      fun entry hentry => mem_entries_addAll.mpr ⟨d, hd, hentry⟩
    rw [addAll_append]
    exact alike_append _ hagain

end Pool

/-- A document with a plain name for its root. -/
def Document.named (name : DocumentName) : Document where
  name := name
  root := .object { id := some "#part" }
  base := Url.implicitBase

/-- Of two documents with one plain name the first one has it, and it does not matter when the first one
comes again. -/
theorem first_claim_counts_named :
    (∃ target, (Pool.empty.addAll [.named .main]).resolve "#part" Url.implicitBase = .ok target ∧
        target.node.place.document = .main ∧
        (Pool.empty.addAll [.named .main, .named (.extra "other")]).resolve "#part"
          Url.implicitBase = .ok target) ∧
      (Pool.empty.addAll [.named .main]).Alike
        (Pool.empty.addAll [.named .main, .named .main]) := by
  obtain ⟨_, _, hlater, hagain⟩ := Pool.first_claim_counts Url.scope? [.named .main]
  refine ⟨?_, hagain _ List.mem_cons_self⟩
  have hdocument : ((Pool.empty.addAll [.named .main]).resolve "#part"
      Url.implicitBase).toOption.map (fun target => target.node.place.document) =
        some .main := by decide
  cases htarget : (Pool.empty.addAll [.named .main]).resolve "#part" Url.implicitBase with
  | error reason =>
    rw [htarget] at hdocument
    cases hdocument
  | ok target =>
    rw [htarget] at hdocument
    exact ⟨target, rfl, Option.some.inj hdocument, hlater _ _ _ _ htarget [.named (.extra "other")]⟩

end Draft6
