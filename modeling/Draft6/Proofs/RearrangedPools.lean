import Draft6.Proofs.ReorderedReading
import Draft6.Proofs.Standing

/-!
# Pools of rearranged schemas

The schemas in a rearranged document stand at the same places, under the same bases, and claim the same
addresses. Only their order differs, so which of two claims on one address comes first may differ as
well. Where no address is claimed by two nodes this does not matter: every address and every place leads
to answering entries.
-/

namespace Draft6

section Lists

variable {α β : Type} {R : α → β → Prop} {xs : List α} {ys : List β}

/-- Every element of a list has one that answers to it in a list that is alike. -/
theorem Alike.exists_of_mem (h : Alike true R xs ys) {a : α} (ha : a ∈ xs) : ∃ b ∈ ys, R a b := by
  obtain ⟨zs, hrelated, hshuffled⟩ := h
  obtain ⟨i, hi, rfl⟩ := List.mem_iff_getElem.mp ha
  have hi' : i < zs.length := hrelated.length_eq ▸ hi
  exact ⟨zs[i], (List.Perm.mem_iff hshuffled).mp (List.getElem_mem hi'), hrelated.get hi hi'⟩

/-- Every element of a list that is alike answers to one of the first list. -/
theorem Alike.exists_of_mem_right (h : Alike true R xs ys) {b : β} (hb : b ∈ ys) :
    ∃ a ∈ xs, R a b := by
  obtain ⟨zs, hrelated, hshuffled⟩ := h
  obtain ⟨i, hi', rfl⟩ := List.mem_iff_getElem.mp ((List.Perm.mem_iff hshuffled).mpr hb)
  have hi : i < xs.length := hrelated.length_eq ▸ hi'
  exact ⟨xs[i], List.getElem_mem hi, hrelated.get hi hi'⟩

/-- A search that only one element answers finds answering elements in lists that are alike. -/
theorem rel_find? (h : Alike true R xs ys) {p : α → Bool} {q : β → Bool}
    (hpq : ∀ a b, R a b → p a = q b)
    (honce : ∀ a ∈ xs, ∀ a' ∈ xs, p a = true → p a' = true → a = a') :
    Option.Rel R (xs.find? p) (ys.find? q) := by
  cases hfound : xs.find? p with
  | none =>
    have hnone : ys.find? q = none := List.find?_eq_none.mpr fun b hb => by
      obtain ⟨a, ha, hab⟩ := h.exists_of_mem_right hb
      rw [← hpq a b hab]
      exact List.find?_eq_none.mp hfound a ha
    rw [hnone]
    exact .none
  | some a =>
    have ha := List.mem_of_find?_eq_some hfound
    have hp := List.find?_some hfound
    obtain ⟨b, hb, hab⟩ := h.exists_of_mem ha
    cases hfound' : ys.find? q with
    | none => exact absurd (hpq a b hab ▸ hp) (List.find?_eq_none.mp hfound' b hb)
    | some b' =>
      obtain ⟨a', ha', hab'⟩ := h.exists_of_mem_right (List.mem_of_find?_eq_some hfound')
      have hp' : p a' = true := (hpq a' b' hab').trans (List.find?_some hfound')
      exact .some (honce a' ha' a ha hp' hp ▸ hab')

end Lists

/-- Whether two nodes stand at one place and have rearranged schemas. -/
structure Node.Rearranged (node node' : Node) : Prop where
  place : node.place = node'.place
  schema : node.schema.Rearranged node'.schema

/-- Whether two entries are for rearranged nodes, with the same base and the same addresses. -/
structure Entry.Rearranged (entry entry' : Entry) : Prop where
  node : entry.node.Rearranged entry'.node
  scope : entry.scope = entry'.scope
  addresses : entry.addresses = entry'.addresses

namespace Schema

/-- Rearranged schemas have the same identifier. -/
theorem RearrangedWithin.id?_eq {levels : Nat} {s s' : Schema} (h : s.RearrangedWithin levels s') :
    s.id? = s'.id? := by
  cases levels with
  | zero => cases h
  | succ levels =>
    cases s with
    | boolean value =>
      obtain rfl : s' = .boolean value := h
      rfl
    | object o =>
      obtain ⟨o', rfl, ho⟩ := h
      exact ho.id

/-- The entry of a schema answers to that of a rearranged one that stands in the same place. -/
theorem RearrangedWithin.entry {levels : Nat} {s s' : Schema} (h : s.RearrangedWithin levels s')
    (scope? : Joining) (document : Url) (place : Place) (around : Resource) :
    (Entry.of ⟨place, s⟩ document around scope?).Rearranged
      (Entry.of ⟨place, s'⟩ document around scope?) where
  node := ⟨rfl, levels, h⟩
  scope := rfl
  addresses := by
    change Node.addresses _ _ _ _ = Node.addresses _ _ _ _
    rw [Node.addresses, Node.addresses]
    dsimp only
    rw [h.id?_eq]

/-- The entries of rearranged schemas that stand in the same place answer to each other, in some
order. -/
theorem RearrangedWithin.entriesBy {levels : Nat} {s s' : Schema} (h : s.RearrangedWithin levels s')
    (scope? : Joining) (document : Url) (place : Place) (around : Resource) :
    Alike true Entry.Rearranged (s.entriesBy scope? document place around)
      (s'.entriesBy scope? document place around) := by
  have hentry := h.entry scope? document place around
  induction levels generalizing s s' place around with
  | zero => cases h
  | succ levels ih =>
    cases s with
    | boolean value =>
      obtain rfl : s' = .boolean value := h
      exact alike_singleton hentry
    | object o =>
      have hid := h.id?_eq
      obtain ⟨o', rfl, ho⟩ := h
      rw [entriesBy_object, entriesBy_object]
      refine Alike.cons hentry (ho.children.flatMap fun child child' hpair => ?_)
      have hinside : (Node.mk place (.object o)).inside around scope? =
          (Node.mk place (.object o')).inside around scope? := congrArg (around.enter · scope?) hid
      obtain ⟨segments, s⟩ := child
      obtain ⟨_, s'⟩ := child'
      obtain ⟨rfl, hs⟩ := hpair
      rw [hinside]
      exact ih hs _ _ (hs.entry _ _ _ _)

end Schema

/-! ## What is found -/

namespace Pool

/-- Whether no address is claimed by two different nodes. -/
def Unambiguous (pool : Pool) : Prop :=
  ∀ entry ∈ pool.entries, ∀ entry' ∈ pool.entries, ∀ address ∈ entry.addresses,
    address ∈ entry'.addresses → entry.node.place = entry'.node.place

/-- Whether two pools hold the same documents but for the order of named parts, and neither the order of
entries nor the order of claims can tell them apart. -/
structure Rearranged (pool pool' : Pool) : Prop where
  entries : Draft6.Alike true Entry.Rearranged pool.entries pool'.entries
  places : (pool.entries.map fun entry => entry.node.place).Nodup
  unambiguous : pool.Unambiguous

variable {pool pool' : Pool}

/-- An address leads to answering entries. -/
theorem Rearranged.entry? (h : pool.Rearranged pool') (address : String) :
    Option.Rel Entry.Rearranged (pool.entry? address) (pool'.entry? address) := by
  refine rel_find? h.entries (fun entry entry' hentry => by rw [hentry.addresses]) ?_
  intro entry hentry entry' hentry' haddress haddress'
  rw [List.contains_iff_mem] at haddress haddress'
  exact List.inj_on_of_nodup_map h.places hentry hentry'
    (h.unambiguous entry hentry entry' hentry' address haddress haddress')

/-- The base in effect where a node stands is the same. -/
theorem Rearranged.scopeOf?_eq (h : pool.Rearranged pool') (place : Place) :
    pool.scopeOf? place = pool'.scopeOf? place := by
  have hfound : Option.Rel Entry.Rearranged
      (pool.entries.find? fun entry => entry.node.place = place)
      (pool'.entries.find? fun entry => entry.node.place = place) := by
    refine rel_find? h.entries (fun entry entry' hentry => by rw [hentry.node.place]) ?_
    intro entry hentry entry' hentry' hplace hplace'
    exact List.inj_on_of_nodup_map h.places hentry hentry'
      ((of_decide_eq_true hplace).trans (of_decide_eq_true hplace').symm)
  rw [scopeOf?, scopeOf?]
  generalize pool.entries.find? _ = found, pool'.entries.find? _ = found' at hfound ⊢
  cases hfound with
  | none => rfl
  | some hentry => exact congrArg some hentry.scope

/-- A reference fails alike, or leads to answering entries. -/
theorem Rearranged.resolve (h : pool.Rearranged pool') (reference : String) (scope : Url) :
    (∃ error, pool.resolve reference scope = .error error ∧
        pool'.resolve reference scope = .error error) ∨
      ∃ target target', pool.resolve reference scope = .ok target ∧
        pool'.resolve reference scope = .ok target' ∧ target.Rearranged target' := by
  simp only [Pool.resolve]
  cases Url.join? scope reference with
  | error reason => exact .inl ⟨_, rfl, rfl⟩
  | ok target =>
    have hfound := h.entry? (Address.ofUrl target)
    dsimp only
    generalize pool.entry? _ = found, pool'.entry? _ = found' at hfound ⊢
    cases hfound with
    | none => exact .inl ⟨_, rfl, rfl⟩
    | some hentry => exact .inr ⟨_, _, rfl, rfl, hentry⟩

end Pool

end Draft6
