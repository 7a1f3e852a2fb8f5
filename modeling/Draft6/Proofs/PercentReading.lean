import Draft6.Proofs.TextReading

/-!
# Texts with percent signs

A percent sign with two digits behind it reads as a byte, and everything else reads as itself. To write
characters as bytes changes nothing of what is read, whether or not the text has percent signs already,
as long as percent signs and digits are left as they are.

A text reads as itself exactly when no percent sign in it has two digits behind it. Otherwise three
characters go for each such byte, and a byte gives at most two.
-/

namespace Draft6

namespace Percent

/-- The byte that the two digits in front of a text stand for, and what follows them. -/
def byte? : List Char → Option (UInt8 × List Char)
  | a :: b :: rest =>
    match Hex.value? a, Hex.value? b with
    | some high, some low => some (UInt8.ofNat (16 * high + low), rest)
    | _, _ => none
  | _ => none

/-- Whether no percent sign in a text has two digits behind it. -/
def Plain (cs : List Char) : Prop := ∀ before rest, cs = before ++ '%' :: rest → byte? rest = none

/-- What follows two digits is shorter by them. -/
theorem length_of_byte? {cs rest : List Char} {b : UInt8} (h : byte? cs = some (b, rest)) :
    cs.length = rest.length + 2 := by
  rw [byte?.eq_def] at h
  split at h
  · split at h
    · obtain ⟨-, rfl⟩ := Prod.mk.inj (Option.some.inj h)
      rfl
    · cases h
  · cases h

/-- A percent sign reads as the byte that two digits behind it stand for, and else as itself. -/
theorem decodeBytes_percent (cs : List Char) :
    decodeBytes ('%' :: cs) =
      match byte? cs with
      | some (b, rest) => b :: decodeBytes rest
      | none => String.utf8EncodeChar '%' ++ decodeBytes cs := by
  match cs with
  | [] => rfl
  | [a] => rfl
  | a :: b :: rest =>
    rw [decodeBytes, byte?]
    cases Hex.value? a with
    | none => rfl
    | some high => cases Hex.value? b <;> rfl

/-- A text without written bytes reads as the bytes of its characters. -/
theorem decodeBytes_of_plain {cs : List Char} (h : Plain cs) : decodeBytes cs = Utf8.encode cs := by
  induction cs with
  | nil => rfl
  | cons c cs ih =>
    have hcs : Plain cs := fun before rest heq => h (c :: before) rest (by rw [heq]; rfl)
    rw [Utf8.encode, List.flatMap_cons]
    by_cases hc : c = '%'
    · subst hc
      rw [decodeBytes_percent, h [] cs rfl]
      exact congrArg (String.utf8EncodeChar '%' ++ ·) (ih hcs)
    · rw [decodeBytes_of_ne hc]
      exact congrArg (String.utf8EncodeChar c ++ ·) (ih hcs)

/-! ## Reading what was written -/

/-- A hexadecimal digit is an ASCII character. -/
theorem toNat_lt_of_value? {c : Char} {value : Nat} (h : Hex.value? c = some value) :
    c.toNat < 0x80 := by
  have hle {d : Char} (hd : d.toNat < 0x7F) (hc : c ≤ d) : c.toNat < 0x80 := by
    have : c.toNat ≤ d.toNat := hc
    omega
  rw [Hex.value?] at h
  split at h
  · next hrange => exact hle (by decide) hrange.2
  · split at h
    · next hrange => exact hle (by decide) hrange.2
    · split at h
      · next hrange => exact hle (by decide) hrange.2
      · cases h

/-- No byte is written where no digit stands. -/
theorem byte?_of_fst {a : Char} (ha : Hex.value? a = none) (cs : List Char) :
    byte? (a :: cs) = none := by
  cases cs with
  | nil => rfl
  | cons b rest => rw [byte?, ha]

/-- No byte is written where one digit stands alone. -/
theorem byte?_of_snd {b : Char} (hb : Hex.value? b = none) (a : Char) (cs : List Char) :
    byte? (a :: b :: cs) = none := by
  rw [byte?, hb]
  cases Hex.value? a <;> rfl

/-- Whether percent signs and digits are no members of a set. -/
structure Spares (set : Char → Bool) : Prop where
  percent : set '%' = false
  digits : ∀ c, (Hex.value? c).isSome = true → set c = false

section Encode

variable {set : Char → Bool}

/-- What is written for a character begins with the character or with a percent sign. -/
theorem exists_encodeChar_eq_cons (set : Char → Bool) (c : Char) :
    ∃ first rest, encodeChar set c = first :: rest ∧ (first = c ∧ rest = [] ∨ first = '%') := by
  rw [encodeChar]
  split
  · exact ⟨c, [], rfl, .inl ⟨rfl, rfl⟩⟩
  · obtain ⟨b, bytes, hbytes⟩ := List.exists_cons_of_ne_nil (String.utf8EncodeChar_ne_nil (c := c))
    rw [hbytes, List.flatMap_cons]
    exact ⟨'%', _, rfl, .inr rfl⟩

/-- What is written for a character that is no digit begins with none. -/
theorem exists_encodeChar_of_value?_eq_none (set : Char → Bool) {c : Char}
    (h : Hex.value? c = none) :
    ∃ first rest, encodeChar set c = first :: rest ∧ Hex.value? first = none := by
  obtain ⟨first, rest, heq, ⟨rfl, -⟩ | rfl⟩ := exists_encodeChar_eq_cons set c
  · exact ⟨first, rest, heq, h⟩
  · exact ⟨'%', rest, heq, by decide⟩

/-- A digit is written as it is. -/
theorem Spares.encodeChar_digit (hset : Spares set) {c : Char} {value : Nat}
    (h : Hex.value? c = some value) : encodeChar set c = [c] :=
  if_pos ⟨toNat_lt_of_value? h, hset.digits c (by rw [h]; rfl)⟩

/-- Digits in front of a text stay there, and no others come there. -/
theorem Spares.byte?_encode (hset : Spares set) (cs : List Char) :
    byte? (encode set cs) = (byte? cs).map fun found => (found.1, encode set found.2) := by
  match cs with
  | [] => rfl
  | [a] =>
    rw [encode, List.flatMap_singleton]
    obtain ⟨first, rest, heq, ⟨rfl, rfl⟩ | rfl⟩ := exists_encodeChar_eq_cons set a
    · rw [heq]
      rfl
    · rw [heq]
      exact byte?_of_fst (by decide) rest
  | a :: b :: rest =>
    rw [encode, List.flatMap_cons, List.flatMap_cons]
    cases ha : Hex.value? a with
    | none =>
      obtain ⟨first, more, heq, hfirst⟩ := exists_encodeChar_of_value?_eq_none set ha
      rw [heq, List.cons_append, byte?_of_fst hfirst, byte?_of_fst ha]
      rfl
    | some high =>
      rw [hset.encodeChar_digit ha, List.singleton_append]
      cases hb : Hex.value? b with
      | none =>
        obtain ⟨first, more, heq, hfirst⟩ := exists_encodeChar_of_value?_eq_none set hb
        rw [heq, List.cons_append, byte?_of_snd hfirst, byte?_of_snd hb]
        rfl
      | some low =>
        rw [hset.encodeChar_digit hb, List.singleton_append, byte?, byte?, ha, hb]
        rfl

/-- To write characters as bytes changes nothing of what is read. -/
theorem Spares.decodeBytes_encode (hset : Spares set) (cs : List Char) :
    decodeBytes (encode set cs) = decodeBytes cs := by
  -- A percent sign and its digits go at once, so the induction is on the length.
  induction hn : cs.length using Nat.strongRecOn generalizing cs with
  | _ n ih =>
    subst hn
    cases cs with
    | nil => rfl
    | cons c cs =>
      have hcs := ih cs.length (Nat.lt_succ_self _) cs rfl
      rw [encode, List.flatMap_cons]
      change decodeBytes (encodeChar set c ++ encode set cs) = _
      by_cases hc : c = '%'
      · subst hc
        have hsign : encodeChar set '%' = ['%'] := if_pos ⟨by decide, hset.percent⟩
        rw [hsign, List.singleton_append, decodeBytes_percent, decodeBytes_percent,
          hset.byte?_encode]
        cases hbyte : byte? cs with
        | none => exact congrArg (String.utf8EncodeChar '%' ++ ·) hcs
        | some found =>
          have hshorter := length_of_byte? hbyte
          exact congrArg (found.1 :: ·) (ih found.2.length (by rw [List.length_cons]; omega) _ rfl)
      · rw [decodeBytes_of_ne hc, encodeChar]
        split
        · rw [List.singleton_append, decodeBytes_of_ne hc, hcs]
        · rw [decodeBytes_encodeBytes, hcs]

end Encode

end Percent

/-! ## Which texts read as themselves -/

namespace Utf8

/-- Whether the bounds of the next byte are within those of the bytes that begin no character. -/
def Partial.Bounded (p : Partial) : Prop := 0x80 ≤ p.lower ∧ p.upper ≤ 0xBF

/-- A byte that begins a text gives a character or brings one under way. -/
theorem start_cases (b : Nat) :
    (∃ c, start b = ([c], none)) ∨ ∃ p, start b = ([], some p) ∧ p.Bounded := by
  unfold start
  repeat' split
  all_goals first | exact .inl ⟨_, rfl⟩ | exact .inr ⟨_, rfl, by simp [Partial.Bounded]⟩

/-- How many replacement characters the character under way can still cost. -/
def pending (state : Option Partial) : Nat := state.toList.length

@[simp] theorem pending_none : pending none = 0 := rfl

@[simp] theorem pending_some (p : Partial) : pending (some p) = 1 := rfl

/-- One byte gives one character at most, besides the replacement for the character under way. -/
theorem exists_decodeFrom_cons {state : Option Partial} (hstate : ∀ p ∈ state, p.Bounded)
    (b : UInt8) : ∃ cs next, (∀ p ∈ next, Partial.Bounded p) ∧
      cs.length + pending next ≤ pending state + 1 ∧
        ∀ rest, decodeFrom state (b :: rest) = cs ++ decodeFrom next rest := by
  have hstart : (∀ p ∈ (start b.toNat).2, p.Bounded) ∧
      (start b.toNat).1.length + pending (start b.toNat).2 ≤ 1 := by
    rcases start_cases b.toNat with ⟨c, hc⟩ | ⟨p, hp, hbounded⟩
    · rw [hc]
      exact ⟨by rintro _ ⟨⟩, Nat.le_refl 1⟩
    · rw [hp]
      exact ⟨fun q hq => Option.some.inj hq ▸ hbounded, Nat.le_refl 1⟩
  cases state with
  | none => exact ⟨_, _, hstart.1, hstart.2, decodeFrom_none_cons b⟩
  | some p =>
    refine ⟨(p.next b.toNat).1, (p.next b.toNat).2, ?_, ?_, decodeFrom_some_cons p b⟩
    · rw [Partial.next]
      split
      · dsimp only
        split
        · rintro _ ⟨⟩
        · intro q hq
          obtain rfl := Option.some.inj hq
          exact ⟨Nat.le_refl _, Nat.le_refl _⟩
      · exact hstart.1
    · rw [Partial.next]
      split
      · dsimp only
        split <;> simp
      · have hone := hstart.2
        simp only [List.length_cons, pending_some]
        omega

/-- The first byte of a character is none of those that go on with one. -/
theorem exists_utf8EncodeChar_eq_cons (c : Char) :
    ∃ b bytes, String.utf8EncodeChar c = b :: bytes ∧ (b.toNat < 0x80 ∨ 0xBF < b.toNat) := by
  have hvalid : c.val.toNat < 0x110000 := by
    have : c.val.toNat < 0xD800 ∨ 0xDFFF < c.val.toNat ∧ c.val.toNat < 0x110000 := c.valid
    omega
  rw [String.utf8EncodeChar]
  split
  · refine ⟨_, _, rfl, .inl ?_⟩
    rw [toNat_ofNat_of_lt (by omega)]
    omega
  · split
    · refine ⟨_, _, rfl, .inr ?_⟩
      rw [toNat_ofNat_of_lt (by omega)]
      omega
    · split
      · refine ⟨_, _, rfl, .inr ?_⟩
        rw [toNat_ofNat_of_lt (by omega)]
        omega
      · refine ⟨_, _, rfl, .inr ?_⟩
        rw [toNat_ofNat_of_lt (by omega)]
        omega

/-- A whole character ends the one under way. -/
theorem decodeFrom_some_utf8EncodeChar {p : Partial} (hp : p.Bounded) (c : Char)
    (rest : List UInt8) : decodeFrom (some p) (String.utf8EncodeChar c ++ rest) =
      replacement :: c :: decodeFrom none rest := by
  rw [← decodeFrom_utf8EncodeChar]
  obtain ⟨b, bytes, hbytes, hfirst⟩ := exists_utf8EncodeChar_eq_cons c
  have hout : ¬ (p.lower ≤ b.toNat ∧ b.toNat ≤ p.upper) := by
    obtain ⟨hlower, hupper⟩ := hp
    omega
  have hnext : p.next b.toNat = (replacement :: (start b.toNat).1, (start b.toNat).2) := if_neg hout
  rw [hbytes, List.cons_append, decodeFrom_some_cons, hnext]
  rfl

end Utf8

namespace Percent

/-- A text in front of which nothing is written is as plain as the rest of it. -/
theorem plain_cons_iff {c : Char} {cs : List Char} (h : c = '%' → byte? cs = none) :
    Plain (c :: cs) ↔ Plain cs := by
  constructor
  · exact fun hplain before rest heq => hplain (c :: before) rest (by rw [heq]; rfl)
  · intro hplain before rest heq
    cases before with
    | nil =>
      obtain ⟨rfl, rfl⟩ := List.cons.inj heq
      exact h rfl
    | cons first before => exact hplain before rest (List.cons.inj heq).2

/-- A text reads as no more characters than it has, and as fewer when a byte is written in it. -/
theorem length_decodeFrom_le (state : Option Utf8.Partial) (hstate : ∀ p ∈ state, p.Bounded)
    (cs : List Char) :
    (Utf8.decodeFrom state (decodeBytes cs)).length ≤ cs.length + Utf8.pending state ∧
      (¬ Plain cs →
        (Utf8.decodeFrom state (decodeBytes cs)).length < cs.length + Utf8.pending state) := by
  induction hn : cs.length using Nat.strongRecOn generalizing cs state with
  | _ n ih =>
    subst hn
    cases cs with
    | nil =>
      refine ⟨by cases state <;> exact Nat.le_refl _, fun hplain => absurd ?_ hplain⟩
      exact fun before rest heq => absurd heq (by simp)
    | cons c cs =>
      by_cases hc : c = '%' → byte? cs = none
      · have hread : decodeBytes (c :: cs) = String.utf8EncodeChar c ++ decodeBytes cs := by
          by_cases hsign : c = '%'
          · subst hsign
            rw [decodeBytes_percent, hc rfl]
          · exact decodeBytes_of_ne hsign cs
        have hrest := ih cs.length (Nat.lt_succ_self _) none nofun cs rfl
        rw [hread, plain_cons_iff hc]
        cases state with
        | none =>
          simp only [Utf8.decodeFrom_utf8EncodeChar, List.length_cons, Utf8.pending_none] at hrest ⊢
          exact ⟨by omega, fun hplain => by have := hrest.2 hplain; omega⟩
        | some p =>
          simp only [Utf8.decodeFrom_some_utf8EncodeChar (hstate p rfl), List.length_cons,
            Utf8.pending_none, Utf8.pending_some] at hrest ⊢
          exact ⟨by omega, fun hplain => by have := hrest.2 hplain; omega⟩
      · obtain ⟨rfl, hbyte⟩ := Classical.not_imp.mp hc
        obtain ⟨⟨b, rest⟩, hfound⟩ := Option.ne_none_iff_exists'.mp hbyte
        obtain ⟨out, next, hnext, hcost, hout⟩ := Utf8.exists_decodeFrom_cons hstate b
        have hshorter := length_of_byte? hfound
        have hrest := (ih rest.length (by rw [List.length_cons]; omega) next hnext rest rfl).1
        have hread : decodeBytes ('%' :: cs) = b :: decodeBytes rest := by
          rw [decodeBytes_percent, hfound]
        rw [hread, hout, List.length_append, List.length_cons]
        omega

/-- A text reads as itself exactly when no byte is written in it. -/
theorem decode_eq_self_iff {cs : List Char} : decode cs = cs ↔ Plain cs := by
  constructor
  · intro h
    by_contra hplain
    have hlt := (length_decodeFrom_le none nofun cs).2 hplain
    change (decode cs).length < _ at hlt
    rw [h] at hlt
    exact absurd hlt (Nat.lt_irrefl _)
  · intro hplain
    rw [decode, decodeBytes_of_plain hplain, Utf8.decode_encode]

/-- No text reads as more characters than it has. -/
theorem length_decode_le (cs : List Char) : (decode cs).length ≤ cs.length :=
  (length_decodeFrom_le none nofun cs).1

end Percent

end Draft6
