import Draft6.Proofs.PointerParts
import Mathlib.Data.List.Induction

/-!
# Pointers and occurrences

A part of a value is told apart from equal parts by its occurrence: the positions that are gone down to
on the way to it. A pointer names members and elements by texts, and it leads to an occurrence.

Two pointers that lead to one occurrence are one, as long as neither writes the position of an element
with a plus sign. The decimal digits of a position name it, and so do these digits, with any zeros in
front of them, behind a plus sign. So each pointer with a sign shares its occurrence with one that has
none.
-/

namespace Draft6

/-! ## Digits -/

/-- A decimal digit is the digit of the number that it stands for. -/
theorem digitChar_of_isDigit {c : Char} (h : c.isDigit = true) :
    (c.toNat - '0'.toNat).digitChar = c := by
  obtain ⟨hlower, hupper⟩ := Char.isDigit_iff_toNat.mp h
  change 48 ≤ c.toNat at hlower
  change c.toNat ≤ 57 at hupper
  refine Char.toNat_inj.mp ?_
  change (c.toNat - 48).digitChar.toNat = c.toNat
  rw [Nat.toNat_digitChar_of_lt_ten (by omega)]
  omega

/-- Decimal digits without a zero in front are those of the number that they stand for. -/
theorem toDigits_ofDigitChars {cs : List Char} (hne : cs ≠ [])
    (hdigits : ∀ c ∈ cs, c.isDigit = true) (hzero : ∀ rest, cs = '0' :: rest → rest = []) :
    Nat.toDigits 10 (Nat.ofDigitChars 10 cs 0) = cs := by
  -- The last digit is the remainder, so digits are taken from the end.
  induction cs using List.reverseRecOn with
  | nil => exact absurd rfl hne
  | append_singleton front c ih =>
    rw [List.forall_mem_append, List.forall_mem_singleton] at hdigits
    have hten : c.toNat - '0'.toNat < 10 := by
      have := (Char.isDigit_iff_toNat.mp hdigits.2).2
      change c.toNat ≤ 57 at this
      change c.toNat - 48 < 10
      omega
    rw [Nat.ofDigitChars_append, Nat.ofDigitChars_cons, Nat.ofDigitChars_nil]
    by_cases hfront : front = []
    · rw [hfront, Nat.ofDigitChars_nil, Nat.mul_zero, Nat.zero_add, Nat.toDigits_of_lt_base hten,
        digitChar_of_isDigit hdigits.2, List.nil_append]
    · have hvalue := ih hfront hdigits.1 fun rest heq =>
        absurd (hzero (rest ++ [c]) (by rw [heq]; rfl)) (List.append_ne_nil_of_right_ne_nil _ nofun)
      have hpos : 0 < Nat.ofDigitChars 10 front 0 := by
        refine Nat.pos_of_ne_zero fun hnone => ?_
        rw [hnone, Nat.toDigits_zero] at hvalue
        cases hzero [c] (by rw [← hvalue]; rfl)
      rw [← Nat.toDigits_append_toDigits (by decide) hpos hten, hvalue,
        Nat.toDigits_of_lt_base hten, digitChar_of_isDigit hdigits.2]

/-- Decimal digits are those of the number that they stand for, but for zeros in front. -/
theorem exists_eq_replicate_append_toDigits {cs : List Char} (hne : cs ≠ [])
    (hdigits : ∀ c ∈ cs, c.isDigit = true) :
    ∃ zeros, cs = List.replicate zeros '0' ++ Nat.toDigits 10 (Nat.ofDigitChars 10 cs 0) := by
  induction cs with
  | nil => exact absurd rfl hne
  | cons c rest ih =>
    by_cases hzero : c = '0' ∧ rest ≠ []
    · obtain ⟨rfl, hrest⟩ := hzero
      obtain ⟨zeros, heq⟩ := ih hrest (List.forall_mem_cons.mp hdigits).2
      refine ⟨zeros + 1, ?_⟩
      rw [Nat.ofDigitChars_cons, List.replicate_succ, List.cons_append]
      exact congrArg ('0' :: ·) heq
    · refine ⟨0, (toDigits_ofDigitChars hne hdigits fun others heq => ?_).symm⟩
      obtain ⟨rfl, rfl⟩ := List.cons.inj heq
      exact not_not.mp fun hrest => hzero ⟨rfl, hrest⟩

namespace Pointer

/-! ## Texts of positions -/

/-- The number that digits stand for. -/
private theorem digits_eq_some_iff {cs : List Char} {i : Nat} :
    (if cs ≠ [] ∧ cs.all Char.isDigit then
        some (cs.foldl (fun n c => 10 * n + (c.toNat - '0'.toNat)) 0) else none) = some i ↔
      ∃ zeros, cs = List.replicate zeros '0' ++ Nat.toDigits 10 i := by
  rw [← Nat.ofDigitChars_eq_foldl, Option.ite_none_right_eq_some, Option.some.injEq]
  constructor
  · rintro ⟨⟨hne, hdigits⟩, rfl⟩
    exact exists_eq_replicate_append_toDigits hne (List.all_eq_true.mp hdigits)
  · rintro ⟨zeros, rfl⟩
    refine ⟨⟨List.append_ne_nil_of_right_ne_nil _ Nat.toDigits_ne_nil, ?_⟩, ?_⟩
    · rw [List.all_append, List.all_replicate, Bool.and_eq_true, List.all_eq_true]
      exact ⟨by simp, fun c hc => Nat.isDigit_of_mem_toDigits (by decide) (by decide) hc⟩
    · rw [Nat.ofDigitChars_append, Nat.ofDigitChars_replicate_zero, Nat.mul_zero,
        Nat.ofDigitChars_ten_toDigits]

/-- A segment names a position by its decimal digits, or by a plus sign with these digits behind it. Only
behind the sign there may be more zeros. -/
theorem index?_eq_some_iff {segment : String} {i : Nat} :
    index? segment = some i ↔ segment = toString i ∨
      ∃ zeros, segment.toList = '+' :: (List.replicate zeros '0' ++ (toString i).toList) := by
  have hchars : (toString i).toList = Nat.toDigits 10 i := by
    rw [Nat.toString_eq_ofList_toDigits, String.toList_ofList]
  constructor
  · intro h
    rw [index?] at h
    rw [← String.toList_inj, hchars]
    split at h
    · cases h
    · next rest hplus =>
      obtain ⟨zeros, heq⟩ := digits_eq_some_iff.mp h
      exact .inr ⟨zeros, by rw [hplus, heq]⟩
    · next hsingle hplus =>
      obtain ⟨zeros, heq⟩ := digits_eq_some_iff.mp h
      refine .inl ?_
      cases zeros with
      | zero => exact heq
      | succ zeros =>
        -- A zero in front of other digits is refused.
        obtain ⟨first, others, hdigits⟩ := List.exists_cons_of_ne_nil (Nat.toDigits_ne_nil
          (n := i) (b := 10))
        rw [List.replicate_succ, List.cons_append] at heq
        cases zeros with
        | zero => exact (hsingle first others (by rw [heq, hdigits]; rfl)).elim
        | succ zeros => exact (hsingle '0' _ (by rw [heq, List.replicate_succ]; rfl)).elim
  · rintro (rfl | ⟨zeros, heq⟩)
    · exact index?_toString i
    · rw [index?, heq]
      exact digits_eq_some_iff.mpr ⟨zeros, by rw [hchars]⟩

end Pointer

/-! ## Occurrences -/

namespace Json

/-- The parts that stand directly in a value, in their order. -/
def inner : Json → List Json
  | .array items => items
  | .object members => members.map Prod.snd
  | _ => []

/-- The part at an occurrence, which is the positions on the way to it from outside to inside. -/
def at? : List Nat → Json → Option Json
  | [], value => some value
  | i :: rest, value => value.inner[i]?.bind (at? rest)

end Json

namespace Pointer

/-- The position of the part that a segment names. -/
def position? (segment : String) : Json → Option Nat
  | .object members => members.findIdx? fun member => segment == member.1
  | .array items => (index? segment).filter fun i => i < items.length
  | _ => none

/-- The occurrence that segments lead to. -/
def occurrence? : List String → Json → Option (List Nat)
  | [], _ => some []
  | segment :: rest, value => do
    let i ← position? segment value
    let deeper ← value.inner[i]?.bind (occurrence? rest)
    pure (i :: deeper)

/-- Whether no segment writes the position of an element with a sign. -/
def Unsigned : List String → Json → Prop
  | [], _ => True
  | segment :: rest, value =>
    (∀ items, value = .array items → segment.toList.head? ≠ some '+') ∧
      ∀ part ∈ child? segment value, Unsigned rest part

/-- A segment leads to the part at the position that it names. -/
theorem child?_eq (segment : String) (value : Json) :
    child? segment value = (position? segment value).bind fun i => value.inner[i]? := by
  cases value with
  | null | bool | number | string => rfl
  | array items =>
    rw [child?, position?]
    cases index? segment with
    | none => rfl
    | some i =>
      rw [Option.bind_some, Option.filter_some]
      split
      · rfl
      · next hi => exact List.getElem?_eq_none (Nat.le_of_not_lt fun hlt => hi (decide_eq_true hlt))
  | object members =>
    rw [child?, position?, Json.inner]
    induction members with
    | nil => rfl
    | cons member rest ih =>
      rw [List.lookup_cons, List.findIdx?_cons]
      cases segment == member.1 with
      | true => rfl
      | false =>
        dsimp only
        rw [ih]
        cases rest.findIdx? fun member => segment == member.1 <;> rfl

/-- Segments lead to the part at the occurrence that they lead to. -/
theorem follow?_eq (segments : List String) (value : Json) :
    follow? segments value = (occurrence? segments value).bind fun o => value.at? o := by
  induction segments generalizing value with
  | nil => rfl
  | cons segment rest ih =>
    rw [follow?, child?_eq, occurrence?]
    cases position? segment value with
    | none => rfl
    | some i =>
      cases hpart : value.inner[i]? with
      | none => simp [hpart]
      | some part =>
        rw [Option.bind_some, hpart, Option.bind_some, ih part]
        cases hdeeper : occurrence? rest part with
        | none => simp [hpart, hdeeper]
        | some deeper => simp [hpart, hdeeper, Json.at?]

/-! ## One pointer for each occurrence -/

/-- A way goes down to the part at a position, and on from there. -/
theorem occurrence?_cons_eq_some_iff {segment : String} {rest : List String} {value : Json}
    {o : List Nat} : occurrence? (segment :: rest) value = some o ↔
      ∃ i part deeper, position? segment value = some i ∧ value.inner[i]? = some part ∧
        occurrence? rest part = some deeper ∧ o = i :: deeper := by
  simp only [occurrence?, Option.bind_eq_bind, Option.bind_eq_some_iff, Option.pure_def,
    Option.some.injEq]
  constructor
  · rintro ⟨i, hi, deeper, ⟨part, hpart, hdeeper⟩, rfl⟩
    exact ⟨i, part, deeper, hi, hpart, hdeeper, rfl⟩
  · rintro ⟨i, part, deeper, hi, hpart, hdeeper, rfl⟩
    exact ⟨i, hi, deeper, ⟨part, hpart, hdeeper⟩, rfl⟩

/-- Segments that name one position in a value are one when neither is a position with a sign. -/
theorem position?_inj {segment segment' : String} {value : Json} {i : Nat}
    (h : position? segment value = some i) (h' : position? segment' value = some i)
    (hsign : ∀ items, value = .array items → segment.toList.head? ≠ some '+')
    (hsign' : ∀ items, value = .array items → segment'.toList.head? ≠ some '+') :
    segment = segment' := by
  cases value with
  | null | bool | number | string => cases h
  | array items =>
    have hplain {s : String} (hs : s.toList.head? ≠ some '+')
        (hi : (index? s).filter (fun i => i < items.length) = some i) : s = toString i := by
      rcases index?_eq_some_iff.mp (Option.filter_eq_some_iff.mp hi).1 with heq | ⟨zeros, heq⟩
      · exact heq
      · exact absurd (by rw [heq]; rfl) hs
    exact (hplain (hsign items rfl) h).trans (hplain (hsign' items rfl) h').symm
  | object members =>
    obtain ⟨hi, hname, -⟩ := List.findIdx?_eq_some_iff_getElem.mp h
    obtain ⟨_, hname', -⟩ := List.findIdx?_eq_some_iff_getElem.mp h'
    exact (eq_of_beq hname).trans (eq_of_beq hname').symm

/-- Ways that lead to one occurrence are one when neither writes a position with a sign. -/
theorem segments_eq_of_occurrence? {p q : List String} {value : Json} {o : List Nat}
    (hp : occurrence? p value = some o) (hq : occurrence? q value = some o) (hpsign : Unsigned p value)
    (hqsign : Unsigned q value) : p = q := by
  induction p generalizing q value o with
  | nil =>
    obtain rfl := Option.some.inj hp
    cases q with
    | nil => rfl
    | cons segment rest =>
      obtain ⟨_, _, _, _, _, _, heq⟩ := occurrence?_cons_eq_some_iff.mp hq
      cases heq
  | cons segment rest ih =>
    obtain ⟨i, part, deeper, hi, hpart, hdeeper, rfl⟩ := occurrence?_cons_eq_some_iff.mp hp
    cases q with
    | nil => cases hq
    | cons segment' rest' =>
      obtain ⟨i', part', deeper', hi', hpart', hdeeper', heq⟩ := occurrence?_cons_eq_some_iff.mp hq
      obtain ⟨rfl, rfl⟩ := List.cons.inj heq
      obtain rfl : part = part' := Option.some.inj (hpart.symm.trans hpart')
      have hchild {s : String} (hs : position? s value = some i) : part ∈ child? s value := by
        rw [child?_eq, hs, Option.bind_some, hpart]
        rfl
      rw [position?_inj hi hi' hpsign.1 hqsign.1,
        ih hdeeper hdeeper' (hpsign.2 part (hchild hi)) (hqsign.2 part (hchild hi'))]

/-- Every position that is named in a value is named without a sign. -/
theorem exists_position?_unsigned {segment : String} {value : Json} {i : Nat}
    (h : position? segment value = some i) : ∃ plain, position? plain value = some i ∧
      ∀ items, value = .array items → plain.toList.head? ≠ some '+' := by
  cases value with
  | null | bool | number | string => cases h
  | object members => exact ⟨segment, h, nofun⟩
  | array items =>
    refine ⟨toString i, ?_, fun _ _ hhead => ?_⟩
    · rw [position?, index?_toString]
      exact Option.filter_eq_some_iff.mpr ⟨rfl, (Option.filter_eq_some_iff.mp h).2⟩
    · rw [Nat.toString_eq_ofList_toDigits, String.toList_ofList] at hhead
      have hdigit := Nat.isDigit_of_mem_toDigits (b := 10) (by decide) (by decide)
        (List.mem_of_mem_head? hhead)
      exact absurd hdigit (by decide)

/-- Every occurrence that segments lead to is one that segments without signs lead to. -/
theorem exists_occurrence?_unsigned {p : List String} {value : Json} {o : List Nat}
    (h : occurrence? p value = some o) : ∃ q, occurrence? q value = some o ∧ Unsigned q value := by
  induction p generalizing value o with
  | nil => exact ⟨[], h, trivial⟩
  | cons segment rest ih =>
    obtain ⟨i, part, deeper, hi, hpart, hdeeper, rfl⟩ := occurrence?_cons_eq_some_iff.mp h
    obtain ⟨plain, hplain, hsign⟩ := exists_position?_unsigned hi
    obtain ⟨q, hq, hqsign⟩ := ih hdeeper
    refine ⟨plain :: q, occurrence?_cons_eq_some_iff.mpr ⟨i, part, deeper, hplain, hpart, hq, rfl⟩,
      hsign, fun part' hpart' => ?_⟩
    rw [child?_eq, hplain, Option.bind_some, hpart] at hpart'
    obtain rfl := Option.some.inj hpart'
    exact hqsign

/-- A pointer finds what stands at the occurrence that it leads to. Different pointers lead to different
occurrences, as long as neither writes the position of an element with a sign, and one that does shares
its occurrence with a pointer that does not. A position is named by its decimal digits, or by a plus
sign with these digits behind it, before which there may be zeros. -/
theorem pointers_and_occurrences (value : Json) :
    (∀ p : Pointer, p.lookup? value = (occurrence? p.segments value).bind fun o => value.at? o) ∧
      (∀ p q : Pointer, p ≠ q → Unsigned p.segments value → Unsigned q.segments value →
        ∀ a b, p.lookup? value = some a → q.lookup? value = some b →
          ∃ o o', occurrence? p.segments value = some o ∧ occurrence? q.segments value = some o' ∧
            o ≠ o') ∧
      (∀ p : Pointer, ¬ Unsigned p.segments value → ∀ a, p.lookup? value = some a →
        ∃ q, q ≠ p ∧ Unsigned q.segments value ∧
          occurrence? q.segments value = occurrence? p.segments value) ∧
      ∀ segment i, index? segment = some i ↔ segment = toString i ∨
        ∃ zeros, segment.toList = '+' :: (List.replicate zeros '0' ++ (toString i).toList) := by
  have hlookup (p : Pointer) {a : Json} (h : p.lookup? value = some a) :
      ∃ o, occurrence? p.segments value = some o := by
    rw [lookup?, follow?_eq] at h
    obtain ⟨o, ho, _⟩ := Option.bind_eq_some_iff.mp h
    exact ⟨o, ho⟩
  refine ⟨fun p => follow?_eq p.segments value, ?_, ?_, fun _ _ => index?_eq_some_iff⟩
  · intro p q hne hp hq a b ha hb
    obtain ⟨o, ho⟩ := hlookup p ha
    obtain ⟨o', ho'⟩ := hlookup q hb
    refine ⟨o, o', ho, ho', ?_⟩
    rintro rfl
    exact hne (congrArg Pointer.mk (segments_eq_of_occurrence? ho ho' hp hq))
  · intro p hsigned a ha
    obtain ⟨o, ho⟩ := hlookup p ha
    obtain ⟨q, hq, hunsigned⟩ := exists_occurrence?_unsigned ho
    refine ⟨⟨q⟩, ?_, hunsigned, hq.trans ho.symm⟩
    rintro rfl
    exact hsigned hunsigned

/-- Of two equal elements each has its own occurrence, and one of its pointers writes a sign. -/
theorem pointers_and_occurrences_equal :
    let value := Json.array [.bool true, .bool true]
    let first : Pointer := ⟨["0"]⟩
    let second : Pointer := ⟨["1"]⟩
    let signed : Pointer := ⟨["+1"]⟩
    first ≠ second ∧ first.lookup? value = some (.bool true) ∧
      second.lookup? value = some (.bool true) ∧
      (∃ o o', occurrence? first.segments value = some o ∧
        occurrence? second.segments value = some o' ∧ o ≠ o') ∧
      signed.lookup? value = some (.bool true) ∧
      ∃ q, q ≠ signed ∧ Unsigned q.segments value ∧
        occurrence? q.segments value = occurrence? signed.segments value := by
  intro value first second signed
  have hne : first ≠ second := by decide
  have hunsigned (segment : String) (hhead : segment.toList.head? ≠ some '+') :
      Unsigned [segment] value := ⟨fun _ _ => hhead, fun _ _ => trivial⟩
  have hsigned : ¬ Unsigned signed.segments value := fun h => h.1 _ rfl rfl
  obtain ⟨_, hdifferent, hshared, _⟩ := pointers_and_occurrences value
  exact ⟨hne, rfl, rfl, hdifferent first second hne (hunsigned "0" (by decide))
    (hunsigned "1" (by decide)) _ _ rfl rfl, rfl, hshared signed hsigned _ rfl⟩

/-- An element with two pointers: the digits of its position, and these digits behind a plus sign and a
zero. -/
theorem element_of_two_pointers :
    let value := Json.array [.null, .bool true]
    let plain : Pointer := ⟨["1"]⟩
    let signed : Pointer := ⟨["+01"]⟩
    plain ≠ signed ∧ plain.lookup? value = some (.bool true) ∧
      signed.lookup? value = some (.bool true) ∧ occurrence? plain.segments value = some [1] ∧
      occurrence? signed.segments value = some [1] := by
  intro value plain signed
  exact ⟨by decide, rfl, rfl, rfl, rfl⟩

end Pointer

end Draft6
