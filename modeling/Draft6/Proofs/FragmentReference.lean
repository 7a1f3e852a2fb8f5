import Draft6.Address
import Draft6.Proofs.TextReading
import Mathlib.Data.List.DropRight

/-!
# References to fragments

A reference that is a number sign and a fragment keeps all of the base but its fragment. When the
fragment is the text of a pointer, with percent signs and what a URL would rewrite written as bytes,
the URL that comes out stands for the address of this pointer in the document of the base.
-/

namespace Draft6

namespace Percent

/-- What holds of the characters that stay, of the percent sign and of the digits, holds of all
characters of a written text. -/
theorem forall_mem_encode {P : Char → Prop} {set : Char → Bool} {cs : List Char}
    (hplain : ∀ c ∈ cs, c.toNat < 0x80 → set c = false → P c) (hsign : P '%')
    (hdigit : ∀ d : Fin 16, P (Hex.upper d)) : ∀ c ∈ encode set cs, P c := by
  have hupper (n : Nat) : P (Hex.upper n) := by
    rw [← Hex.upper_mod]
    exact hdigit ⟨n % 16, Nat.mod_lt n (by decide)⟩
  intro c hc
  obtain ⟨d, hd, hc⟩ := List.mem_flatMap.mp hc
  rw [encodeChar] at hc
  split at hc
  · next hstays =>
    obtain rfl := List.mem_singleton.mp hc
    exact hplain c hd hstays.1 hstays.2
  · obtain ⟨b, _, hc⟩ := List.mem_flatMap.mp hc
    rcases List.mem_cons.mp hc with rfl | hc
    · exact hsign
    · rcases List.mem_cons.mp hc with rfl | hc
      · exact hupper _
      · obtain rfl := List.mem_singleton.mp hc
        exact hupper _

/-- A text of characters that stay is written as it is. -/
theorem encode_of_forall {set : Char → Bool} {cs : List Char}
    (h : ∀ c ∈ cs, c.toNat < 0x80 ∧ set c = false) : encode set cs = cs := by
  induction cs with
  | nil => rfl
  | cons c cs ih =>
    have hcs := ih fun d hd => h d (List.mem_cons_of_mem c hd)
    rw [encode, List.flatMap_cons, encodeChar, if_pos (h c List.mem_cons_self)]
    exact congrArg (c :: ·) hcs

end Percent

namespace Url

/-- Whether a character stays as it is in a fragment. -/
def InFragment (c : Char) : Prop := c.toNat < 0x80 ∧ fragmentSet c = false

/-- A character that stays in a fragment is no blank and no control character. -/
theorem InFragment.not_le_blank {c : Char} (h : InFragment c) : ¬ c ≤ ' ' := by
  intro hle
  have hsmall : c.toNat ≤ 0x20 := hle
  have hset : fragmentSet c = false := h.2
  simp only [fragmentSet, controlSet, Bool.or_eq_false_iff, decide_eq_false_iff_not] at hset
  have hblank : c = ' ' := Char.toNat_inj.mp (by change c.toNat = 0x20; omega)
  rw [hblank] at hset
  exact absurd hset.2 (by decide)

/-- A character that stays in a fragment is no break. -/
theorem InFragment.not_break {c : Char} (h : InFragment c) : isBreak c = false := by
  have hne (d : Char) (hd : d ≤ ' ') : c ≠ d := by
    rintro rfl
    exact h.not_le_blank hd
  simp only [isBreak, hne '\t' (by decide), hne '\n' (by decide), hne '\r' (by decide),
    decide_false, Bool.or_self]

namespace Reference

/-- A text whose characters are no blanks and no control characters has none at its ends. -/
theorem trim_of_forall {cs : List Char} (h : ∀ c ∈ cs, ¬ c ≤ ' ') : trim cs = cs := by
  have hfront (ds : List Char) (hds : ∀ c ∈ ds, ¬ c ≤ ' ') : ds.dropWhile (· ≤ ' ') = ds := by
    rw [List.dropWhile_eq_self_iff]
    intro hlength hblank
    exact hds _ (List.getElem_mem hlength) (of_decide_eq_true hblank)
  rw [trim, hfront cs h, hfront _ fun c hc => h c (List.mem_reverse.mp hc), List.reverse_reverse]

/-- A text whose first character is no blank and no control character keeps it. -/
theorem exists_trim_cons {c : Char} (h : ¬ c ≤ ' ') (cs : List Char) :
    ∃ ds, trim (c :: cs) = c :: ds := by
  have hfront (ds : List Char) : (c :: ds).dropWhile (· ≤ ' ') = c :: ds :=
    List.dropWhile_cons_of_neg (by simpa using h)
  rw [trim, hfront, List.reverse_cons, List.dropWhile_append]
  split
  · exact ⟨[], by rw [hfront]; rfl⟩
  · exact ⟨_, by rw [List.reverse_append]; rfl⟩

/-- A text that begins with a number sign is read as some fragment. -/
theorem exists_read_fragment {text : String} (h : text.toList.head? = some '#') :
    ∃ cs, read text = ⟨none, [], none, some cs⟩ := by
  obtain ⟨cs, hcs⟩ := List.head?_eq_some_iff.mp h
  obtain ⟨ds, hds⟩ := exists_trim_cons (by decide : ¬ '#' ≤ ' ') cs
  have hcut : Text.cut '#' ('#' :: ds) = ([], some ds) := by rw [Text.cut, if_pos rfl]
  refine ⟨withoutBreaks ds, ?_⟩
  rw [read, hcs, hds, hcut]
  rfl

/-- A number sign and a fragment are read as the fragment. -/
theorem read_fragment {cs : List Char} (h : ∀ c ∈ cs, InFragment c) :
    read ("#" ++ String.ofList cs) = ⟨none, [], none, some cs⟩ := by
  have hlist : ("#" ++ String.ofList cs).toList = '#' :: cs := by
    rw [String.toList_append]
    exact congrArg ('#' :: ·) String.toList_ofList
  have hblank : ∀ c ∈ '#' :: cs, ¬ c ≤ ' ' := by
    intro c hc
    rcases List.mem_cons.mp hc with rfl | hc
    · decide
    · exact (h c hc).not_le_blank
  have hbreaks : withoutBreaks cs = cs :=
    List.filter_eq_self.mpr fun c hc => by rw [(h c hc).not_break]; rfl
  have hcut : Text.cut '#' ('#' :: cs) = ([], some cs) := by rw [Text.cut, if_pos rfl]
  rw [read, hlist, trim_of_forall hblank, hcut]
  change Reference.mk none [] none (some (withoutBreaks cs)) = _
  rw [hbreaks]

end Reference

/-- A fragment joined to a base keeps all of the base but its fragment. -/
theorem join?_fragment (base : Url) {cs : List Char} (h : ∀ c ∈ cs, InFragment c) :
    base.join? ("#" ++ String.ofList cs) =
      .ok { base with fragment := some (String.ofList cs) } := by
  have hencode : Percent.encode fragmentSet cs = cs := Percent.encode_of_forall h
  rw [join?, Reference.read_fragment h]
  change Except.ok (Reference.finish ⟨none, [], none, some cs⟩ base) = _
  rw [Reference.finish]
  simp only [Option.map_some, encodeFragment, hencode]

/-- A path that is mere text stays so without the blanks at its end. -/
theorem head?_trimBlanksRight {s : String} (h : s.toList.head? ≠ some '/') :
    (trimBlanksRight s).toList.head? ≠ some '/' := by
  have hprefix : (trimBlanksRight s).toList <+: s.toList := by
    rw [trimBlanksRight, String.toList_ofList]
    exact List.rdropWhile_prefix _ s.toList
  intro hslash
  obtain ⟨rest, hrest⟩ := List.head?_eq_some_iff.mp hslash
  obtain ⟨more, hmore⟩ := hrest ▸ hprefix
  exact h (by rw [← hmore]; rfl)

/-- A text without blanks at its end has none to lose. -/
theorem trimBlanksRight_trimBlanksRight (s : String) :
    trimBlanksRight (trimBlanksRight s) = trimBlanksRight s := by
  have htwice := List.rdropWhile_idempotent (fun c : Char => c = ' ') s.toList
  rw [trimBlanksRight, trimBlanksRight, String.toList_ofList]
  exact congrArg String.ofList htwice

/-- A URL without its fragment has none to lose. -/
theorem withoutFragment_withoutFragment (u : Url) :
    u.withoutFragment.withoutFragment = u.withoutFragment := by
  obtain ⟨scheme, authority, path, query, fragment⟩ := u
  by_cases hrootless : isRootless ⟨scheme, authority, path, query, fragment⟩ ∧ query = none
  · obtain ⟨hroot, rfl⟩ := hrootless
    obtain ⟨hnone, hpath⟩ := Bool.and_eq_true_iff.mp hroot
    have hstays : isRootless ⟨scheme, authority, trimBlanksRight path, none, none⟩ = true :=
      Bool.and_eq_true_iff.mpr
        ⟨hnone, decide_eq_true (head?_trimBlanksRight (of_decide_eq_true hpath))⟩
    simp only [withoutFragment, hroot, hstays, and_self, if_true, trimBlanksRight_trimBlanksRight]
  · have hstays : ¬ (isRootless ⟨scheme, authority, path, query, none⟩ ∧ query = none) := hrootless
    simp only [withoutFragment, if_neg hrootless, if_neg hstays]

/-- An identifier that is only a fragment leaves the base as it is. -/
theorem scope?_of_fragment (base : Url) {id : String} (h : id.toList.head? = some '#') :
    base.scope? id = .ok base.withoutFragment := by
  obtain ⟨cs, hcs⟩ := Reference.exists_read_fragment h
  rw [scope?, join?, hcs]
  rfl

end Url

namespace Pointer

/-- The text of a pointer in a fragment: percent signs are written as bytes, and so is what a URL
would write so itself, and any more characters. -/
def fragment (extra : Char → Bool) (p : Pointer) : String :=
  String.ofList
    (Percent.encode (fun c => Url.fragmentSet c || c = '%' || extra c) p.text.toList)

variable (extra : Char → Bool) (p : Pointer)

/-- Nothing of the text of a pointer in a fragment is rewritten. -/
theorem inFragment_of_mem_fragment {c : Char} (h : c ∈ (p.fragment extra).toList) :
    Url.InFragment c := by
  rw [fragment, String.toList_ofList] at h
  refine Percent.forall_mem_encode ?_ ?_ ?_ c h
  · intro d _ hsmall hset
    simp only [Bool.or_eq_false_iff] at hset
    exact ⟨hsmall, hset.1.1⟩
  · exact ⟨by decide, by decide⟩
  · have hdigits : ∀ d : Fin 16,
        (Hex.upper d).toNat < 0x80 ∧ Url.fragmentSet (Hex.upper d) = false := by decide
    exact hdigits

/-- The text of a pointer in a fragment reads as its text. -/
theorem decodeFragment_fragment : decodeFragment (p.fragment extra) = p.text := by
  rw [decodeFragment, fragment, String.toList_ofList, Percent.decode_encode (by simp),
    String.ofList_toList]

end Pointer

namespace Address

/-- The address of a URL whose fragment is the text of a pointer. -/
theorem ofUrl_fragment (url : Url) (extra : Char → Bool) (p : Pointer) :
    ofUrl { url with fragment := some (p.fragment extra) } = ofPointer url p := by
  rw [ofUrl, Option.getD_some, Pointer.decodeFragment_fragment, Pointer.parse?_text]
  rfl

end Address

end Draft6
