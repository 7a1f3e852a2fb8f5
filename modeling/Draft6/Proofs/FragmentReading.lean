import Draft6.Proofs.PercentReading
import Draft6.Proofs.PointerAddress

/-!
# What is read behind a number sign

Whatever stands behind the first number sign of a reference is its fragment, and the reading of the
rest does not depend on it. The blanks and control characters at its end go, and so do tabs and ends of
line. What a URL writes as bytes is read back as it was, but bytes that the fragment has written itself
are read too. So a fragment is read as itself exactly when nothing of this occurs in it.
-/

namespace Draft6

namespace Url

/-- A URL with another fragment. -/
def withFragment (u : Url) (cs : List Char) : Url := { u with fragment := some (encodeFragment cs) }

namespace Reference

/-- What is kept of a fragment at the end of a text. -/
def keptFragment (cs : List Char) : List Char := withoutBreaks (cs.rdropWhile (· ≤ ' '))

/-- What is kept of a fragment is left of it when characters go. -/
theorem keptFragment_sublist (cs : List Char) :
    (keptFragment cs).Sublist cs :=
  List.filter_sublist.trans (List.rdropWhile_prefix _ cs).sublist

/-- What is kept of a fragment is all of it when nothing of what goes occurs in it. -/
theorem keptFragment_eq_self_iff {cs : List Char} :
    keptFragment cs = cs ↔
      (∀ c ∈ cs, isBreak c = false) ∧ ∀ c ∈ cs.getLast?, ¬ c ≤ ' ' := by
  have hlast : cs.rdropWhile (· ≤ ' ') = cs ↔ ∀ c ∈ cs.getLast?, ¬ c ≤ ' ' := by
    rw [List.rdropWhile_eq_self_iff]
    constructor
    · intro h c hc
      obtain ⟨hne, rfl⟩ := List.mem_getLast?_eq_getLast hc
      simpa using h hne
    · intro h hne
      simpa using h _ (List.getLast?_eq_some_getLast hne)
  have hbreaks : withoutBreaks cs = cs ↔ ∀ c ∈ cs, isBreak c = false := by
    rw [withoutBreaks, List.filter_eq_self]
    simp only [Bool.not_eq_true']
  rw [← hlast, ← hbreaks]
  constructor
  · intro h
    have hshort : (keptFragment cs).length ≤ (cs.rdropWhile (· ≤ ' ')).length :=
      List.length_filter_le _ _
    have hprefix := List.rdropWhile_prefix (· ≤ ' ') cs
    have hall : cs.rdropWhile (· ≤ ' ') = cs :=
      hprefix.eq_of_length_le (by rwa [h] at hshort)
    rw [keptFragment, hall] at h
    exact ⟨h, hall⟩
  · rintro ⟨hb, hl⟩
    rw [keptFragment, hl, hb]

/-- A reference with another fragment. -/
def withFragment (r : Reference) (cs : List Char) : Reference := { r with fragment := some cs }

/-- A text loses blanks and control characters before and after a character that is none. -/
theorem trim_append_cons {c : Char} (hc : ¬ c ≤ ' ') (before cs : List Char) :
    trim (before ++ c :: cs) = before.dropWhile (· ≤ ' ') ++ c :: cs.rdropWhile (· ≤ ' ') := by
  have hstays (ds : List Char) : (c :: ds).dropWhile (· ≤ ' ') = c :: ds :=
    List.dropWhile_cons_of_neg (by simpa using hc)
  have hfront : (before ++ c :: cs).dropWhile (· ≤ ' ') =
      before.dropWhile (· ≤ ' ') ++ c :: cs := by
    rw [List.dropWhile_append]
    split
    · next h => rw [hstays, List.isEmpty_iff.mp h, List.nil_append]
    · rfl
  have hback (ds : List Char) : (ds ++ c :: cs).reverse.dropWhile (· ≤ ' ') =
      cs.reverse.dropWhile (· ≤ ' ') ++ c :: ds.reverse := by
    rw [List.reverse_append, List.reverse_cons, List.append_assoc, List.singleton_append,
      List.dropWhile_append]
    split
    · next h => rw [hstays, List.isEmpty_iff.mp h, List.nil_append]
    · rfl
  rw [trim, hfront, hback, List.reverse_append, List.reverse_cons, List.reverse_reverse,
    List.append_assoc, List.singleton_append]
  rfl

/-- What stands behind the first number sign of a text is its fragment. -/
theorem read_append_sign {before : List Char} (h : '#' ∉ before) (cs : List Char) :
    read (String.ofList (before ++ '#' :: cs)) =
      (read (String.ofList (before ++ ['#']))).withFragment (keptFragment cs) := by
  have hfront : '#' ∉ before.dropWhile (· ≤ ' ') := fun hsign => h (List.dropWhile_subset _ hsign)
  have hcut (cs : List Char) : Text.cut '#' (trim (before ++ '#' :: cs)) =
      (before.dropWhile (· ≤ ' '), some (cs.rdropWhile (· ≤ ' '))) := by
    rw [trim_append_cons (by decide), Text.cut_append_mark hfront]
  rw [read, read, String.toList_ofList, String.toList_ofList, hcut, hcut]
  rfl

/-- A number sign and anything behind it is read as a fragment. -/
theorem read_sign (cs : List Char) :
    read (String.ofList ('#' :: cs)) = ⟨none, [], none, some (keptFragment cs)⟩ :=
  read_append_sign List.not_mem_nil cs

/-- The fragment of a reference is put onto the URL that the rest of it gives. -/
theorem resolve_withFragment (r : Reference) (cs : List Char) (base? : Option Url) :
    (r.withFragment cs).resolve base? =
      (fun u => u.withFragment cs) <$> (r.withFragment []).resolve base? := by
  have hmap (result : Except UrlError Url) : (r.withFragment cs).finish <$> result =
      (fun u => u.withFragment cs) <$> (r.withFragment []).finish <$> result := by
    cases result <;> rfl
  obtain ⟨scheme, hierarchy, query, fragment⟩ := r
  cases scheme <;> cases base? <;> exact hmap _

end Reference

/-- A text that goes on after its first number sign gives the URL of the text up to there, with what
follows as the fragment. -/
theorem resolve_append_sign (base? : Option Url) {before : String} (h : '#' ∉ before.toList)
    (fragment : String) :
    (Reference.read (before ++ "#" ++ fragment)).resolve base? =
      (fun u => u.withFragment (Reference.keptFragment fragment.toList)) <$>
        (Reference.read (before ++ "#")).resolve base? := by
  have hread (fragment : String) : Reference.read (before ++ "#" ++ fragment) =
      (Reference.read (String.ofList (before.toList ++ ['#']))).withFragment
        (Reference.keptFragment fragment.toList) := by
    rw [← Reference.read_append_sign h]
    congr 1
    rw [← String.toList_inj, String.toList_ofList, String.toList_append, String.toList_append,
      List.append_assoc]
    rfl
  have hempty : before ++ "#" = before ++ "#" ++ "" := by simp
  rw [hread fragment, hempty, hread "", Reference.resolve_withFragment]
  rfl

/-- A number sign and anything behind it keeps all of a base but its fragment. -/
theorem join?_sign (base : Url) (fragment : String) :
    base.join? ("#" ++ fragment) =
      .ok (base.withFragment (Reference.keptFragment fragment.toList)) := by
  have hread := Reference.read_sign fragment.toList
  have htext : String.ofList ('#' :: fragment.toList) = "#" ++ fragment := by
    rw [← String.toList_inj, String.toList_ofList, String.toList_append]
    rfl
  rw [htext] at hread
  rw [join?, hread]
  rfl

/-- Percent signs and digits are written in a fragment as they are. -/
theorem spares_fragmentSet : Percent.Spares fragmentSet := by
  have hdigits : ∀ n : Fin 128, (Hex.value? (Char.ofNat n)).isSome = true →
      fragmentSet (Char.ofNat n) = false := by decide
  refine ⟨by decide, fun c hc => ?_⟩
  obtain ⟨value, hvalue⟩ := Option.isSome_iff_exists.mp hc
  have hdigit := hdigits ⟨c.toNat, Percent.toNat_lt_of_value? hvalue⟩
  simp only [Char.ofNat_toNat] at hdigit
  exact hdigit hc

end Url

namespace Address

/-- The fragment that is read where some text stands behind a number sign. -/
def readFragment (fragment : String) : String :=
  String.ofList (Percent.decode (Url.Reference.keptFragment fragment.toList))

/-- The address that a fragment without percent signs stands for in a document. -/
def ofFragment (document : Url) (fragment : String) : String :=
  match Pointer.parse? fragment with
  | some p => ofPointer document p
  | none => ofAnchor document fragment

/-- Whether a fragment is read as itself: it holds no tab and no end of line, does not end in a blank
or a control character, and has no two hexadecimal digits behind a percent sign. -/
structure Legible (fragment : String) : Prop where
  breaks : ∀ c ∈ fragment.toList, Url.isBreak c = false
  last : ∀ c ∈ fragment.toList.getLast?, ¬ c ≤ ' '
  plain : Percent.Plain fragment.toList

/-- What a URL writes in a fragment is read back as it was, but for bytes that were written before. -/
theorem decodeFragment_encodeFragment (cs : List Char) :
    Pointer.decodeFragment (Url.encodeFragment cs) = String.ofList (Percent.decode cs) := by
  rw [Pointer.decodeFragment, Url.encodeFragment, String.toList_ofList, Percent.decode,
    Url.spares_fragmentSet.decodeBytes_encode]
  rfl

/-- The address that is looked up for a text behind a number sign. -/
theorem ofUrl_withFragment (u : Url) (fragment : String) :
    ofUrl (u.withFragment (Url.Reference.keptFragment fragment.toList)) =
      ofFragment u (readFragment fragment) := by
  have hread : Pointer.decodeFragment
      ((u.withFragment (Url.Reference.keptFragment fragment.toList)).fragment.getD "") =
        readFragment fragment :=
    decodeFragment_encodeFragment _
  rw [ofUrl, hread, ofFragment]
  cases Pointer.parse? (readFragment fragment) <;> rfl

/-- A fragment is read as itself exactly when it is legible. -/
theorem readFragment_eq_self_iff {fragment : String} :
    readFragment fragment = fragment ↔ Legible fragment := by
  have hlist : readFragment fragment = fragment ↔
      Percent.decode (Url.Reference.keptFragment fragment.toList) = fragment.toList := by
    rw [← String.toList_inj, readFragment, String.toList_ofList]
  rw [hlist]
  constructor
  · intro h
    have hshort := Percent.length_decode_le (Url.Reference.keptFragment fragment.toList)
    rw [h] at hshort
    have hkept := (Url.Reference.keptFragment_sublist fragment.toList).eq_of_length_le hshort
    obtain ⟨hbreaks, hlast⟩ := Url.Reference.keptFragment_eq_self_iff.mp hkept
    rw [hkept] at h
    exact ⟨hbreaks, hlast, Percent.decode_eq_self_iff.mp h⟩
  · intro h
    rw [Url.Reference.keptFragment_eq_self_iff.mpr ⟨h.breaks, h.last⟩, Percent.decode_eq_self_iff.mpr h.plain]

/-- The fragment of a document does not matter for the addresses in it. -/
theorem ofAnchor_withoutFragment (u : Url) (name : String) :
    ofAnchor u.withoutFragment name = ofAnchor u name := by
  rw [ofAnchor, ofAnchor, Url.withoutFragment_withoutFragment]

/-- The address of a fragment that is the text of a pointer. -/
theorem ofFragment_text (document : Url) (p : Pointer) :
    ofFragment document p.text = ofAnchor document p.text := by
  rw [ofFragment, Pointer.parse?_text]
  rfl

/-- The address of a fragment that is no text of a pointer. -/
theorem ofFragment_of_parse? (document : Url) {fragment : String}
    (h : Pointer.parse? fragment = none) :
    ofFragment document fragment = ofAnchor document fragment := by
  rw [ofFragment, h]

/-- The address of a fragment is that of some name. -/
theorem exists_ofFragment_eq (document : Url) (fragment : String) :
    ∃ name, ofFragment document fragment = ofAnchor document name := by
  rw [ofFragment]
  cases Pointer.parse? fragment with
  | some p => exact ⟨p.text, rfl⟩
  | none => exact ⟨fragment, rfl⟩

/-- A plain name is read as no pointer. -/
theorem parse?_of_anchor? {id name : String} (h : anchor? id = some name) :
    Pointer.parse? name = none := by
  rw [anchor?.eq_def] at h
  split at h
  · cases h
  · cases h
  · cases h
  · next cs hempty hslash _ =>
    obtain rfl := Option.some.inj h
    rw [Pointer.parse?, String.toList_ofList]
    split
    · exact absurd rfl hempty
    · exact absurd rfl (hslash _)
    · rfl

/-- The plain name behind a number sign. -/
theorem anchor?_sign {name : String} (hempty : name ≠ "") (hslash : name.toList.head? ≠ some '/') :
    anchor? ("#" ++ name) = some name := by
  have hcut : Text.cut '#' ("#" ++ name).toList = ([], some name.toList) := by
    rw [String.toList_append]
    exact Text.cut_append_mark List.not_mem_nil name.toList
  rw [anchor?, hcut]
  cases hlist : name.toList with
  | nil => exact absurd (String.toList_inj.mp hlist) hempty
  | cons c cs =>
    have hc : c ≠ '/' := by
      rintro rfl
      exact hslash (by rw [hlist]; rfl)
    split
    · next heq => cases heq
    · next heq => cases heq
    · next heq => exact absurd (List.cons.inj (Option.some.inj heq)).1 hc
    · next heq =>
      obtain rfl := Option.some.inj heq
      rw [← hlist, String.ofList_toList]

end Address

end Draft6
