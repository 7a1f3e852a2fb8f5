import Draft6.Proofs.FragmentReading
import Draft6.Proofs.PointerText

/-!
# One address for every spelling

A fragment may be spelled in many ways: any of its bytes may be written by a percent sign, and any
stray tilde of a pointer may be escaped. The address of a URL does not depend on the spelling. Two URLs
have one address exactly when they are the same up to the fragment and the fragments mean the same part
of a document, by a pointer or by a plain name. No pointer shares its address with a plain name.
-/

namespace Draft6

/-- Whether the fragment of a URL, with its written bytes read, is the UTF-8 of a text. A URL without
fragment spells the empty text. -/
def Url.Spells (u : Url) (s : String) : Prop :=
  Percent.decodeBytes (u.fragment.getD "").toList = Utf8.encode s.toList

instance (u : Url) (s : String) : Decidable (u.Spells s) := inferInstanceAs (Decidable (_ = _))

/-- The text that a fragment spells is the one that is read. -/
theorem Url.Spells.decodeFragment_eq {u : Url} {s : String} (h : u.Spells s) :
    Pointer.decodeFragment (u.fragment.getD "") = s := by
  rw [Spells] at h
  rw [Pointer.decodeFragment, Percent.decode, h, Utf8.decode_encode, String.ofList_toList]

namespace Address

/-- Whether a text is a plain name: it is not empty and does not begin like a pointer. -/
def IsName (s : String) : Prop := s ≠ "" ∧ s.toList.head? ≠ some '/'

/-- Whether two texts mean the same part of a document: pointers with the same segments, of which the
empty text has none, or one plain name. -/
inductive SamePart : String → String → Prop
  | pointer {s t : String} (p : Pointer) (hs : Pointer.parse? s = some p)
      (ht : Pointer.parse? t = some p) : SamePart s t
  | name {s : String} (h : IsName s) : SamePart s s

/-- A text is a plain name exactly when it stands for no pointer. -/
theorem parse?_eq_none_iff_isName {s : String} : Pointer.parse? s = none ↔ IsName s :=
  Pointer.parse?_eq_none_iff s

/-- A text that stands for a pointer means the same part as the texts that stand for the same one. -/
theorem samePart_iff_of_parse? {s t : String} {p : Pointer} (hs : Pointer.parse? s = some p) :
    SamePart s t ↔ Pointer.parse? t = some p := by
  constructor
  · rintro (⟨q, hs', ht⟩ | hname)
    · rw [ht, ← hs', hs]
    · exact hs
  · exact fun ht => .pointer p hs ht

/-- A plain name means the same part as itself and nothing else. -/
theorem samePart_iff_of_isName {s t : String} (hs : IsName s) : SamePart s t ↔ s = t := by
  constructor
  · rintro (⟨p, hs', ht⟩ | hname)
    · rw [parse?_eq_none_iff_isName.mpr hs] at hs'
      cases hs'
    · rfl
  · rintro rfl
    exact .name hs

/-- The address of a URL is that of the text that its fragment is read as. -/
theorem ofUrl_eq (u : Url) : ofUrl u = ofFragment u (Pointer.decodeFragment (u.fragment.getD "")) := rfl

/-- The address of a fragment that stands for a pointer is the address of this pointer. -/
theorem ofFragment_of_parse?_eq_some (document : Url) {s : String} {p : Pointer}
    (h : Pointer.parse? s = some p) : ofFragment document s = ofPointer document p := by
  rw [ofFragment, h]

/-- Two fragments have one address exactly when the documents are the same and the fragments mean the
same part. -/
theorem ofFragment_eq_iff {u v : Url} (hu : '#' ∉ u.withoutFragment.text.toList)
    (hv : '#' ∉ v.withoutFragment.text.toList) (s t : String) :
    ofFragment u s = ofFragment v t ↔
      u.withoutFragment.text = v.withoutFragment.text ∧ SamePart s t := by
  cases hs : Pointer.parse? s with
  | some p =>
    rw [ofFragment_of_parse?_eq_some u hs, samePart_iff_of_parse? hs, ofPointer]
    cases ht : Pointer.parse? t with
    | some q =>
      rw [ofFragment_of_parse?_eq_some v ht, ofPointer, ofAnchor_inj_of_sign_not_mem hu hv,
        Pointer.text_inj, Option.some_inj, @eq_comm _ q]
    | none =>
      rw [ofFragment_of_parse? v ht, ofAnchor_inj_of_sign_not_mem hu hv]
      refine and_congr_right fun _ => ⟨?_, fun h => by cases h⟩
      -- The text of a pointer stands for the pointer, and a plain name for none.
      rintro rfl
      rw [Pointer.parse?_text] at ht
      cases ht
  | none =>
    rw [ofFragment_of_parse? u hs, samePart_iff_of_isName (parse?_eq_none_iff_isName.mp hs)]
    cases ht : Pointer.parse? t with
    | some q =>
      rw [ofFragment_of_parse?_eq_some v ht, ofPointer, ofAnchor_inj_of_sign_not_mem hu hv]
      refine and_congr_right fun _ => ⟨?_, ?_⟩
      · rintro rfl
        rw [Pointer.parse?_text] at hs
        cases hs
      · rintro rfl
        cases hs.symm.trans ht
    | none => rw [ofFragment_of_parse? v ht, ofAnchor_inj_of_sign_not_mem hu hv]

/-- Where no number sign stands in front of the fragment, two URLs whose fragments are spelled in UTF-8
have one address exactly when they are the same without fragment and their fragments are pointers with the
same segments or one plain name. Every fragment that is read as a text for a pointer, and none for the
pointer to the root, gives the address of this pointer in the document. -/
theorem address_of_spellings :
    (∀ u v : Url, '#' ∉ u.withoutFragment.text.toList → '#' ∉ v.withoutFragment.text.toList →
      ∀ s t, u.Spells s → v.Spells t →
        (ofUrl u = ofUrl v ↔
          u.withoutFragment.text = v.withoutFragment.text ∧ SamePart s t)) ∧
      ∀ (u : Url) (p : Pointer) (fragment : Option String),
        Pointer.parse? (Pointer.decodeFragment (fragment.getD "")) = some p →
          ofUrl { u with fragment } = ofPointer u p := by
  refine ⟨fun u v hu hv s t hs ht => ?_, fun u p fragment hp => ?_⟩
  · rw [ofUrl_eq, ofUrl_eq, hs.decodeFragment_eq, ht.decodeFragment_eq]
    exact ofFragment_eq_iff hu hv s t
  · rw [ofUrl_eq]
    exact ofFragment_of_parse?_eq_some _ hp

/-- A letter that is written by its byte, and a stray tilde that is escaped, change no address. -/
theorem address_of_spellings_tilde :
    let first : Url := { Url.implicitBase with fragment := some "/x~0y" }
    let second : Url := { Url.implicitBase with fragment := some "/%78~y" }
    ofUrl first = ofUrl second ∧ ofUrl second = ofPointer Url.implicitBase ⟨["x~y"]⟩ := by
  intro first second
  have hsign : '#' ∉ first.withoutFragment.text.toList := by decide
  have hfirst : first.Spells "/x~0y" := by decide
  have hsecond : second.Spells "/x~y" := by decide
  have hpart : SamePart "/x~0y" "/x~y" := .pointer ⟨["x~y"]⟩ (by decide) (by decide)
  exact ⟨(address_of_spellings.1 first second hsign hsign _ _ hfirst hsecond).mpr ⟨rfl, hpart⟩,
    address_of_spellings.2 Url.implicitBase ⟨["x~y"]⟩ (some "/%78~y") (by decide)⟩

end Address

end Draft6
