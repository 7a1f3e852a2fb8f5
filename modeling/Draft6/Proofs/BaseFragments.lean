import Draft6.Proofs.Scopes

/-!
# Bases with fragments

A URL of a scheme that needs a host has an authority, however it is read. So only URLs of other schemes
may have a path that is mere text, and only those lose blanks together with their fragment. No relative
reference can be joined to such a URL. Thus what is joined to a base does not depend on its fragment,
apart from blanks that a fragment keeps alive, and a pool finds the same either way.
-/

namespace Draft6

namespace Url

/-! ## Schemes that need a host -/

/-- Whether the URL has an authority if its scheme needs a host. -/
def Hosted (u : Url) : Prop := Kind.of u.scheme ≠ .other → u.authority.isSome = true

instance (u : Url) : Decidable u.Hosted := inferInstanceAs (Decidable (_ → _))

namespace Reference

variable {r : Reference} {u : Url}

/-- A URL that is read with an authority has one. -/
theorem hosted_withAuthority {scheme : String} {cs : List Char} (h : r.withAuthority scheme cs = .ok u) :
    u.Hosted := by
  obtain ⟨⟨authority, rest⟩, _, h⟩ := bind_eq_ok.mp h
  obtain rfl := Except.ok.inj h
  exact fun _ => rfl

/-- A URL with a path on a base has the authority of the base, or one of its own. -/
theorem hosted_onBase {base : Url} (hbase : base.Hosted) (h : r.onBase base = .ok u) : u.Hosted := by
  unfold onBase at h
  extract_lets kind path at h
  split at h
  · obtain rfl := Except.ok.inj h
    exact hbase
  · split at h
    · obtain rfl := Except.ok.inj h
      exact hbase
    · obtain rfl := Except.ok.inj h
      exact hbase
    · exact hosted_withAuthority h
    · exact hosted_withAuthority h

/-- A URL of the file scheme has an authority, perhaps that of a base. -/
theorem hosted_onFile {base? : Option Url} (hbase : ∀ base ∈ base?, base.Hosted)
    (h : r.onFile base? = .ok u) : u.Hosted := by
  unfold onFile at h
  split at h
  · unfold fileWithHost at h
    extract_lets name at h
    split at h
    · obtain rfl := Except.ok.inj h
      exact fun _ => rfl
    · obtain ⟨host, _, h⟩ := bind_eq_ok.mp h
      obtain rfl := Except.ok.inj h
      exact fun _ => rfl
  · split at h
    · obtain rfl := Except.ok.inj h
      exact fun _ => rfl
    · split at h <;> obtain rfl := Except.ok.inj h <;> exact fun _ => rfl
  · next base _ =>
    split at h
    · obtain rfl := Except.ok.inj h
      exact hbase _ rfl
    · split at h
      · obtain rfl := Except.ok.inj h
        exact fun _ => rfl
      · obtain rfl := Except.ok.inj h
        exact hbase base rfl
  · obtain rfl := Except.ok.inj h
    exact fun _ => rfl

/-- A URL with a scheme that needs a host has an authority. -/
theorem hosted_onScheme {base? : Option Url} (hbase : ∀ base ∈ base?, base.Hosted) {scheme : String}
    (h : r.onScheme base? scheme = .ok u) : u.Hosted := by
  have hsame : ∀ base ∈ base?.filter fun base => base.scheme = scheme, base.Hosted :=
    fun base hmem => hbase base (Option.mem_filter_iff.mp hmem).1
  unfold onScheme at h
  split at h
  · exact hosted_onFile hsame h
  · dsimp only at h
    split at h
    · next base hbase =>
      split at h
      · exact hosted_onBase (hsame base hbase) h
      · exact hosted_withAuthority h
    · exact hosted_withAuthority h
  · next hother =>
    split at h
    · exact hosted_withAuthority h
    · obtain rfl := Except.ok.inj h
      exact fun hkind => absurd hother hkind
    · obtain rfl := Except.ok.inj h
      exact fun hkind => absurd hother hkind

/-- A reference gives a URL that has an authority if it needs one. -/
theorem hosted_resolve {base? : Option Url} (hbase : ∀ base ∈ base?, base.Hosted)
    (h : r.resolve base? = .ok u) : u.Hosted := by
  obtain ⟨found, hfound, rfl⟩ := map_eq_ok.mp h
  change found.Hosted
  split at hfound
  · exact hosted_onScheme hbase hfound
  · cases hfound
  · split at hfound
    · obtain rfl := Except.ok.inj hfound
      exact hbase _ rfl
    · split at hfound
      · cases hfound
      · split at hfound
        · exact hosted_onFile hbase hfound
        · exact hosted_onBase (hbase _ rfl) hfound

end Reference

/-- A text by itself stands for a URL that has an authority if it needs one. -/
theorem hosted_of_parse {text : String} {u : Url} (h : parse? text = .ok u) : u.Hosted :=
  Reference.hosted_resolve (fun _ hnone => by cases hnone) h

/-- Joining to a base that has an authority if it needs one gives such a URL. -/
theorem Hosted.join {base u : Url} (hbase : base.Hosted) {text : String} (h : base.join? text = .ok u) :
    u.Hosted := by
  refine Reference.hosted_resolve (fun b hb => ?_) h
  obtain rfl := Option.some.inj hb
  exact hbase

/-- Leaving out the fragment keeps the authority. -/
theorem Hosted.withoutFragment {u : Url} (h : u.Hosted) : u.withoutFragment.Hosted := h

/-- The base inside a schema has an authority if it needs one. -/
theorem Hosted.scope {base u : Url} (hbase : base.Hosted) {id : String} (h : base.scope? id = .ok u) :
    u.Hosted := by
  obtain ⟨joined, hjoined, rfl⟩ := map_eq_ok.mp h
  exact (hbase.join hjoined).withoutFragment

/-- The implicit base has an authority. -/
theorem hosted_implicitBase : implicitBase.Hosted := fun _ => rfl

/-- The base that a text names has an authority if it needs one. -/
theorem hosted_of_base {text : String} {u : Url} (h : base? text = .ok u) : u.Hosted :=
  hosted_implicitBase.scope h

/-- The URL of a file has an authority. -/
theorem hosted_ofFilePath (components : List String) : (ofFilePath components).Hosted := fun _ => rfl

/-! ## What a fragment of the base changes -/

/-- Whether two URLs are the same without their fragments. -/
def SameResource (u v : Url) : Prop := u.withoutFragment = v.withoutFragment

/-- A URL without its fragment, and the fragment. They tell which schema the URL leads to. -/
def parts (u : Url) : Url × Option String := (u.withoutFragment, u.fragment)

/-- A path that is mere text stays so without the fragment, and no other path becomes so. -/
theorem isRootless_withoutFragment (u : Url) : u.withoutFragment.isRootless = u.isRootless := by
  rw [withoutFragment]
  split
  · next hrootless =>
    obtain ⟨hauthority, hpath⟩ := Bool.and_eq_true_iff.mp hrootless.1
    rw [hrootless.1]
    exact Bool.and_eq_true_iff.mpr
      ⟨hauthority, decide_eq_true (head?_trimBlanksRight (of_decide_eq_true hpath))⟩
  · rfl

namespace SameResource

variable {u v : Url}

/-- Both paths are mere text or none is. -/
theorem isRootless_eq (h : u.SameResource v) : u.isRootless = v.isRootless := by
  rw [← isRootless_withoutFragment u, h, isRootless_withoutFragment v]

/-- Two URLs with one resource differ in their fragments only, unless the path is mere text. -/
theorem eq_of_not_rootless (h : u.SameResource v) (hroot : u.isRootless = false) :
    u = { v with fragment := u.fragment } := by
  have hroot' : v.isRootless = false := h.isRootless_eq ▸ hroot
  rw [SameResource, withoutFragment, withoutFragment, hroot, hroot'] at h
  simp only [Bool.false_eq_true, false_and, if_false] at h
  obtain ⟨hscheme, hauthority, hpath, hquery, -⟩ := Url.mk.inj h
  rw [← hscheme, ← hauthority, ← hpath, ← hquery]

end SameResource

namespace Reference

/-- A fragment of the base does not show in a URL with a path on the base. -/
theorem finish_onBase (r : Reference) (base : Url) (fragment : Option String) :
    r.finish <$> r.onBase { base with fragment } = r.finish <$> r.onBase base := by
  unfold onBase
  simp only
  split
  · rfl
  · split <;> rfl

/-- A fragment of the base does not show in a URL of the file scheme. -/
theorem finish_onFile (r : Reference) (base : Url) (fragment : Option String) :
    r.finish <$> r.onFile (some { base with fragment }) = r.finish <$> r.onFile (some base) := by
  rw [onFile.eq_def, onFile.eq_def]
  rcases cutSlashes r.hierarchy with ⟨_ | ⟨first, _ | ⟨second, more⟩⟩, rest⟩
  · dsimp only
    split
    · rfl
    · split <;> rfl
  · dsimp only
    split
    · rfl
    · split <;> rfl
  · rfl

/-- A fragment of the base does not show in a URL with a scheme. -/
theorem finish_onScheme (r : Reference) (base : Url) (fragment : Option String) (scheme : String) :
    r.finish <$> r.onScheme (some { base with fragment }) scheme =
      r.finish <$> r.onScheme (some base) scheme := by
  rw [onScheme.eq_def, onScheme.eq_def]
  by_cases hscheme : base.scheme = scheme
  · rw [Option.filter_some_pos (by simpa using hscheme), Option.filter_some_pos (by simpa using hscheme)]
    cases Kind.of scheme with
    | file => exact r.finish_onFile base fragment
    | special =>
      dsimp only
      split
      · exact r.finish_onBase base fragment
      · rfl
    | other => rfl
  · rw [Option.filter_some_neg (by simpa using hscheme), Option.filter_some_neg (by simpa using hscheme)]

/-- A reference gives the same URL on a base whatever the fragment of the base is. -/
theorem resolve_fragment (r : Reference) (base : Url) (fragment : Option String) :
    r.resolve (some { base with fragment }) = r.resolve (some base) := by
  rw [resolve.eq_def, resolve.eq_def]
  cases r.scheme with
  | some scheme => exact r.finish_onScheme base fragment scheme
  | none =>
    change r.finish <$> (if r.isFragmentOnly then _ else if base.isRootless then _ else
      if Kind.of base.scheme = .file then _ else _) = _
    dsimp only
    split
    · rfl
    · split
      · rfl
      · split
        · exact r.finish_onFile base fragment
        · exact r.finish_onBase base fragment

/-- A base whose path is mere text does not help a reference with a scheme. -/
theorem onScheme_of_rootless (r : Reference) {base : Url} (hbase : base.Hosted)
    (hroot : base.isRootless = true) (scheme : String) :
    r.onScheme (some base) scheme = r.onScheme none scheme := by
  have hnone : base.authority.isSome = false := by
    have := (Bool.and_eq_true_iff.mp hroot).1
    simpa using this
  rw [onScheme.eq_def, onScheme.eq_def]
  by_cases hscheme : base.scheme = scheme
  · have hother : Kind.of scheme = .other := by
      by_contra hkind
      rw [← hscheme] at hkind
      rw [hbase hkind] at hnone
      cases hnone
    rw [hother]
  · rw [Option.filter_some_neg (by simpa using hscheme), Option.filter_none]

/-- What a reference gives on a base leads to the same schema on another base of the same resource. -/
theorem resolve_sameResource (r : Reference) {u v : Url} (hu : u.Hosted) (hv : v.Hosted)
    (h : u.SameResource v) : (r.resolve (some u)).map parts = (r.resolve (some v)).map parts := by
  cases hroot : u.isRootless with
  | false =>
    rw [h.eq_of_not_rootless hroot, resolve_fragment]
  | true =>
    have hroot' : v.isRootless = true := h.isRootless_eq ▸ hroot
    rw [resolve.eq_def, resolve.eq_def]
    cases r.scheme with
    | some scheme =>
      dsimp only
      rw [r.onScheme_of_rootless hu hroot, r.onScheme_of_rootless hv hroot']
    | none =>
      dsimp only
      rw [hroot, hroot']
      split
      · next honly =>
        have hquery : r.query = none := by
          rw [isFragmentOnly, Bool.and_assoc, Bool.and_eq_true_iff, Bool.and_eq_true_iff] at honly
          simpa using honly.2.1
        have hfinish (base : Url) : (r.finish base).parts =
            (base.withoutFragment, r.fragment.map encodeFragment) := by
          rw [parts, finish, hquery]
          rfl
        exact congrArg Except.ok ((hfinish u).trans (h ▸ (hfinish v).symm))
      · rfl

end Reference

/-- What is joined to a base leads to the same schema as from another base of the same resource. -/
theorem SameResource.map_join? {u v : Url} (h : u.SameResource v) (hu : u.Hosted) (hv : v.Hosted)
    (text : String) : (u.join? text).map parts = (v.join? text).map parts :=
  (Reference.read text).resolve_sameResource hu hv h

/-- An identifier names the same base inside two bases of one resource. -/
theorem SameResource.scope?_eq {u v : Url} (h : u.SameResource v) (hu : u.Hosted) (hv : v.Hosted)
    (id : String) : u.scope? id = v.scope? id := by
  have hscope (base : Url) : base.scope? id = ((base.join? id).map parts).map Prod.fst := by
    rw [scope?]
    cases base.join? id <;> rfl
  rw [hscope, hscope, h.map_join? hu hv]

end Url

/-- The address that a URL stands for is made of its parts. -/
theorem Address.ofUrl_eq_of_parts {u v : Url} (h : u.parts = v.parts) : ofUrl u = ofUrl v := by
  obtain ⟨hresource, hfragment⟩ := Prod.mk.inj h
  simp only [ofUrl, ofPointer, ofAnchor, hresource, hfragment]

/-- A reference leads to the same schema from two bases of one resource. -/
theorem Pool.resolve_sameResource (pool : Pool) {u v : Url} (h : u.SameResource v) (hu : u.Hosted)
    (hv : v.Hosted) (reference : String) : pool.resolve reference u = pool.resolve reference v := by
  have hsame := h.map_join? hu hv reference
  rw [resolve.eq_def, resolve.eq_def]
  cases hleft : u.join? reference with
  | error reason =>
    cases hright : v.join? reference with
    | error reason' =>
      rw [hleft, hright] at hsame
      rw [Except.error.inj hsame]
    | ok target' =>
      rw [hleft, hright] at hsame
      cases hsame
  | ok target =>
    cases hright : v.join? reference with
    | error reason' =>
      rw [hleft, hright] at hsame
      cases hsame
    | ok target' =>
      rw [hleft, hright] at hsame
      dsimp only
      rw [Address.ofUrl_eq_of_parts (Except.ok.inj hsame)]

end Draft6
