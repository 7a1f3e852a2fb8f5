import Draft6.Proofs.PlainNames

/-!
# References to listed addresses

The addresses that a pool lists are written from the texts of URLs, pointers and plain names as they
are. As references they are read first. The URL of the document has to read as itself, which is a matter
of URLs alone, and then it does not matter where the reference stands. The fragment has to be legible. An
address of which both is true leads to the schema that it is listed for.
-/

namespace Draft6

/-! ## Texts of whole URLs -/

namespace Url

/-- Whether a character can stand in a scheme in lower case. -/
def InScheme (c : Char) : Prop := ¬ c ≤ ' ' ∧ c ∉ [':', '?', '#']

instance (c : Char) : Decidable (InScheme c) := inferInstanceAs (Decidable (_ ∧ _))

/-- What a scheme is written with can stand in it in lower case. -/
theorem inScheme_toLower {c : Char} (h : c.isAlphanum || ['+', '-', '.'].contains c) :
    InScheme c.toLower := by
  have hall : ∀ n : Fin 128, ((Char.ofNat n).isAlphanum || ['+', '-', '.'].contains (Char.ofNat n)) →
      InScheme (Char.ofNat n).toLower := by decide
  have hsmall : c.toNat < 128 := by
    rcases Bool.or_eq_true_iff.mp h with halnum | hmark
    · rcases Bool.or_eq_true_iff.mp halnum with hletter | hdigit
      · rcases Bool.or_eq_true_iff.mp hletter with hupper | hlower
        · have hbound : c.toNat ≤ 90 := (of_decide_eq_true hupper).2
          omega
        · have hbound : c.toNat ≤ 122 := of_decide_eq_true (Bool.and_eq_true_iff.mp hlower).2
          omega
      · have hbound : c.toNat ≤ 57 := of_decide_eq_true (Bool.and_eq_true_iff.mp hdigit).2
        omega
    · have hmarks : ∀ d ∈ ['+', '-', '.'], d.toNat < 128 := by simp
      exact hmarks c (List.contains_iff_mem.mp hmark)
  have hc := hall ⟨c.toNat, hsmall⟩
  simp only [Char.ofNat_toNat] at hc
  exact hc h

namespace Reference

/-- The scheme that is cut from a text. -/
theorem inScheme_of_cutScheme? {cs rest : List Char} {scheme : String}
    (h : cutScheme? cs = some (scheme, rest)) : ∀ c ∈ scheme.toList, InScheme c := by
  rw [cutScheme?.eq_def] at h
  split at h
  · cases h
  · next before after _ =>
    extract_lets written at h
    split at h
    · next hvalid =>
      obtain ⟨rfl, rfl⟩ := Prod.mk.inj (Option.some.inj h)
      intro c hc
      rw [String.toList_ofList] at hc
      obtain ⟨d, hd, rfl⟩ := List.mem_map.mp hc
      exact inScheme_toLower (List.all_eq_true.mp hvalid.2 d hd)
    · cases h

/-- The scheme of a reference. -/
theorem inScheme_of_read {text scheme : String} (h : (read text).scheme = some scheme) :
    ∀ c ∈ scheme.toList, InScheme c := by
  unfold read at h
  dsimp only at h
  split at h
  · next hcut =>
    obtain rfl := Option.some.inj h
    exact inScheme_of_cutScheme? hcut
  · cases h

/-- A scheme, a colon and two slashes give a hierarchy that begins with the slashes. -/
theorem exists_hierarchy {scheme : List Char} (hscheme : ∀ c ∈ scheme, InScheme c)
    (rest : List Char) {found : String}
    (h : (read (String.ofList (scheme ++ [':', '/', '/'] ++ rest))).scheme = some found) :
    ∃ more, (read (String.ofList (scheme ++ [':', '/', '/'] ++ rest))).hierarchy =
      '/' :: '/' :: more := by
  have hmark {mark : Char} (hmark : mark ∈ ['?', '#']) : mark ∉ scheme ++ [':', '/', '/'] := by
    have hslashes : ∀ mark ∈ ['?', '#'], mark ∉ [':', '/', '/'] := by simp
    refine List.not_mem_append (fun hmem => ?_) (hslashes mark hmark)
    exact (hscheme mark hmem).2 (List.mem_cons_of_mem _ hmark)
  have hcolon : ':' ∉ scheme := fun hmem => (hscheme ':' hmem).2 List.mem_cons_self
  have htrim : trim (scheme ++ [':', '/', '/'] ++ rest) =
      scheme ++ [':', '/', '/'] ++ rest.rdropWhile (· ≤ ' ') := by
    have hfront : (scheme ++ [':', '/']).dropWhile (· ≤ ' ') = scheme ++ [':', '/'] := by
      cases scheme with
      | nil => rfl
      | cons c cs =>
        exact List.dropWhile_cons_of_neg (by simpa using (hscheme c List.mem_cons_self).1)
    have hslash := trim_append_cons (by decide : ¬ '/' ≤ ' ') (scheme ++ [':', '/']) rest
    rw [hfront] at hslash
    simpa using hslash
  have hcut (cs : List Char) : Text.cut ':' (scheme ++ [':', '/', '/'] ++ cs) =
      (scheme, some ('/' :: '/' :: cs)) := by
    rw [List.append_assoc]
    exact Text.cut_append_mark hcolon _
  unfold read at h ⊢
  rw [String.toList_ofList, htrim, Text.cut_append (hmark (by decide))] at h ⊢
  dsimp only at h ⊢
  rw [Text.cut_append (hmark (by decide))] at h ⊢
  dsimp only at h ⊢
  split at h
  · next found rest hfound =>
    rw [cutScheme?, hcut] at hfound
    dsimp only at hfound
    split at hfound
    · next hvalid =>
      obtain ⟨-, rfl⟩ := Prod.mk.inj (Option.some.inj hfound)
      exact ⟨_, rfl⟩
    · cases hfound
  · cases h

/-- A hierarchy that begins with two slashes leaves nothing open that a base could fill in. -/
theorem onScheme_eq_none {r : Reference} {scheme : String}
    (h : Kind.of scheme ≠ .other → ∃ more, r.hierarchy = '/' :: '/' :: more) (base? : Option Url) :
    r.onScheme base? scheme = r.onScheme none scheme := by
  have hslashes (hkind : Kind.of scheme ≠ .other) :
      ∃ slashes rest, cutSlashes r.hierarchy = ('/' :: '/' :: slashes, rest) := by
    obtain ⟨more, hmore⟩ := h hkind
    exact ⟨(cutSlashes more).1, (cutSlashes more).2, by rw [hmore]; rfl⟩
  rw [onScheme, onScheme]
  cases hkind : Kind.of scheme with
  | other => rfl
  | file =>
    obtain ⟨slashes, rest, hcut⟩ := hslashes (by rw [hkind]; decide)
    simp only [onFile, hcut]
  | special =>
    obtain ⟨slashes, rest, hcut⟩ := hslashes (by rw [hkind]; decide)
    have htwo : ¬ ('/' :: '/' :: slashes).length < 2 := by simp
    simp only [hcut, if_neg htwo]
    split <;> rfl

/-- A URL with some scheme and an authority. -/
def HasAuthority (scheme : String) (u : Url) : Prop :=
  u.scheme = scheme ∧ ∃ a, u.authority = some a

/-- A URL of the file scheme without a base has an authority. -/
theorem hasAuthority_of_onFile {r : Reference} {u : Url} (h : r.onFile none = .ok u) :
    HasAuthority "file" u := by
  have hfile (host : String) (path : Path.Read) : HasAuthority "file" (file host path) :=
    ⟨rfl, _, rfl⟩
  rw [onFile.eq_def] at h
  split at h
  · unfold fileWithHost at h
    extract_lets name at h
    split at h
    · exact Except.ok.inj h ▸ hfile _ _
    · obtain ⟨host, _, h⟩ := bind_eq_ok.mp h
      exact Except.ok.inj h ▸ hfile _ _
  · next heq => cases heq
  · next heq => cases heq
  · exact Except.ok.inj h ▸ hfile _ _

/-- A URL of a scheme that files or hosts have has an authority. -/
theorem hasAuthority_of_onScheme {r : Reference} {scheme : String} {u : Url}
    (hkind : Kind.of scheme ≠ .other) (h : r.onScheme none scheme = .ok u) :
    HasAuthority scheme u := by
  rw [onScheme] at h
  split at h
  · next hfile =>
    have hscheme : scheme = "file" := by
      rw [Kind.of] at hfile
      split at hfile
      · assumption
      · split at hfile <;> cases hfile
    exact hscheme ▸ hasAuthority_of_onFile h
  · obtain ⟨⟨authority, rest⟩, _, h⟩ := bind_eq_ok.mp h
    exact Except.ok.inj h ▸ ⟨rfl, authority, rfl⟩
  · next hother => exact absurd hother hkind

/-- A reference with a scheme is read by it. -/
theorem resolve_of_scheme {r : Reference} {scheme : String} (h : r.scheme = some scheme)
    (base? : Option Url) : r.resolve base? = r.finish <$> r.onScheme base? scheme := by
  rw [resolve.eq_def, h]

/-- A reference without a scheme needs a base. -/
theorem resolve_of_scheme_eq_none {r : Reference} (h : r.scheme = none) :
    r.resolve none = .error .relativeWithoutBase := by
  rw [resolve.eq_def, h]
  rfl

end Reference

/-- Whether the text of a URL up to its fragment, with an empty fragment, is read as this URL. -/
def ReadsBack (u : Url) : Prop :=
  parse? (u.withoutFragment.text ++ "#") = .ok (u.withoutFragment.withFragment [])

/-- The text of a URL with an authority begins with its scheme, a colon and two slashes. -/
theorem exists_text_of_authority {u : Url} {a : Authority} (h : u.authority = some a) :
    ∃ rest, u.text.toList = u.scheme.toList ++ [':', '/', '/'] ++ rest := by
  rw [text, resource, hierarchy, h]
  simp only [String.toList_append, List.append_assoc]
  exact ⟨_, rfl⟩

/-- A URL that reads back is read from its text whatever the base. -/
theorem ReadsBack.join? {u : Url} (h : u.ReadsBack) (scope : Url) :
    scope.join? (u.withoutFragment.text ++ "#") = .ok (u.withoutFragment.withFragment []) := by
  generalize htext : u.withoutFragment.text ++ "#" = text
  rw [ReadsBack, htext, parse?] at h
  rw [Url.join?]
  cases hscheme : (Reference.read text).scheme with
  | none =>
    rw [Reference.resolve_of_scheme_eq_none hscheme] at h
    cases h
  | some scheme =>
    rw [Reference.resolve_of_scheme hscheme] at h ⊢
    obtain ⟨w, hw, hu⟩ := map_eq_ok.mp h
    have hslashes (hkind : Kind.of scheme ≠ .other) :
        ∃ more, (Reference.read text).hierarchy = '/' :: '/' :: more := by
      obtain ⟨hsame, a, ha⟩ := Reference.hasAuthority_of_onScheme hkind hw
      have hscheme' : u.withoutFragment.scheme = scheme :=
        (congrArg Url.scheme hu).symm.trans hsame
      have hauthority : u.withoutFragment.authority = some a :=
        (congrArg Url.authority hu).symm.trans ha
      obtain ⟨rest, hrest⟩ := exists_text_of_authority hauthority
      have hlist : text = String.ofList (scheme.toList ++ [':', '/', '/'] ++ (rest ++ ['#'])) := by
        rw [← String.ofList_toList (s := text), ← htext, String.toList_append, hrest, hscheme',
          List.append_assoc _ rest]
        rfl
      rw [hlist] at hscheme ⊢
      exact Reference.exists_hierarchy (Reference.inScheme_of_read hscheme) _ hscheme
    rw [Reference.onScheme_eq_none hslashes]
    exact h

end Url

/-! ## Addresses as references -/

namespace Address

/-- Whether an address is read as itself: the URL of the document reads back, and the fragment is
legible. -/
inductive Readable : String → Prop
  | ofAnchor (base : Url) (fragment : String) (hsign : base.SignFree) (hreads : base.ReadsBack)
      (hlegible : Legible fragment) : Readable (ofAnchor base fragment)

/-- The fragment of a document does not matter for what a fragment stands for in it. -/
theorem ofFragment_withoutFragment (u : Url) (fragment : String) :
    ofFragment u.withoutFragment fragment = ofFragment u fragment := by
  rw [ofFragment, ofFragment, ofAnchor_withoutFragment]
  cases Pointer.parse? fragment with
  | some p => exact ofAnchor_withoutFragment u p.text
  | none => rfl

/-- An address in a document that reads back is joined to any base as the document with what is kept of
the fragment. -/
theorem join?_ofAnchor {base : Url} (hsign : base.SignFree) (hreads : base.ReadsBack)
    (fragment : String) (scope : Url) :
    scope.join? (ofAnchor base fragment) =
      .ok (base.withoutFragment.withFragment
        (Url.Reference.keptFragment fragment.toList)) := by
  have hjoin := hreads.join? scope
  rw [Url.join?] at hjoin ⊢
  rw [ofAnchor, Url.resolve_append_sign _ hsign.sign_not_mem_text, hjoin]
  rfl

end Address

namespace Pool

/-- An address in a document that reads back is looked up as its fragment is read, whatever the base. -/
theorem resolve_ofAnchor (pool : Pool) {base : Url} (hsign : base.SignFree) (hreads : base.ReadsBack)
    (fragment : String) (scope : Url) :
    pool.resolve (Address.ofAnchor base fragment) scope =
      match pool.entry? (Address.ofFragment base (Address.readFragment fragment)) with
      | some entry => .ok entry
      | none => .error (.unresolvable
          (Address.ofFragment base (Address.readFragment fragment))) := by
  have hresolve := resolve_of_join? pool (Address.join?_ofAnchor hsign hreads fragment scope)
  rw [Address.ofUrl_withFragment, Address.ofFragment_withoutFragment] at hresolve
  exact hresolve

/-- A listed address that is read as itself leads from every base to the schema that it is listed for,
which is the first one that claims it. -/
theorem resolve_of_mem_addresses {documents : List Document}
    (hbases : ∀ d ∈ documents, d.base.SignFree) {address : String}
    (hlisted : address ∈ (empty.addAll documents).addresses)
    (hreadable : Address.Readable address) :
    ∃ before spot after, documents.flatMap Document.spots = before ++ spot :: after ∧
      spot.Claims Url.scope? address ∧
        (∀ earlier ∈ before, ¬ earlier.Claims Url.scope? address) ∧
          (empty.addAll documents).get? address = some spot.node ∧
            ∀ scope, (empty.addAll documents).resolve address scope =
              .ok (spot.entry Url.scope?) := by
  obtain ⟨entry, hentry⟩ : ∃ entry, Pool.entry? (empty.addAll documents) address = some entry := by
    rw [← Option.isSome_iff_exists, Pool.entry?, List.find?_isSome]
    obtain ⟨entry, hmem, haddress⟩ := mem_addresses.mp hlisted
    exact ⟨entry, hmem, List.contains_iff_mem.mpr haddress⟩
  obtain ⟨before, spot, after, hspots, hclaims, hfirst, rfl⟩ := entry?_eq_some_iff.mp hentry
  have hresolve (scope : Url) : (empty.addAll documents).resolve address scope =
      .ok (spot.entry Url.scope?) := by
    have hdocument : spot.document.base.SignFree := by
      have hspot : spot ∈ documents.flatMap Document.spots :=
        hspots ▸ List.mem_append_right _ List.mem_cons_self
      obtain ⟨d, hd, hspot⟩ := List.mem_flatMap.mp hspot
      rw [Schema.document_of_mem_spots hspot]
      exact hbases d hd
    cases hreadable with
    | ofAnchor base fragment hsign hreads hlegible =>
      rw [resolve_ofAnchor _ hsign hreads, Address.readFragment_eq_self_iff.mpr hlegible,
        hclaims.ofFragment_eq hdocument hsign, hentry]
  refine ⟨before, spot, after, hspots, hclaims, hfirst, ?_, hresolve⟩
  rw [get?, hresolve]
  rfl

end Pool

namespace Document

/-- A document with one member among its definitions. -/
def withDefinition (name : String) : Document where
  name := .main
  root := .object { definitions := some [(name, .boolean true)] }
  base := Url.implicitBase

end Document

/-- A member name with a blank and a slash in it is legible in an address. -/
theorem resolve_listed_definition :
    let documents := [Document.withDefinition "a b/c"]
    let address := "json-schema:///#/definitions/a b~1c"
    address ∈ (Pool.empty.addAll documents).addresses ∧ Address.Readable address ∧
      ∀ scope, ((Pool.empty.addAll documents).resolve address scope).toOption.isSome = true := by
  intro documents address
  have hlisted : address ∈ (Pool.empty.addAll documents).addresses :=
    Pool.mem_addresses.mpr ⟨_, List.mem_cons_of_mem _ List.mem_cons_self, by decide⟩
  have hreadable : Address.Readable address := by
    have hlegible : Address.Legible "/definitions/a b~1c" :=
      Address.readFragment_eq_self_iff.mp (by decide)
    exact .ofAnchor Url.implicitBase _ Url.signFree_implicitBase rfl hlegible
  obtain ⟨before, spot, after, -, -, -, -, hresolve⟩ :=
    Pool.resolve_of_mem_addresses (fun d hd => by
      rw [List.mem_singleton.mp hd]
      exact Url.signFree_implicitBase) hlisted hreadable
  refine ⟨hlisted, hreadable, fun scope => ?_⟩
  rw [hresolve scope]
  rfl

/-- A listed address with two digits behind a percent sign leads nowhere. -/
theorem not_resolve_listed_percent :
    let documents := [Document.withDefinition "a%41"]
    let address := "json-schema:///#/definitions/a%41"
    address ∈ (Pool.empty.addAll documents).addresses ∧
      ((Pool.empty.addAll documents).get? address).isNone = true ∧
        ((Pool.empty.addAll documents).resolve address Url.implicitBase).toOption.isNone = true := by
  intro documents address
  refine ⟨Pool.mem_addresses.mpr ⟨_, List.mem_cons_of_mem _ List.mem_cons_self, by decide⟩, ?_, ?_⟩
  · decide
  · decide

end Draft6
