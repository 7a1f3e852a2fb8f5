import Draft6.Url.FilePath
import Draft6.Url.Reader
import Draft6.Proofs.UrlHost

/-!
# What stands before a fragment

A text is cut at its first number sign before anything else of it is read as a URL. So no part of the
URL but its fragment holds one, and of two such URLs with fragments that have one text, both the parts
before the fragment and the fragments are the same.
-/

namespace Draft6

namespace Url

/-- A URL without a number sign in front of its fragment. -/
structure SignFree (u : Url) : Prop where
  scheme : '#' ∉ u.scheme.toList
  credentials : ∀ a ∈ u.authority, '#' ∉ a.credentials.toList
  host : ∀ a ∈ u.authority, '#' ∉ a.host.toList
  path : '#' ∉ u.path.toList
  query : ∀ q ∈ u.query, '#' ∉ q.toList

namespace Path

variable {path : List Char}

/-- Leaving out the last segment brings no number sign. -/
theorem sign_not_mem_shorten (kind : Kind) (h : '#' ∉ path) : '#' ∉ shorten kind path := by
  rw [shorten]
  split
  · exact h
  · exact fun hsign => h (List.dropWhile_subset _ hsign)

/-- Leaving out the last slash brings no number sign. -/
theorem sign_not_mem_dropSlash (h : '#' ∉ path) : '#' ∉ dropSlash path := by
  rw [dropSlash.eq_def]
  split
  · split
    · exact List.not_mem_of_not_mem_cons h
    · exact h
  · exact h

/-- A slash is no number sign. -/
theorem sign_not_mem_withSlash (h : '#' ∉ path) : '#' ∉ withSlash path := by
  rw [withSlash]
  split
  · exact h
  · exact List.not_mem_cons_of_ne_of_not_mem (by decide) h

/-- A segment is settled without new number signs. -/
theorem sign_not_mem_settle (kind : Kind) {path read current segment : List Char}
    (hpath : '#' ∉ path) (hread : '#' ∉ read) (hcurrent : '#' ∉ current)
    (hsegment : '#' ∉ segment) :
    '#' ∉ (settle kind path read current segment).1 ∧
      '#' ∉ (settle kind path read current segment).2 := by
  induction segment generalizing path read current with
  | nil =>
    exact ⟨hpath, fun h => List.not_mem_append hcurrent hread (List.mem_reverse.mp h)⟩
  | cons c segment ih =>
    have hc : '#' ≠ c := List.ne_of_not_mem_cons hsegment
    have hrest : '#' ∉ segment := List.not_mem_of_not_mem_cons hsegment
    have hboth : '#' ∉ current ++ read := List.not_mem_append hcurrent hread
    rw [settle]
    split
    · exact ih hpath hboth List.not_mem_nil hrest
    · split
      · have hslash : '#' ∉ '/' :: (current ++ read) :=
          List.not_mem_cons_of_ne_of_not_mem (by decide) hboth
        refine ih (List.not_mem_append (fun h => hslash (List.mem_of_mem_drop h)) hpath)
          (fun h => hslash (List.dropLast_subset _ h)) ?_ hrest
        exact List.not_mem_cons_of_ne_of_not_mem hc List.not_mem_nil
      · exact ih hpath hread (List.not_mem_cons_of_ne_of_not_mem hc hcurrent) hrest

/-- A segment is written without number signs. -/
theorem sign_not_mem_place (kind : Kind) {s : State} (hpath : '#' ∉ s.path) {segment : List Char}
    (hsegment : '#' ∉ segment) (isLast : Bool) :
    '#' ∉ (place kind s segment isLast).path := by
  obtain ⟨hsettled, hraw⟩ :=
    sign_not_mem_settle kind hpath List.not_mem_nil List.not_mem_nil hsegment
  unfold place
  generalize settle kind s.path [] [] segment = settled at hsettled hraw
  obtain ⟨path, raw⟩ := settled
  extract_lets close
  have hclose (path : List Char) (h : '#' ∉ path) : '#' ∉ close path := by
    by_cases hlast : isLast = true
    · simpa only [close, if_pos hlast] using h
    · simpa only [close, if_neg hlast] using List.not_mem_cons_of_ne_of_not_mem (by decide) h
  have htext : '#' ∉ Percent.encode pathSet raw := Percent.sign_not_mem_encode hraw
  have hall : '#' ∉ (Percent.encode pathSet raw).reverse ++ path :=
    List.not_mem_append (fun h => htext (List.mem_reverse.mp h)) hsettled
  dsimp only
  split
  · exact sign_not_mem_withSlash hsettled
  · have hshort (kind : Kind) := sign_not_mem_shorten kind (sign_not_mem_dropSlash hsettled)
    by_cases hlast : isLast = true
    · simpa only [if_pos hlast] using hshort _
    · simpa only [if_neg hlast] using sign_not_mem_withSlash (hshort _)
  · next letter _ htwo _ _ =>
    split
    · rw [htwo] at htext
      have hletter : '#' ≠ letter := List.ne_of_not_mem_cons htext
      refine hclose _ ?_
      refine List.not_mem_cons_of_ne_of_not_mem (by decide) ?_
      exact List.not_mem_cons_of_ne_of_not_mem hletter hsettled
    · exact hclose _ hall
  · exact hclose _ hall

/-- Segments are written without number signs. -/
theorem sign_not_mem_placeAll (kind : Kind) {s : State} (hpath : '#' ∉ s.path)
    {parts : List (List Char)} (hparts : ∀ part ∈ parts, '#' ∉ part) :
    '#' ∉ (placeAll kind s parts).path := by
  induction parts generalizing s with
  | nil => exact hpath
  | cons part parts ih =>
    exact ih (sign_not_mem_place kind hpath (hparts part List.mem_cons_self) _)
      fun next hnext => hparts next (List.mem_cons_of_mem part hnext)

/-- The segments of a text without number signs have none. -/
theorem sign_not_mem_segments (kind : Kind) {cs part : List Char} (h : '#' ∉ cs)
    (hpart : part ∈ segments kind cs) : '#' ∉ part := by
  intro hsign
  obtain ⟨c, hc, heq⟩ := List.mem_map.mp (Text.mem_of_mem_split hpart hsign)
  split at heq
  · cases heq
  · exact h (heq ▸ hc)

/-- A path is read without number signs. -/
theorem sign_not_mem_read (kind : Kind) {start : String} (hstart : '#' ∉ start.toList)
    {cs : List Char} (h : '#' ∉ cs) : '#' ∉ (read kind start cs).text.toList := by
  have hpath : '#' ∉
      (placeAll kind ⟨start.toList.reverse, false⟩ (segments kind cs)).path.reverse := by
    rw [List.mem_reverse]
    refine sign_not_mem_placeAll kind ?_ fun part hpart => sign_not_mem_segments kind h hpart
    exact fun hsign => hstart (List.mem_reverse.mp hsign)
  rw [read, String.toList_ofList]
  split
  · refine List.not_mem_cons_of_ne_of_not_mem (by decide) fun hsign => ?_
    exact hpath (List.dropWhile_subset _ hsign)
  · exact hpath

/-- The path without its last segment has no new number signs. -/
theorem sign_not_mem_folder (kind : Kind) {path : String} (h : '#' ∉ path.toList) :
    '#' ∉ (folder kind path).toList := by
  rw [folder, String.toList_ofList, List.mem_reverse]
  exact sign_not_mem_shorten kind fun hsign => h (List.mem_reverse.mp hsign)

/-- A drive letter is no number sign. -/
theorem sign_not_mem_drive {path drive : String} (hpath : '#' ∉ path.toList)
    (h : drive? path = some drive) : '#' ∉ drive.toList := by
  unfold drive? at h
  extract_lets first at h
  split at h
  · obtain rfl := Option.some.inj h
    rw [String.toList_ofList]
    exact fun hsign => hpath (List.mem_of_mem_drop (List.takeWhile_subset _ hsign))
  · cases h

end Path

namespace Reference

/-- A reference without a number sign in front of its fragment. -/
structure SignFree (r : Reference) : Prop where
  scheme : ∀ s ∈ r.scheme, '#' ∉ s.toList
  hierarchy : '#' ∉ r.hierarchy
  query : ∀ cs ∈ r.query, '#' ∉ cs

/-- Only a number sign has a number sign in lower case. -/
theorem toLower_ne_sign {c : Char} (h : c ≠ '#') : c.toLower ≠ '#' := by
  intro heq
  by_cases hletter : c.val ≥ 'A'.val ∧ c.val ≤ 'Z'.val
  · have hchar : c.toLower = ⟨c.val + ('a'.val - 'A'.val), _⟩ := dif_pos hletter
    have hlower : 0x41 ≤ c.val.toNat := hletter.1
    have hupper : c.val.toNat ≤ 0x5A := hletter.2
    have hval : (c.val + 32).toNat = 0x23 := congrArg Char.toNat (hchar.symm.trans heq)
    rw [UInt32.toNat_add] at hval
    change (c.val.toNat + 32) % 4294967296 = 0x23 at hval
    omega
  · have hchar : c.toLower = c := dif_neg hletter
    exact h (hchar.symm.trans heq)

/-- A scheme and what follows it hold no number sign. -/
theorem sign_not_mem_cutScheme {cs rest : List Char} {scheme : String} (h : '#' ∉ cs)
    (hcut : cutScheme? cs = some (scheme, rest)) : '#' ∉ scheme.toList ∧ '#' ∉ rest := by
  rw [cutScheme?] at hcut
  split at hcut
  · cases hcut
  · next before after hparts =>
    have hfirst : (Text.cut ':' cs).1 = before := congrArg Prod.fst hparts
    have hbefore : '#' ∉ before := by
      rw [← hfirst]
      exact fun hsign => h (Text.mem_of_mem_fst_cut hsign)
    have hafter : '#' ∉ after := fun hsign =>
      h (Text.mem_of_mem_snd_cut (congrArg Prod.snd hparts) hsign)
    extract_lets written at hcut
    split at hcut
    · obtain ⟨rfl, rfl⟩ := Prod.mk.inj (Option.some.inj hcut)
      refine ⟨?_, hafter⟩
      rw [String.toList_ofList, List.mem_map]
      rintro ⟨c, hc, hlower⟩
      have hne : c ≠ '#' := by
        rintro rfl
        exact hbefore (List.mem_of_mem_filter hc)
      exact toLower_ne_sign hne hlower
    · cases hcut

/-- A text is read into parts without number signs. -/
theorem signFree_read (text : String) : (read text).SignFree := by
  unfold read
  have hbefore := Text.mark_not_mem_fst_cut '#' (trim text.toList)
  generalize Text.cut '#' (trim text.toList) = whole at hbefore ⊢
  obtain ⟨before, fragment⟩ := whole
  have haddress : '#' ∉ (Text.cut '?' before).1 := fun hsign =>
    hbefore (Text.mem_of_mem_fst_cut hsign)
  have hquery : ∀ cs ∈ (Text.cut '?' before).2, '#' ∉ cs := fun cs hcs hsign =>
    hbefore (Text.mem_of_mem_snd_cut hcs hsign)
  have hwritten : ∀ cs ∈ (Text.cut '?' before).2.map withoutBreaks, '#' ∉ cs := by
    intro cs hcs hsign
    obtain ⟨given, hgiven, rfl⟩ := Option.map_eq_some_iff.mp hcs
    exact hquery given hgiven (List.mem_of_mem_filter hsign)
  have hdrop (cs : List Char) (h : '#' ∉ cs) : '#' ∉ dropBreaks cs := fun hsign =>
    h (List.dropWhile_subset _ hsign)
  dsimp only
  split
  · next scheme hierarchy hcut =>
    obtain ⟨hscheme, hrest⟩ := sign_not_mem_cutScheme haddress hcut
    refine ⟨fun s hs => ?_, hdrop _ hrest, hwritten⟩
    obtain rfl := Option.some.inj hs
    exact hscheme
  · refine ⟨fun s hs => ?_, hdrop _ haddress, hwritten⟩
    cases hs

/-- The query of a reference brings no number sign. -/
theorem SignFree.finish {r : Reference} (h : r.SignFree) {u : Url} (hu : u.SignFree) :
    (r.finish u).SignFree := by
  refine ⟨hu.scheme, hu.credentials, hu.host, hu.path, ?_⟩
  intro q hq
  rw [Reference.finish] at hq
  split at hq
  · next cs hcs =>
    obtain rfl := Option.some.inj hq
    rw [String.toList_ofList]
    exact Percent.sign_not_mem_encode (h.query cs hcs)
  · exact hu.query q hq

end Reference

/-- Slashes and what follows them hold no number sign. -/
theorem sign_not_mem_cutSlashes {cs : List Char} (h : '#' ∉ cs) :
    '#' ∉ (cutSlashes cs).1 ∧ '#' ∉ (cutSlashes cs).2 := by
  induction cs with
  | nil => exact ⟨List.not_mem_nil, List.not_mem_nil⟩
  | cons c cs ih =>
    have hc : '#' ≠ c := List.ne_of_not_mem_cons h
    obtain ⟨hslashes, hrest⟩ := ih (List.not_mem_of_not_mem_cons h)
    rw [cutSlashes]
    split
    · exact ⟨hslashes, hrest⟩
    · split
      · exact ⟨List.not_mem_cons_of_ne_of_not_mem hc hslashes, hrest⟩
      · exact ⟨List.not_mem_nil, h⟩

/-- Credentials and what follows them hold no number sign. -/
theorem sign_not_mem_cutCredentials {cs credentials address : List Char} (h : '#' ∉ cs)
    (hcut : cutCredentials? cs = some (credentials, address)) :
    '#' ∉ credentials ∧ '#' ∉ address := by
  have hreversed : '#' ∉ cs.reverse := fun hsign => h (List.mem_reverse.mp hsign)
  rw [cutCredentials?] at hcut
  split at hcut
  · obtain ⟨rfl, rfl⟩ := Prod.mk.inj (Option.some.inj hcut)
    refine ⟨fun hsign => hreversed ?_, fun hsign => hreversed ?_⟩
    · exact List.dropWhile_subset _ (List.mem_of_mem_tail (List.mem_reverse.mp hsign))
    · exact List.takeWhile_subset _ (List.mem_reverse.mp hsign)
  · cases hcut

/-- The text of credentials holds no number sign. -/
theorem sign_not_mem_credentialsText {cs : List Char} (h : '#' ∉ cs) :
    '#' ∉ (credentialsText cs).toList := by
  unfold credentialsText
  have hname : '#' ∉ (Text.cut ':' cs).1 := fun hsign => h (Text.mem_of_mem_fst_cut hsign)
  have hpassword : ∀ password ∈ (Text.cut ':' cs).2, '#' ∉ password := fun password hp hsign =>
    h (Text.mem_of_mem_snd_cut hp hsign)
  generalize Text.cut ':' cs = parts at hname hpassword ⊢
  obtain ⟨name, password?⟩ := parts
  have hfinish (written : List Char) (h : '#' ∉ written) :
      '#' ∉ (if (Percent.encode credentialSet name).isEmpty ∧ written.isEmpty then ""
        else String.ofList (Percent.encode credentialSet name ++ written ++ ['@'])).toList := by
    split
    · exact List.not_mem_nil
    · rw [String.toList_ofList]
      exact List.not_mem_append
        (List.not_mem_append (Percent.sign_not_mem_encode hname) h) (by decide)
  refine hfinish _ ?_
  split
  · exact List.not_mem_nil
  · exact List.not_mem_nil
  · next password _ =>
    exact List.not_mem_cons_of_ne_of_not_mem (by decide)
      (Percent.sign_not_mem_encode (hpassword password rfl))

/-- A host and the port after it hold no number sign. -/
theorem sign_not_mem_cutPort {cs : List Char} (h : '#' ∉ cs) (inBrackets : Bool) :
    '#' ∉ (cutPort inBrackets cs).1 ∧ ∀ port ∈ (cutPort inBrackets cs).2, '#' ∉ port := by
  induction cs generalizing inBrackets with
  | nil => exact ⟨List.not_mem_nil, fun _ hport => by cases hport⟩
  | cons c cs ih =>
    have hc : '#' ≠ c := List.ne_of_not_mem_cons h
    have hcs : '#' ∉ cs := List.not_mem_of_not_mem_cons h
    rw [cutPort]
    split
    · refine ⟨List.not_mem_nil, fun port hport => ?_⟩
      obtain rfl := Option.some.inj hport
      exact hcs
    · obtain ⟨hhost, hport⟩ := ih hcs (c = '[' || (c ≠ ']' && inBrackets))
      exact ⟨List.not_mem_cons_of_ne_of_not_mem hc hhost, hport⟩

/-- What follows a port holds no number sign. -/
theorem sign_not_mem_readPort {scheme : String} {cs rest : List Char} {port : Option Nat}
    (h : '#' ∉ cs) (hread : readPort scheme cs = .ok (port, rest)) : '#' ∉ rest := by
  obtain ⟨number, _, hread⟩ := bind_eq_ok.mp hread
  obtain ⟨_, rfl⟩ := Prod.mk.inj (Except.ok.inj hread)
  exact fun hsign => h (List.dropWhile_subset _ hsign)

/-- What goes on after a port, if there is one, goes on with a text without number signs. -/
theorem exists_of_port {β : Type} {scheme : String} {port? : Option (List Char)}
    (h : ∀ digits ∈ port?, '#' ∉ digits) {next : Option Nat × List Char → Except UrlError β} {b : β}
    (hread : (match port? with
      | none => pure (none, []) >>= next
      | some digits => readPort scheme digits >>= next) = .ok b) :
    ∃ port others, '#' ∉ others ∧ next (port, others) = .ok b := by
  cases port? with
  | none => exact ⟨none, [], List.not_mem_nil, hread⟩
  | some digits =>
    obtain ⟨⟨port, others⟩, hport, hread⟩ := bind_eq_ok.mp hread
    exact ⟨port, others, sign_not_mem_readPort (h digits rfl) hport, hread⟩

/-- An authority and what follows it hold no number sign. -/
theorem sign_not_mem_readAuthority {scheme : String} {hasMore : Bool} {cs rest : List Char}
    {a : Authority} (h : '#' ∉ cs) (hread : readAuthority scheme hasMore cs = .ok (a, rest)) :
    '#' ∉ a.credentials.toList ∧ '#' ∉ a.host.toList ∧ '#' ∉ rest := by
  unfold readAuthority at hread
  extract_lets kind inside after at hread
  have hinside : '#' ∉ inside := fun hsign =>
    h (List.takeWhile_subset _ (List.mem_of_mem_filter hsign))
  have hafter : '#' ∉ after := fun hsign => h (List.dropWhile_subset _ hsign)
  have hcredentials : '#' ∉ ((cutCredentials? inside).getD ([], inside)).1 ∧
      '#' ∉ ((cutCredentials? inside).getD ([], inside)).2 := by
    cases hcut : cutCredentials? inside with
    | none => exact ⟨List.not_mem_nil, hinside⟩
    | some parts => exact sign_not_mem_cutCredentials hinside hcut
  generalize (cutCredentials? inside).getD ([], inside) = parts at hcredentials hread
  obtain ⟨credentials, address⟩ := parts
  have hhost := sign_not_mem_cutPort hcredentials.2 false
  dsimp only at hread hcredentials hhost
  generalize cutPort false address = parts at hhost hread
  obtain ⟨host, port?⟩ := parts
  dsimp only at hread
  split at hread
  · cases hread
  · split at hread
    · cases hread
    · have hfinish (name : String) (hname : '#' ∉ name.toList)
          (hread : ∃ port others, '#' ∉ others ∧
            (if credentialsText credentials ≠ "" ∧ name = "" then do
              Except.error UrlError.emptyHost
              pure (⟨credentialsText credentials, name, port⟩, others ++ after)
            else pure (⟨credentialsText credentials, name, port⟩, others ++ after)) =
              Except.ok (a, rest)) :
          '#' ∉ a.credentials.toList ∧ '#' ∉ a.host.toList ∧ '#' ∉ rest := by
        obtain ⟨port, others, hothers, hread⟩ := hread
        split at hread
        · cases hread
        · obtain ⟨rfl, rfl⟩ := Prod.mk.inj (Except.ok.inj hread)
          exact ⟨sign_not_mem_credentialsText hcredentials.1, hname,
            List.not_mem_append hothers hafter⟩
      split at hread
      · obtain ⟨name, hname, hread⟩ := bind_eq_ok.mp hread
        exact hfinish name (Host.sign_not_mem_domain hname) (exists_of_port hhost.2 hread)
      · obtain ⟨name, hname, hread⟩ := bind_eq_ok.mp hread
        exact hfinish name (Host.sign_not_mem_text hname) (exists_of_port hhost.2 hread)

/-- The path after an authority holds no number sign. -/
theorem sign_not_mem_pathAfterAuthority (kind : Kind) {cs : List Char} (h : '#' ∉ cs) :
    '#' ∉ (pathAfterAuthority kind cs).toList := by
  unfold pathAfterAuthority
  refine Path.sign_not_mem_read kind (by decide) ?_
  split
  · split <;> decide
  · split
    · exact h
    · exact List.not_mem_cons_of_ne_of_not_mem (by decide) h

namespace Reference

variable {r : Reference}

/-- A URL with an authority is made without number signs. -/
theorem signFree_withAuthority {scheme : String} (hscheme : '#' ∉ scheme.toList) {cs : List Char}
    (hcs : '#' ∉ cs) {u : Url} (hu : r.withAuthority scheme cs = .ok u) : u.SignFree := by
  obtain ⟨⟨authority, rest⟩, hread, hu⟩ := bind_eq_ok.mp hu
  obtain rfl := Except.ok.inj hu
  obtain ⟨hcredentials, hhost, hrest⟩ := sign_not_mem_readAuthority hcs hread
  refine ⟨hscheme, ?_, ?_, sign_not_mem_pathAfterAuthority _ hrest, fun q hq => by cases hq⟩
  · intro a ha
    obtain rfl := Option.some.inj ha
    exact hcredentials
  · intro a ha
    obtain rfl := Option.some.inj ha
    exact hhost

/-- A URL with a path on a base is made without number signs. -/
theorem signFree_onBase (h : r.SignFree) {base u : Url} (hbase : base.SignFree)
    (hu : r.onBase base = .ok u) : u.SignFree := by
  unfold onBase at hu
  extract_lets kind path at hu
  have hpath (start : String) (hstart : '#' ∉ start.toList) (cs : List Char) (hcs : '#' ∉ cs) :
      (path start cs).SignFree :=
    ⟨hbase.scheme, hbase.credentials, hbase.host, Path.sign_not_mem_read kind hstart hcs,
      fun q hq => by cases hq⟩
  obtain ⟨hslashes, hrest⟩ := sign_not_mem_cutSlashes h.hierarchy
  split at hu
  · obtain rfl := Except.ok.inj hu
    exact hbase
  · split at hu
    · obtain rfl := Except.ok.inj hu
      have hfolder := Path.sign_not_mem_folder kind hbase.path
      refine hpath _ ?_ _ h.hierarchy
      split
      · decide
      · exact hfolder
    · next hcut =>
      obtain rfl := Except.ok.inj hu
      rw [hcut] at hrest
      exact hpath _ (by decide) _ hrest
    · next more rest hcut =>
      rw [hcut] at hslashes hrest
      have hmore : '#' ∉ more :=
        List.not_mem_of_not_mem_cons (List.not_mem_of_not_mem_cons hslashes)
      exact signFree_withAuthority hbase.scheme (List.not_mem_append hmore hrest) hu
    · next rest _ _ _ hcut =>
      rw [hcut] at hrest
      exact signFree_withAuthority hbase.scheme hrest hu

/-- A URL of the file scheme on a host is made without number signs. -/
theorem signFree_onHost {host path : String} (hhost : '#' ∉ host.toList)
    (hpath : '#' ∉ path.toList) :
    (⟨"file", some ⟨"", host, none⟩, path, none, none⟩ : Url).SignFree := by
  refine ⟨(by decide : '#' ∉ "file".toList), ?_, ?_, hpath, fun q hq => by cases hq⟩
  · intro a ha
    obtain rfl := Option.some.inj ha
    exact List.not_mem_nil
  · intro a ha
    obtain rfl := Option.some.inj ha
    exact hhost

/-- The host of a URL holds no number sign. -/
theorem signFree_hostOf {u : Url} (h : u.SignFree) : '#' ∉ (hostOf u).toList := by
  rw [hostOf]
  cases ha : u.authority with
  | none => exact List.not_mem_nil
  | some a => exact h.host a ha

/-- A URL of the file scheme is made without number signs. -/
theorem signFree_file {host : String} {path : Path.Read} (hhost : '#' ∉ host.toList)
    (hpath : '#' ∉ path.text.toList) : (file host path).SignFree := by
  refine signFree_onHost ?_ hpath
  split
  · exact List.not_mem_nil
  · exact hhost

/-- A URL of the file scheme with a host is made without number signs. -/
theorem signFree_fileWithHost {cs : List Char} (h : '#' ∉ cs) {u : Url}
    (hu : fileWithHost cs = .ok u) : u.SignFree := by
  unfold fileWithHost at hu
  extract_lets name at hu
  split at hu
  · obtain rfl := Except.ok.inj hu
    exact signFree_file List.not_mem_nil (Path.sign_not_mem_read .file (by decide) h)
  · obtain ⟨host, hhost, hu⟩ := bind_eq_ok.mp hu
    obtain rfl := Except.ok.inj hu
    refine signFree_file ?_ (Path.sign_not_mem_read .file (by decide) fun hsign =>
      h (List.dropWhile_subset _ hsign))
    split
    · exact List.not_mem_nil
    · exact Host.sign_not_mem_domain hhost

/-- A URL of the file scheme is made without number signs, perhaps on a base. -/
theorem signFree_onFile (h : r.SignFree) {base? : Option Url}
    (hbase : ∀ base ∈ base?, base.SignFree) {u : Url} (hu : r.onFile base? = .ok u) :
    u.SignFree := by
  unfold onFile at hu
  have hrest := (sign_not_mem_cutSlashes h.hierarchy).2
  have hasFile (cs : List Char) (hcs : '#' ∉ cs) : (asFile cs).SignFree :=
    signFree_file List.not_mem_nil (Path.sign_not_mem_read .file (by decide) hcs)
  split at hu
  · next hcut =>
    refine signFree_fileWithHost (fun hsign => h.hierarchy ?_) hu
    exact List.mem_of_mem_tail (List.dropWhile_subset _ (List.mem_of_mem_tail hsign))
  · next rest base hcut =>
    have hbase := hbase base rfl
    rw [hcut] at hrest
    split at hu
    · obtain rfl := Except.ok.inj hu
      exact hasFile rest hrest
    · split at hu
      · next drive hdrive =>
        obtain rfl := Except.ok.inj hu
        refine signFree_file List.not_mem_nil (Path.sign_not_mem_read .file ?_ ?_)
        · rw [String.toList_append]
          exact List.not_mem_append (by decide) (Path.sign_not_mem_drive hbase.path hdrive)
        · exact List.not_mem_cons_of_ne_of_not_mem (by decide) hrest
      · obtain rfl := Except.ok.inj hu
        refine signFree_onHost (signFree_hostOf hbase) (Path.sign_not_mem_read .file ?_ hrest)
        decide
  · next base hcut =>
    have hbase := hbase base rfl
    split at hu
    · obtain rfl := Except.ok.inj hu
      exact hbase
    · split at hu
      · obtain rfl := Except.ok.inj hu
        exact hasFile _ h.hierarchy
      · obtain rfl := Except.ok.inj hu
        have hfolder := Path.sign_not_mem_folder .file hbase.path
        exact ⟨hbase.scheme, hbase.credentials, hbase.host,
          Path.sign_not_mem_read .file hfolder h.hierarchy, fun q hq => by cases hq⟩
  · next hcut =>
    obtain rfl := Except.ok.inj hu
    rw [hcut] at hrest
    exact hasFile _ hrest

/-- A URL with a scheme is made without number signs. -/
theorem signFree_onScheme (h : r.SignFree) {base? : Option Url}
    (hbase : ∀ base ∈ base?, base.SignFree) {scheme : String} (hscheme : '#' ∉ scheme.toList)
    {u : Url} (hu : r.onScheme base? scheme = .ok u) : u.SignFree := by
  have hsame : ∀ base ∈ base?.filter fun base => base.scheme = scheme, base.SignFree :=
    fun base hmem => hbase base (Option.mem_filter_iff.mp hmem).1
  have hrest := (sign_not_mem_cutSlashes h.hierarchy).2
  unfold onScheme at hu
  split at hu
  · exact signFree_onFile h hsame hu
  · dsimp only at hu
    split at hu
    · next base hbase =>
      split at hu
      · exact signFree_onBase h (hsame base hbase) hu
      · exact signFree_withAuthority hscheme hrest hu
    · exact signFree_withAuthority hscheme hrest hu
  · have hbreaks : '#' ∉ withoutBreaks r.hierarchy := fun hsign =>
      h.hierarchy (List.mem_of_mem_filter hsign)
    have hpath (path : String) (hpath : '#' ∉ path.toList) :
        (⟨scheme, none, path, none, none⟩ : Url).SignFree := by
      refine ⟨hscheme, ?_, ?_, hpath, ?_⟩ <;> exact fun _ hmem => by cases hmem
    split at hu
    · next rest hcut =>
      rw [hcut] at hbreaks
      have hrest := List.not_mem_of_not_mem_cons (List.not_mem_of_not_mem_cons hbreaks)
      exact signFree_withAuthority hscheme hrest hu
    · next rest _ hcut =>
      rw [hcut] at hbreaks
      obtain rfl := Except.ok.inj hu
      refine hpath _ (Path.sign_not_mem_read .other ?_ (List.not_mem_of_not_mem_cons hbreaks))
      decide
    · obtain rfl := Except.ok.inj hu
      refine hpath _ ?_
      rw [String.toList_ofList]
      exact Percent.sign_not_mem_encode hbreaks

/-- A reference gives a URL without a number sign in front of its fragment. -/
theorem SignFree.resolve (h : r.SignFree) {base? : Option Url}
    (hbase : ∀ base ∈ base?, base.SignFree) {u : Url} (hu : r.resolve base? = .ok u) :
    u.SignFree := by
  obtain ⟨found, hfound, rfl⟩ := map_eq_ok.mp hu
  refine h.finish ?_
  split at hfound
  · next scheme hscheme => exact signFree_onScheme h hbase (h.scheme scheme hscheme) hfound
  · cases hfound
  · next base _ =>
    split at hfound
    · obtain rfl := Except.ok.inj hfound
      exact hbase _ rfl
    · split at hfound
      · cases hfound
      · split at hfound
        · exact signFree_onFile h hbase hfound
        · exact signFree_onBase h (hbase _ rfl) hfound

end Reference

/-- A text by itself stands for a URL without a number sign in front of its fragment. -/
theorem signFree_of_parse {text : String} {u : Url} (h : parse? text = .ok u) : u.SignFree :=
  (Reference.signFree_read text).resolve (fun _ hnone => by cases hnone) h

/-- Joining keeps number signs out of what stands in front of the fragment. -/
theorem SignFree.join {base u : Url} (hbase : base.SignFree) {text : String}
    (h : base.join? text = .ok u) : u.SignFree := by
  refine (Reference.signFree_read text).resolve (fun b hb => ?_) h
  obtain rfl := Option.some.inj hb
  exact hbase

/-- Leaving out the fragment keeps what stands in front of it free of number signs. -/
theorem SignFree.withoutFragment {u : Url} (h : u.SignFree) : u.withoutFragment.SignFree := by
  refine ⟨h.scheme, h.credentials, h.host, ?_, h.query⟩
  rw [Url.withoutFragment]
  dsimp only
  split
  · rw [trimBlanksRight, String.toList_ofList]
    exact fun hsign => h.path ((List.rdropWhile_prefix _ u.path.toList).subset hsign)
  · exact h.path

/-- The base inside a schema has no number sign. -/
theorem SignFree.scope {base u : Url} (hbase : base.SignFree) {id : String}
    (h : base.scope? id = .ok u) : u.SignFree := by
  obtain ⟨joined, hjoined, rfl⟩ := map_eq_ok.mp h
  exact (hbase.join hjoined).withoutFragment

/-- The text of an authority holds no number sign. -/
theorem SignFree.sign_not_mem_authority {u : Url} (h : u.SignFree) {a : Authority}
    (ha : u.authority = some a) : '#' ∉ a.text.toList := by
  rw [Authority.text, String.toList_append, String.toList_append]
  refine List.not_mem_append (List.not_mem_append (h.credentials a ha) (h.host a ha)) ?_
  split
  · next port _ =>
    rw [String.toList_append, Nat.toString_eq_repr, Nat.toList_repr]
    exact List.not_mem_append (by decide) (sign_not_mem_toDigits (by decide) port)
  · exact List.not_mem_nil

/-- The text of a URL up to its fragment holds no number sign. -/
theorem SignFree.sign_not_mem_resource {u : Url} (h : u.SignFree) : '#' ∉ u.resource.toList := by
  have hhierarchy : '#' ∉ u.hierarchy.toList := by
    rw [hierarchy]
    split
    · next a ha =>
      rw [String.toList_append, String.toList_append]
      have hauthority := h.sign_not_mem_authority ha
      exact List.not_mem_append (List.not_mem_append (by decide) hauthority) h.path
    · split
      · rw [String.toList_append]
        exact List.not_mem_append (by decide) h.path
      · exact h.path
  rw [resource, String.toList_append, String.toList_append, String.toList_append]
  refine List.not_mem_append
    (List.not_mem_append (List.not_mem_append h.scheme (by decide)) hhierarchy) ?_
  split
  · next query hquery =>
    rw [String.toList_append]
    exact List.not_mem_append (by decide) (h.query query hquery)
  · exact List.not_mem_nil

/-- The text of a URL without a fragment holds no number sign. -/
theorem SignFree.sign_not_mem_text {u : Url} (h : u.SignFree) :
    '#' ∉ u.withoutFragment.text.toList := by
  have hresource := h.withoutFragment.sign_not_mem_resource
  rw [text, String.toList_append]
  exact List.not_mem_append hresource List.not_mem_nil

/-- The implicit base has no number sign. -/
theorem signFree_implicitBase : implicitBase.SignFree := by
  refine ⟨by decide, ?_, ?_, by decide, fun q hq => by cases hq⟩
  · intro a ha
    obtain rfl := Option.some.inj ha
    exact List.not_mem_nil
  · intro a ha
    obtain rfl := Option.some.inj ha
    exact List.not_mem_nil

/-- The base that a text names has no number sign. -/
theorem signFree_of_base {text : String} {u : Url} (h : base? text = .ok u) : u.SignFree :=
  signFree_implicitBase.scope h

/-- The URL of a file has no number sign, since one in a name is written as a byte. -/
theorem signFree_ofFilePath (components : List String) : (ofFilePath components).SignFree := by
  have hname (cs : List Char) : '#' ∉ Percent.encode fileNameSet cs :=
    Percent.sign_not_mem_encode_of_set fun _ => rfl
  refine Reference.signFree_onHost List.not_mem_nil ?_
  split
  · decide
  · rw [String.toList_join, List.flatMap_map, List.mem_flatMap]
    rintro ⟨name, _, hsign⟩
    rw [String.toList_append] at hsign
    rcases List.mem_append.mp hsign with hslash | hsign
    · exact absurd hslash (by decide)
    · rw [String.toList_ofList] at hsign
      exact hname _ hsign

end Url

namespace Address

/-- The characters of an address. -/
theorem toList_ofAnchor (u : Url) (anchor : String) :
    (ofAnchor u anchor).toList = u.withoutFragment.text.toList ++ '#' :: anchor.toList := by
  rw [ofAnchor, String.toList_append, String.toList_append, List.append_assoc]
  rfl

/-- Two addresses are one when both the documents and the names in them are, as long as no number sign
stands in front of the one that begins a name. -/
theorem ofAnchor_inj_of_sign_not_mem {u v : Url} (hu : '#' ∉ u.withoutFragment.text.toList)
    (hv : '#' ∉ v.withoutFragment.text.toList) {first second : String} :
    ofAnchor u first = ofAnchor v second ↔
      u.withoutFragment.text = v.withoutFragment.text ∧ first = second := by
  constructor
  · intro h
    have hlist := congrArg (fun address => Text.cut '#' address.toList) h
    simp only [toList_ofAnchor, Text.cut_append_mark hu, Text.cut_append_mark hv] at hlist
    obtain ⟨hdocument, hname⟩ := Prod.mk.inj hlist
    exact ⟨String.toList_inj.mp hdocument, String.toList_inj.mp (Option.some.inj hname)⟩
  · rintro ⟨hdocument, rfl⟩
    rw [ofAnchor, ofAnchor, hdocument]

/-- Two addresses are one when both the documents and the names in them are. -/
theorem ofAnchor_inj {u v : Url} (hu : u.SignFree) (hv : v.SignFree) {first second : String} :
    ofAnchor u first = ofAnchor v second ↔
      u.withoutFragment.text = v.withoutFragment.text ∧ first = second :=
  ofAnchor_inj_of_sign_not_mem hu.sign_not_mem_text hv.sign_not_mem_text

end Address

end Draft6
