import Draft6.Url.Host
import Draft6.Proofs.FragmentReference

/-!
# Hosts hold no number sign

A number sign in a URL begins its fragment. The host of a special URL cannot hold one: the one form
of a domain name refuses it, what stands for other characters is written with letters, digits and
hyphens, and addresses are written anew. The host of any other URL refuses it as it is.
-/

namespace Draft6

namespace Text

variable {mark c : Char} {cs : List Char}

/-- Nothing is cut before the first mark. -/
theorem cut_append {before : List Char} (h : mark ∉ before) (cs : List Char) :
    cut mark (before ++ cs) = (before ++ (cut mark cs).1, (cut mark cs).2) := by
  induction before with
  | nil => rfl
  | cons d before ih =>
    have hd : d ≠ mark := (List.ne_of_not_mem_cons h).symm
    rw [List.cons_append, cut, if_neg hd, ih (List.not_mem_of_not_mem_cons h)]
    rfl

/-- A text is cut at its first mark. -/
theorem cut_append_mark {before : List Char} (h : mark ∉ before) (rest : List Char) :
    cut mark (before ++ mark :: rest) = (before, some rest) := by
  rw [cut_append h, cut, if_pos rfl, List.append_nil]

/-- A text that is cut has a mark between its parts, and none before it. -/
theorem cut_eq_iff {before rest : List Char} :
    cut mark cs = (before, some rest) ↔ cs = before ++ mark :: rest ∧ mark ∉ before := by
  constructor
  · intro h
    induction cs generalizing before with
    | nil => cases h
    | cons d cs ih =>
      rw [cut] at h
      split_ifs at h with hd
      · cases h
        exact ⟨hd ▸ rfl, List.not_mem_nil⟩
      · obtain ⟨rfl, hrest⟩ := Prod.mk.inj h
        obtain ⟨hcs, hbefore⟩ := ih (Prod.ext rfl hrest)
        exact ⟨congrArg (d :: ·) hcs, List.not_mem_cons_of_ne_of_not_mem (Ne.symm hd) hbefore⟩
  · rintro ⟨rfl, hbefore⟩
    exact cut_append_mark hbefore rest

/-- The text before a mark holds no mark. -/
theorem mark_not_mem_fst_cut (mark : Char) (cs : List Char) : mark ∉ (cut mark cs).1 := by
  induction cs with
  | nil => exact List.not_mem_nil
  | cons d cs ih =>
    rw [cut]
    split
    · exact List.not_mem_nil
    · next hne =>
      intro hmem
      rcases List.mem_cons.mp hmem with rfl | hmem
      · exact hne rfl
      · exact ih hmem

/-- The text before a mark is part of the text. -/
theorem mem_of_mem_fst_cut (h : c ∈ (cut mark cs).1) : c ∈ cs := by
  induction cs with
  | nil => exact absurd h List.not_mem_nil
  | cons d cs ih =>
    rw [cut] at h
    split at h
    · exact absurd h List.not_mem_nil
    · rcases List.mem_cons.mp h with rfl | h
      · exact List.mem_cons_self
      · exact List.mem_cons_of_mem d (ih h)

/-- The text after a mark is part of the text. -/
theorem mem_of_mem_snd_cut {rest : List Char} (hrest : (cut mark cs).2 = some rest)
    (h : c ∈ rest) : c ∈ cs := by
  obtain ⟨hcs, _⟩ := cut_eq_iff.mp (Prod.ext rfl hrest)
  rw [hcs]
  exact List.mem_append_right _ (List.mem_cons_of_mem mark h)

/-- The parts of a text are parts of it. -/
theorem mem_of_mem_split {part : List Char} (hpart : part ∈ split mark cs) (h : c ∈ part) :
    c ∈ cs := by
  induction cs generalizing part with
  | nil =>
    obtain rfl := List.mem_singleton.mp hpart
    exact h
  | cons d cs ih =>
    rw [split] at hpart
    split at hpart
    · rcases List.mem_cons.mp hpart with rfl | hpart
      · exact absurd h List.not_mem_nil
      · exact List.mem_cons_of_mem d (ih hpart h)
    · split at hpart
      · obtain rfl := List.mem_singleton.mp hpart
        obtain rfl := List.mem_singleton.mp h
        exact List.mem_cons_self
      · next first parts hsplit =>
        rw [hsplit] at ih
        rcases List.mem_cons.mp hpart with rfl | hpart
        · rcases List.mem_cons.mp h with rfl | h
          · exact List.mem_cons_self
          · exact List.mem_cons_of_mem d (ih List.mem_cons_self h)
        · exact List.mem_cons_of_mem d (ih (List.mem_cons_of_mem first hpart) h)

end Text

namespace Percent

variable {set : Char → Bool} {cs : List Char}

/-- A written text has no number sign when those of the text are written as bytes. -/
theorem sign_not_mem_encode_of_set (h : '#' ∈ cs → set '#' = true) : '#' ∉ encode set cs := by
  have hdigit : ∀ d : Fin 16, Hex.upper d ≠ '#' := by decide
  have hplain : ∀ c ∈ cs, c.toNat < 0x80 → set c = false → c ≠ '#' := by
    rintro c hc _ hset rfl
    rw [h hc] at hset
    cases hset
  exact fun hsign => forall_mem_encode hplain (by decide) hdigit _ hsign rfl

/-- A text without number signs is written without them. -/
theorem sign_not_mem_encode (h : '#' ∉ cs) : '#' ∉ encode set cs :=
  sign_not_mem_encode_of_set fun hsign => absurd hsign h

end Percent

namespace Url

/-- Digits are no number signs. -/
theorem sign_not_mem_toDigits {base : Nat} (hbase : 1 < base) (n : Nat) :
    '#' ∉ Nat.toDigits base n := by
  have hdigit (d : Nat) : '#' ≠ Nat.digitChar d := (Nat.digitChar_ne '#' (by decide)).symm
  induction n using Nat.strongRecOn with
  | _ n ih =>
    rw [Nat.toDigits_eq_if hbase]
    split
    · exact fun h => hdigit n (List.mem_singleton.mp h)
    · next hle =>
      intro h
      rcases List.mem_append.mp h with h | h
      · exact ih (n / base) (Nat.div_lt_self (by omega) hbase) h
      · exact hdigit _ (List.mem_singleton.mp h)

/-- What joins texts without number signs has none. -/
theorem sign_not_mem_intercalate {separator : List Char} {parts : List (List Char)}
    (hseparator : '#' ∉ separator) (h : ∀ part ∈ parts, '#' ∉ part) :
    '#' ∉ List.intercalate separator parts := by
  induction parts with
  | nil => exact List.not_mem_nil
  | cons part parts ih =>
    have hpart := h part List.mem_cons_self
    have hparts := ih fun part hmem => h part (List.mem_cons_of_mem _ hmem)
    cases parts with
    | nil =>
      rw [List.intercalate_singleton]
      exact hpart
    | cons next parts =>
      rw [List.intercalate_cons_cons]
      simp only [List.mem_append, not_or]
      exact ⟨⟨hpart, hseparator⟩, hparts⟩

end Url

namespace Punycode

/-- A digit is no number sign. -/
theorem digit_ne_sign (value : Nat) : digit value ≠ '#' := by
  have hcode (n : Nat) (hn : n ≠ 0x23) : Char.ofNat n ≠ '#' := by
    intro heq
    by_cases hvalid : n.isValidChar
    · have hchar : Char.ofNat n = Char.ofNatAux n hvalid := dif_pos hvalid
      exact hn (congrArg Char.toNat (hchar.symm.trans heq))
    · have hchar : Char.ofNat n = '\x00' := dif_neg hvalid
      exact absurd (hchar.symm.trans heq) (by decide)
  rw [digit]
  split
  · exact hcode _ (by change 0x61 + value ≠ 0x23; omega)
  · exact hcode _ (by change 0x30 + (value - 26) ≠ 0x23; omega)

/-- The digits of a number are no number signs. -/
theorem sign_not_mem_digits (bias fuel position number : Nat) :
    '#' ∉ digits bias fuel position number := by
  induction fuel generalizing position number with
  | zero => exact List.not_mem_nil
  | succ fuel ih =>
    simp only [digits]
    split
    · exact fun h => digit_ne_sign _ (List.mem_singleton.mp h).symm
    · intro h
      rcases List.mem_cons.mp h with h | h
      · exact digit_ne_sign _ h.symm
      · exact ih _ _ h

/-- A step writes no number sign. -/
theorem sign_not_mem_step {s : State} (h : '#' ∉ s.output) (basic code : Nat) (c : Char) :
    '#' ∉ (step basic code s c).output := by
  rw [step]
  split
  · exact h
  · split
    · exact List.not_mem_append h (sign_not_mem_digits _ _ _ _)
    · exact h

/-- The steps over a label write no number sign. -/
theorem sign_not_mem_foldl_step (basic code : Nat) (label : List Char) (s : State)
    (h : '#' ∉ s.output) : '#' ∉ (label.foldl (step basic code) s).output := by
  induction label generalizing s with
  | nil => exact h
  | cons c label ih => exact ih _ (sign_not_mem_step h basic code c)

/-- No code is written with a number sign. -/
theorem sign_not_mem_writeCodes (label : List Char) (basic : Nat) (codes : List Nat)
    (previous : Nat) (s : State) (h : '#' ∉ s.output) :
    '#' ∉ (writeCodes label basic codes previous s).output := by
  induction codes generalizing previous s with
  | nil => exact h
  | cons code codes ih =>
    rw [writeCodes]
    refine ih _ _ ?_
    exact sign_not_mem_foldl_step basic code label _ h

/-- The written form of a label without number signs has none. -/
theorem sign_not_mem_encode {label : List Char} (h : '#' ∉ label) : '#' ∉ encode label := by
  have hbasic : '#' ∉ label.filter fun c => c.toNat < 0x80 := fun hmem =>
    h (List.mem_of_mem_filter hmem)
  refine List.not_mem_append ?_ (sign_not_mem_writeCodes _ _ _ _ _ List.not_mem_nil)
  split
  · exact List.not_mem_nil
  · exact List.not_mem_append hbasic (by decide)

end Punycode

namespace Url

namespace Domain

/-- The one form of a name holds no number sign. -/
theorem sign_not_mem_normal {cs name : List Char} (h : normal? cs = some name) : '#' ∉ name := by
  obtain ⟨codes, _, h⟩ := Option.bind_eq_some_iff.mp h
  extract_lets normal at h
  split at h
  · cases h
  · next hallowed =>
    obtain rfl := Option.some.inj h
    exact fun hsign => hallowed (List.any_eq_true.mpr ⟨'#', hsign, rfl⟩)

/-- The label that a written label stands for holds no number sign. -/
theorem sign_not_mem_read {label text : List Char} (hlabel : '#' ∉ label)
    (h : read? label = some text) : '#' ∉ text := by
  rw [read?] at h
  split at h
  · extract_lets written at h
    split at h
    · cases h
    · obtain ⟨decoded, _, h⟩ := Option.bind_eq_some_iff.mp h
      split at h
      · next hnormal =>
        obtain rfl := Option.some.inj h
        exact sign_not_mem_normal hnormal.1
      · cases h
  · obtain rfl := Option.some.inj h
    exact hlabel

/-- What a list of readings gives comes from readings. -/
theorem exists_of_mem_mapM {α β : Type} {f : α → Option β} {as : List α} {bs : List β}
    (h : as.mapM f = some bs) {b : β} (hb : b ∈ bs) : ∃ a ∈ as, f a = some b := by
  induction as generalizing bs with
  | nil =>
    obtain rfl := Option.some.inj h
    exact absurd hb List.not_mem_nil
  | cons a as ih =>
    rw [List.mapM_cons] at h
    obtain ⟨first, hfirst, h⟩ := Option.bind_eq_some_iff.mp h
    obtain ⟨others, hothers, h⟩ := Option.bind_eq_some_iff.mp h
    obtain rfl := Option.some.inj h
    rcases List.mem_cons.mp hb with rfl | hb
    · exact ⟨a, List.mem_cons_self, hfirst⟩
    · obtain ⟨d, hd, hread⟩ := ih hothers hb
      exact ⟨d, List.mem_cons_of_mem a hd, hread⟩

/-- A label in ASCII holds no number sign. -/
theorem sign_not_mem_written {label : List Char} (h : '#' ∉ label) : '#' ∉ written label := by
  rw [written]
  split
  · exact h
  · exact List.not_mem_append (by decide) (Punycode.sign_not_mem_encode h)

/-- A name that is in its one form holds no number sign. -/
theorem sign_not_mem_of_isPlain {cs : List Char} (h : isPlain cs = true) : '#' ∉ cs := by
  intro hsign
  have hallowed := List.all_eq_true.mp (Bool.and_eq_true_iff.mp h).1 '#' hsign
  revert hallowed
  decide

/-- A domain name in ASCII holds no number sign. -/
theorem sign_not_mem_ascii {cs name : List Char} (h : ascii? cs = some name) : '#' ∉ name := by
  rw [ascii?] at h
  split at h
  · next hplain =>
    obtain rfl := Option.some.inj h
    exact sign_not_mem_of_isPlain hplain
  · obtain ⟨normal, hnormal, h⟩ := Option.bind_eq_some_iff.mp h
    obtain ⟨labels, hlabels, h⟩ := Option.bind_eq_some_iff.mp h
    split at h
    · obtain rfl := Option.some.inj h
      refine sign_not_mem_intercalate (by decide) fun part hpart => ?_
      obtain ⟨label, hlabel, rfl⟩ := List.mem_map.mp hpart
      obtain ⟨given, hgiven, hread⟩ := exists_of_mem_mapM hlabels hlabel
      refine sign_not_mem_written (sign_not_mem_read (fun hsign => ?_) hread)
      exact sign_not_mem_normal hnormal (Text.mem_of_mem_split hgiven hsign)
    · cases h

end Domain

namespace Host

/-- The text of an IPv4 address holds no number sign. -/
theorem sign_not_mem_ipv4Text (address : Nat) : '#' ∉ (ipv4Text address).toList := by
  rw [ipv4Text, String.toList_intercalate, List.map_map]
  refine sign_not_mem_intercalate (by decide) fun part hpart => ?_
  obtain ⟨shift, _, rfl⟩ := List.mem_map.mp hpart
  rw [Function.comp_apply, Nat.toString_eq_repr, Nat.toList_repr]
  exact sign_not_mem_toDigits (by decide) _

/-- An IPv4 address holds no number sign. -/
theorem sign_not_mem_ipv4 {domain : List Char} {host : String} (h : ipv4? domain = .ok host) :
    '#' ∉ host.toList := by
  unfold ipv4? at h
  extract_lets parts at h
  split at h
  · split at h
    · cases h
    · split at h
      · obtain rfl := Except.ok.inj h
        exact sign_not_mem_ipv4Text _
      · cases h
  · cases h

/-- The text of an IPv6 address holds no number sign. -/
theorem sign_not_mem_ipv6Text (pieces : List Nat) : '#' ∉ (ipv6Text pieces).toList := by
  have hhex (ns : List Nat) :
      '#' ∉ (String.intercalate ":" (ns.map fun n => String.ofList (Nat.toDigits 16 n))).toList := by
    rw [String.toList_intercalate, List.map_map]
    refine sign_not_mem_intercalate (by decide) fun part hpart => ?_
    obtain ⟨n, _, rfl⟩ := List.mem_map.mp hpart
    rw [Function.comp_apply, String.toList_ofList]
    exact sign_not_mem_toDigits (by decide) n
  rw [ipv6Text]
  split
  · rw [String.toList_append, String.toList_append]
    exact List.not_mem_append (List.not_mem_append (hhex _) (by decide)) (hhex _)
  · exact hhex pieces

/-- A host in brackets holds no number sign. -/
theorem sign_not_mem_bracketed {cs : List Char} {host : String} (h : bracketed? cs = .ok host) :
    '#' ∉ host.toList := by
  rw [bracketed?] at h
  split at h
  · split at h
    · next pieces _ =>
      obtain rfl := Except.ok.inj h
      rw [String.toList_append, String.toList_append]
      exact List.not_mem_append (List.not_mem_append (by decide) (sign_not_mem_ipv6Text pieces))
        (by decide)
    · cases h
  · cases h

/-- The host of a special URL holds no number sign. -/
theorem sign_not_mem_domain {cs : List Char} {host : String} (h : domain? cs = .ok host) :
    '#' ∉ host.toList := by
  rw [domain?.eq_def] at h
  split at h
  · exact sign_not_mem_bracketed h
  · split at h
    · cases h
    · next name hname =>
      split at h
      · cases h
      · split at h
        · exact sign_not_mem_ipv4 h
        · obtain rfl := Except.ok.inj h
          rw [String.toList_ofList]
          exact Domain.sign_not_mem_ascii hname

/-- The host of a URL that is not special holds no number sign. -/
theorem sign_not_mem_text {cs : List Char} {host : String} (h : text? cs = .ok host) :
    '#' ∉ host.toList := by
  rw [text?.eq_def] at h
  split at h
  · exact sign_not_mem_bracketed h
  · split at h
    · cases h
    · next hallowed =>
      obtain rfl := Except.ok.inj h
      rw [String.toList_ofList]
      refine Percent.sign_not_mem_encode fun hsign => hallowed ?_
      exact List.any_eq_true.mpr ⟨'#', hsign, rfl⟩

end Host

end Url

end Draft6
