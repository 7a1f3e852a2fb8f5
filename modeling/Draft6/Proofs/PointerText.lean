import Draft6.Proofs.PointerAddress

/-!
# The text of a pointer

Any segments can be written in one text and read back from it. A text is refused only when it begins with
another character than a slash. Every other text stands for a pointer, and it is the text of this
pointer exactly when every tilde in it is part of an escape.

A segment is read by two replacements, one after the other. This is the same as going over it once from
left to right, because what the first replacement puts down is no part of what the second one looks for.
-/

namespace Draft6

namespace Text

variable {mark : Char}

/-- The parts of a text do not hold the mark. -/
theorem mark_not_mem_of_mem_split {cs part : List Char} (h : part ∈ split mark cs) : mark ∉ part := by
  induction cs generalizing part with
  | nil =>
    obtain rfl := List.mem_singleton.mp h
    exact List.not_mem_nil
  | cons c cs ih =>
    rw [split] at h
    split at h
    · rcases List.mem_cons.mp h with rfl | h
      · exact List.not_mem_nil
      · exact ih h
    · next hc =>
      split at h
      · obtain rfl := List.mem_singleton.mp h
        exact fun hmark => hc (List.mem_singleton.mp hmark).symm
      · next first parts hparts =>
        rw [hparts, List.forall_mem_cons] at ih
        rcases List.mem_cons.mp h with rfl | h
        · exact List.not_mem_cons_of_ne_of_not_mem (Ne.symm hc) (ih.1)
        · exact ih.2 part h

/-- The parts of a text with the mark in front of each are the text with the mark in front. -/
theorem flatMap_split (mark : Char) (cs : List Char) :
    (split mark cs).flatMap (mark :: ·) = mark :: cs := by
  induction cs with
  | nil => rfl
  | cons c cs ih =>
    rw [split]
    split
    · next hc => rw [List.flatMap_cons, ih, hc, List.singleton_append]
    · split
      · next hparts =>
        rw [hparts] at ih
        cases ih
      · next first parts hparts =>
        rw [hparts, List.flatMap_cons, List.cons_append, List.cons.injEq] at ih
        rw [List.flatMap_cons, List.cons_append, List.cons_append, ih.2]

end Text

namespace Pointer

/-! ## One reading of a segment -/

/-- The characters that an escaped text stands for, read once from left to right. A tilde that no zero and
no one follows stands for itself. -/
def readEscapes : List Char → List Char
  | [] => []
  | '~' :: '0' :: rest => '~' :: readEscapes rest
  | '~' :: '1' :: rest => '/' :: readEscapes rest
  | c :: rest => c :: readEscapes rest

/-- A text from which pairs were taken begins as before, or with what was put down. -/
theorem head?_replacePair (first second replaced : Char) (cs : List Char) :
    (replacePair first second replaced cs).head? = cs.head? ∨
      (replacePair first second replaced cs).head? = some replaced := by
  fun_cases replacePair first second replaced cs with
  | case1 => exact .inl rfl
  | case2 c => exact .inl rfl
  | case3 c d rest hpair => exact .inr rfl
  | case4 c d rest hpair => exact .inl rfl

/-- To read the slashes first and then the tildes is to read both at once. -/
theorem replacePair_replacePair (cs : List Char) :
    replacePair '~' '0' '~' (replacePair '~' '1' '/' cs) = readEscapes cs := by
  fun_induction readEscapes cs with
  | case1 => rfl
  | case2 rest ih =>
    rw [replacePair_of_snd_ne (by decide), replacePair_of_ne (c := '0') (by decide), replacePair_pair, ih]
  | case3 rest ih => rw [replacePair_pair, replacePair_of_ne (by decide), ih]
  | case4 c rest hzero hone ih =>
    by_cases hc : c = '~'
    · subst hc
      cases rest with
      | nil => rfl
      | cons d rest =>
        have hd : d ≠ '1' := fun heq => hone rest rfl (heq ▸ rfl)
        have hd' : d ≠ '0' := fun heq => hzero rest rfl (heq ▸ rfl)
        rw [replacePair_of_snd_ne hd, ← ih]
        -- What comes next is no zero: it was none before, or it is a slash now.
        cases hnext : replacePair '~' '1' '/' (d :: rest) with
        | nil => rfl
        | cons e others =>
          refine replacePair_of_snd_ne (fun he => ?_) others
          have hhead := head?_replacePair '~' '1' '/' (d :: rest)
          rw [hnext, he] at hhead
          rcases hhead with heq | heq
          · exact hd' (Option.some.inj heq).symm
          · exact absurd (Option.some.inj heq) (by decide)
    · rw [replacePair_of_ne hc, replacePair_of_ne hc, ih]

/-- A segment is what its escaped form reads as from left to right. -/
theorem unescape_eq (segment : String) :
    unescape segment = String.ofList (readEscapes segment.toList) := by
  rw [unescape, replacePair_replacePair]

/-! ## Texts without a stray tilde -/

/-- Whether every tilde of a text has a zero or a one behind it. -/
def Escaped (cs : List Char) : Prop :=
  ∀ before rest, cs = before ++ '~' :: rest → rest.head? = some '0' ∨ rest.head? = some '1'

/-- The first character has its own condition. -/
theorem escaped_cons_iff {c : Char} {cs : List Char} :
    Escaped (c :: cs) ↔ (c = '~' → cs.head? = some '0' ∨ cs.head? = some '1') ∧ Escaped cs := by
  constructor
  · intro h
    exact ⟨fun hc => h [] cs (by rw [hc]; rfl),
      fun before rest heq => h (c :: before) rest (by rw [heq]; rfl)⟩
  · rintro ⟨hfirst, hrest⟩ before rest heq
    cases before with
    | nil =>
      obtain ⟨rfl, rfl⟩ := List.cons.inj heq
      exact hfirst rfl
    | cons d before => exact hrest before rest (List.cons.inj heq).2

/-- Another character than a tilde makes no stray tilde. -/
theorem Escaped.cons {c : Char} {cs : List Char} (hc : c ≠ '~') (h : Escaped cs) :
    Escaped (c :: cs) :=
  escaped_cons_iff.mpr ⟨fun heq => absurd heq hc, h⟩

/-- A part of a text up to a slash or up to the end has no stray tilde when the text has none. -/
theorem Escaped.part {before part after : List Char} (h : Escaped (before ++ part ++ after))
    (hafter : ∀ c ∈ after.head?, c = '/') : Escaped part := by
  rintro first rest rfl
  have hhead := h (before ++ first) (rest ++ after) (by simp)
  cases rest with
  | cons c rest => exact hhead
  | nil =>
    rw [List.nil_append] at hhead
    rcases hhead with hzero | hone
    · exact absurd (hafter '0' hzero) (by decide)
    · exact absurd (hafter '1' hone) (by decide)

/-- An escaped text has no stray tilde. -/
theorem escaped_flatMap_escapeChar (cs : List Char) {rest : List Char} (hrest : Escaped rest) :
    Escaped (cs.flatMap escapeChar ++ rest) := by
  induction cs with
  | nil => exact hrest
  | cons c cs ih =>
    rw [List.flatMap_cons, List.append_assoc, escapeChar]
    split
    · exact escaped_cons_iff.mpr ⟨fun _ => .inl rfl, ih.cons (by decide)⟩
    · next hc =>
      split
      · exact escaped_cons_iff.mpr ⟨fun _ => .inr rfl, ih.cons (by decide)⟩
      · exact ih.cons hc

/-- The text of a pointer has no stray tilde. -/
theorem escaped_text (p : Pointer) : Escaped p.text.toList := by
  rw [toList_text]
  induction p.segments with
  | nil => exact fun before rest heq => by cases before <;> cases heq
  | cons s segments ih =>
    rw [List.flatMap_cons, List.cons_append, escape, String.toList_ofList]
    exact (escaped_flatMap_escapeChar _ ih).cons (by decide)

/-- A text without a stray tilde and without a slash is escaped again as it was. -/
theorem flatMap_escapeChar_readEscapes {cs : List Char} (h : Escaped cs) (hslash : '/' ∉ cs) :
    (readEscapes cs).flatMap escapeChar = cs := by
  fun_induction readEscapes cs with
  | case1 => rfl
  | case2 rest ih | case3 rest ih =>
    have hrest := (escaped_cons_iff.mp (escaped_cons_iff.mp h).2).2
    rw [List.flatMap_cons, ih hrest fun hmem => hslash (by simp [hmem])]
    rfl
  | case4 c rest hzero hone ih =>
    obtain ⟨hfirst, hrest⟩ := escaped_cons_iff.mp h
    have hc : c ≠ '~' := by
      intro hc
      rcases hfirst hc with hhead | hhead
      · exact hzero rest.tail hc (List.eq_cons_of_mem_head? hhead)
      · exact hone rest.tail hc (List.eq_cons_of_mem_head? hhead)
    have hc' : c ≠ '/' := (List.ne_of_not_mem_cons hslash).symm
    rw [List.flatMap_cons, escapeChar, if_neg hc, if_neg hc',
      ih hrest (List.not_mem_of_not_mem_cons hslash), List.singleton_append]

/-! ## Reading and writing -/

/-- A text stands for no pointer when it begins with another character than a slash. -/
theorem parse?_eq_none_iff (s : String) :
    parse? s = none ↔ s ≠ "" ∧ s.toList.head? ≠ some '/' := by
  have hempty : s ≠ "" ↔ s.toList ≠ [] := String.toList_inj.not.symm
  rw [hempty, parse?]
  cases s.toList with
  | nil => simp
  | cons c rest =>
    by_cases hc : c = '/' <;> simp [hc]

/-- A text without a stray tilde is the text of the pointer that it stands for. -/
theorem text_of_parse? {s : String} {p : Pointer} (h : parse? s = some p) (hs : Escaped s.toList) :
    p.text = s := by
  rw [← String.toList_inj, toList_text]
  rw [parse?] at h
  split at h
  · next hempty =>
    obtain rfl := Option.some.inj h
    rw [hempty]
    rfl
  · next rest hslash =>
    obtain rfl := Option.some.inj h
    rw [hslash] at hs ⊢
    rw [List.flatMap_map, ← Text.flatMap_split]
    refine List.flatMap_congr fun part hpart => congrArg ('/' :: ·) ?_
    have hescaped : Escaped part := by
      obtain ⟨before, after, hparts⟩ := List.append_of_mem hpart
      rw [← Text.flatMap_split, hparts, List.flatMap_append, List.flatMap_cons,
        ← List.append_assoc] at hs
      have hsurrounded : Escaped (before.flatMap ('/' :: ·) ++ ['/'] ++ part ++
          after.flatMap ('/' :: ·)) := by
        simpa using hs
      refine hsurrounded.part ?_
      cases after with
      | nil => exact fun c hc => absurd hc (Option.not_mem_none c)
      | cons next after => exact fun c hc => (Option.some.inj hc).symm
    rw [unescape_eq, escape, String.toList_ofList, String.toList_ofList, String.toList_ofList,
      flatMap_escapeChar_readEscapes hescaped (Text.mark_not_mem_of_mem_split hpart)]
  · cases h

/-- Segments can be written and read back, whatever they hold, so different pointers have different texts.
A text is refused when it is not empty and does not begin with a slash. What a text stands for does not
change when it is written and read again, and the text does not change either exactly when every tilde
in it has a zero or a one behind it. The segments between the slashes are read from left to right. -/
theorem text_and_segments :
    (∀ segments : List String, parse? (text ⟨segments⟩) = some ⟨segments⟩) ∧
      Function.Injective text ∧
      (∀ s, parse? s = none ↔ s ≠ "" ∧ s.toList.head? ≠ some '/') ∧
      (∀ s, ((parse? s).map text).bind parse? = parse? s) ∧
      (∀ s, (parse? s).map text = some s ↔ (parse? s).isSome = true ∧ Escaped s.toList) ∧
      ∀ segment, unescape segment = String.ofList (readEscapes segment.toList) := by
  refine ⟨fun segments => parse?_text ⟨segments⟩, fun p q h => text_inj.mp h, parse?_eq_none_iff,
    fun s => ?_, fun s => ?_, unescape_eq⟩
  · cases hparse : parse? s with
    | none => rfl
    | some p => exact parse?_text p
  · constructor
    · intro h
      obtain ⟨p, hparse, rfl⟩ := Option.map_eq_some_iff.mp h
      exact ⟨by rw [hparse]; rfl, escaped_text p⟩
    · rintro ⟨hsome, hescaped⟩
      obtain ⟨p, hparse⟩ := Option.isSome_iff_exists.mp hsome
      rw [hparse, Option.map_some, text_of_parse? hparse hescaped]

/-- Only the tilde before the letter is stray, so it alone is written in another way. -/
example : (parse? "/~01~1/~~1/~a/").map (fun p => (p.segments, p.text)) =
    some (["~1/", "~/", "~a", ""], "/~01~1/~0~1/~0a/") := by decide

end Pointer

end Draft6
