import Draft6.Pointer
import Mathlib.Data.List.Basic

/-!
# Texts read back

The bytes of characters read as these characters, a text with percent signs reads as the text that
was written so, and the text of a pointer reads as the pointer. Each reader looks at a few characters
at a time, so what it makes of the text of one item does not depend on what follows.

A reading in steps succeeds when each of its steps does.
-/

namespace Draft6

section Steps

variable {ε α β : Type}

/-- A reading in two steps succeeds when both steps do. -/
theorem bind_eq_ok {first : Except ε α} {next : α → Except ε β} {b : β} :
    (first >>= next) = .ok b ↔ ∃ a, first = .ok a ∧ next a = .ok b := by
  cases first with
  | error e => exact iff_of_false nofun nofun
  | ok a =>
    constructor
    · exact fun h => ⟨a, rfl, h⟩
    · rintro ⟨_, ⟨⟩, h⟩
      exact h

/-- Turning a result into another one neither makes nor loses a success. -/
theorem map_eq_ok {f : α → β} {result : Except ε α} {b : β} :
    f <$> result = .ok b ↔ ∃ a, result = .ok a ∧ f a = b := by
  cases result with
  | error e => exact iff_of_false nofun nofun
  | ok a =>
    constructor
    · exact fun h => ⟨a, rfl, Except.ok.inj h⟩
    · rintro ⟨_, ⟨⟩, rfl⟩
      rfl

end Steps

namespace Utf8

/-- The first byte of two starts a character of five bits. -/
theorem start_of_two {b : Nat} (hlower : 0xC2 ≤ b) (hupper : b ≤ 0xDF) :
    start b = ([], some ⟨b - 0xC0, 1, 0x80, 0xBF⟩) := by
  have hlarge : ¬ b < 0x80 := by omega
  simp only [start, if_neg hlarge, hlower, hupper, and_self, if_true]

/-- The first byte of three starts a character of four bits. The bounds of the second byte keep out
what has a shorter form, and the surrogates. -/
theorem start_of_three {b : Nat} (hlower : 0xE0 ≤ b) (hupper : b ≤ 0xEF) :
    start b = ([], some ⟨b - 0xE0, 2, if b = 0xE0 then 0xA0 else 0x80,
      if b = 0xED then 0x9F else 0xBF⟩) := by
  have hlarge : ¬ b < 0x80 := by omega
  have hnotTwo : ¬ (0xC2 ≤ b ∧ b ≤ 0xDF) := by omega
  simp only [start, if_neg hlarge, if_neg hnotTwo]
  by_cases hfirst : b = 0xE0
  · subst hfirst
    rfl
  · by_cases hsurrogates : b = 0xED
    · subst hsurrogates
      rfl
    · have hrange : 0xE1 ≤ b ∧ b ≤ 0xEF := by omega
      simp only [if_neg hfirst, if_neg hsurrogates, if_pos hrange]

/-- The first byte of four starts a character of three bits. The bounds of the second byte keep out
what has a shorter form, and what is too large. -/
theorem start_of_four {b : Nat} (hlower : 0xF0 ≤ b) (hupper : b ≤ 0xF4) :
    start b = ([], some ⟨b - 0xF0, 3, if b = 0xF0 then 0x90 else 0x80,
      if b = 0xF4 then 0x8F else 0xBF⟩) := by
  have hcases : b = 0xF0 ∨ b = 0xF1 ∨ b = 0xF2 ∨ b = 0xF3 ∨ b = 0xF4 := by omega
  rcases hcases with rfl | rfl | rfl | rfl | rfl <;> rfl

/-- Where no character is under way, a byte starts one. -/
theorem decodeFrom_none_cons (b : UInt8) (rest : List UInt8) :
    decodeFrom none (b :: rest) = (start b.toNat).1 ++ decodeFrom (start b.toNat).2 rest := rfl

/-- A byte goes on with the character under way. -/
theorem decodeFrom_some_cons (p : Partial) (b : UInt8) (rest : List UInt8) :
    decodeFrom (some p) (b :: rest) =
      (p.next b.toNat).1 ++ decodeFrom (p.next b.toNat).2 rest := rfl

/-- A byte within bounds adds six bits, and the last one completes the character. -/
theorem Partial.next_of_bounds {p : Partial} {b : Nat} (h : p.lower ≤ b ∧ b ≤ p.upper) :
    p.next b =
      if p.missing = 1 then ([Char.ofNat (p.bits * 64 + (b - 0x80))], none)
      else ([], some ⟨p.bits * 64 + (b - 0x80), p.missing - 1, 0x80, 0xBF⟩) := if_pos h

/-- A byte that begins a character brings it under way. -/
theorem decodeFrom_start {b : UInt8} {p : Partial} (rest : List UInt8)
    (hstart : start b.toNat = ([], some p)) :
    decodeFrom none (b :: rest) = decodeFrom (some p) rest := by
  rw [decodeFrom_none_cons, hstart, List.nil_append]

/-- A byte within bounds brings a character forward. -/
theorem decodeFrom_next {bits missing lower upper : Nat} {b : UInt8} (rest : List UInt8)
    (hlower : lower ≤ b.toNat) (hupper : b.toNat ≤ upper) (hmissing : missing ≠ 0) :
    decodeFrom (some ⟨bits, missing + 1, lower, upper⟩) (b :: rest) =
      decodeFrom (some ⟨bits * 64 + (b.toNat - 0x80), missing, 0x80, 0xBF⟩) rest := by
  have hnot : missing + 1 ≠ 1 := by omega
  rw [decodeFrom_some_cons, Partial.next_of_bounds ⟨hlower, hupper⟩, if_neg hnot]
  rfl

/-- The last byte within bounds completes a character. -/
theorem decodeFrom_last {bits lower upper : Nat} {b : UInt8} (rest : List UInt8)
    (hlower : lower ≤ b.toNat) (hupper : b.toNat ≤ upper) :
    decodeFrom (some ⟨bits, 1, lower, upper⟩) (b :: rest) =
      Char.ofNat (bits * 64 + (b.toNat - 0x80)) :: decodeFrom none rest := by
  rw [decodeFrom_some_cons, Partial.next_of_bounds ⟨hlower, hupper⟩, if_pos rfl]
  rfl

/-- A number below 256 is the number of its byte. -/
theorem toNat_ofNat_of_lt {n : Nat} (h : n < 256) : (UInt8.ofNat n).toNat = n := by
  rw [UInt8.toNat_ofNat', Nat.mod_eq_of_lt h]

/-- The byte of a number that needs only one. -/
theorem decodeFrom_one {v : Nat} (rest : List UInt8) (hupper : v ≤ 0x7F) :
    decodeFrom none (UInt8.ofNat v :: rest) = Char.ofNat v :: decodeFrom none rest := by
  have hsmall : v < 0x80 := by omega
  rw [decodeFrom_none_cons, toNat_ofNat_of_lt (show v < 256 by omega), start, if_pos hsmall]
  rfl

/-- The bytes of a number that needs two. -/
theorem decodeFrom_two {v : Nat} (rest : List UInt8) (hlower : 0x7F < v) (hupper : v ≤ 0x7FF) :
    decodeFrom none (UInt8.ofNat (v / 64 % 0x20 + 0xC0) :: UInt8.ofNat (v % 0x40 + 0x80) :: rest) =
      Char.ofNat v :: decodeFrom none rest := by
  have hfirst : (UInt8.ofNat (v / 64 % 0x20 + 0xC0)).toNat = v / 64 + 0xC0 := by
    rw [toNat_ofNat_of_lt (by omega)]
    omega
  have hlast : (UInt8.ofNat (v % 0x40 + 0x80)).toNat = v % 0x40 + 0x80 :=
    toNat_ofNat_of_lt (by omega)
  rw [decodeFrom_start _ (start_of_two (by omega) (by omega)),
    decodeFrom_last _ (by omega) (by omega), hfirst, hlast]
  have hbits : (v / 64 + 0xC0 - 0xC0) * 64 + (v % 0x40 + 0x80 - 0x80) = v := by omega
  rw [hbits]

/-- The bytes of a number that needs three, unless it is a surrogate. -/
theorem decodeFrom_three {v : Nat} (rest : List UInt8) (hlower : 0x7FF < v) (hupper : v ≤ 0xFFFF)
    (hvalid : v < 0xD800 ∨ 0xDFFF < v) :
    decodeFrom none (UInt8.ofNat (v / 4096 % 0x10 + 0xE0) :: UInt8.ofNat (v / 64 % 0x40 + 0x80) ::
      UInt8.ofNat (v % 0x40 + 0x80) :: rest) = Char.ofNat v :: decodeFrom none rest := by
  have hfirst : (UInt8.ofNat (v / 4096 % 0x10 + 0xE0)).toNat = v / 4096 + 0xE0 := by
    rw [toNat_ofNat_of_lt (by omega)]
    omega
  have hsecond : (UInt8.ofNat (v / 64 % 0x40 + 0x80)).toNat = v / 64 % 0x40 + 0x80 :=
    toNat_ofNat_of_lt (by omega)
  have hlast : (UInt8.ofNat (v % 0x40 + 0x80)).toNat = v % 0x40 + 0x80 :=
    toNat_ofNat_of_lt (by omega)
  rw [decodeFrom_start _ (start_of_three (by omega) (by omega)),
    decodeFrom_next _ (by split <;> omega) (by split <;> omega) (by omega),
    decodeFrom_last _ (by omega) (by omega), hfirst, hsecond, hlast]
  have hbits : ((v / 4096 + 0xE0 - 0xE0) * 64 + (v / 64 % 0x40 + 0x80 - 0x80)) * 64 +
      (v % 0x40 + 0x80 - 0x80) = v := by omega
  rw [hbits]

/-- The bytes of a number that needs four. -/
theorem decodeFrom_four {v : Nat} (rest : List UInt8) (hlower : 0xFFFF < v)
    (hupper : v < 0x110000) :
    decodeFrom none (UInt8.ofNat (v / 262144 % 0x08 + 0xF0) ::
      UInt8.ofNat (v / 4096 % 0x40 + 0x80) :: UInt8.ofNat (v / 64 % 0x40 + 0x80) ::
      UInt8.ofNat (v % 0x40 + 0x80) :: rest) = Char.ofNat v :: decodeFrom none rest := by
  have hfirst : (UInt8.ofNat (v / 262144 % 0x08 + 0xF0)).toNat = v / 262144 + 0xF0 := by
    rw [toNat_ofNat_of_lt (by omega)]
    omega
  have hsecond : (UInt8.ofNat (v / 4096 % 0x40 + 0x80)).toNat = v / 4096 % 0x40 + 0x80 :=
    toNat_ofNat_of_lt (by omega)
  have hthird : (UInt8.ofNat (v / 64 % 0x40 + 0x80)).toNat = v / 64 % 0x40 + 0x80 :=
    toNat_ofNat_of_lt (by omega)
  have hlast : (UInt8.ofNat (v % 0x40 + 0x80)).toNat = v % 0x40 + 0x80 :=
    toNat_ofNat_of_lt (by omega)
  rw [decodeFrom_start _ (start_of_four (by omega) (by omega)),
    decodeFrom_next _ (by split <;> omega) (by split <;> omega) (by omega),
    decodeFrom_next _ (by omega) (by omega) (by omega),
    decodeFrom_last _ (by omega) (by omega), hfirst, hsecond, hthird, hlast]
  have hbits : (((v / 262144 + 0xF0 - 0xF0) * 64 + (v / 4096 % 0x40 + 0x80 - 0x80)) * 64 +
      (v / 64 % 0x40 + 0x80 - 0x80)) * 64 + (v % 0x40 + 0x80 - 0x80) = v := by omega
  rw [hbits]

/-- The bytes of a character are read as the character. -/
theorem decodeFrom_utf8EncodeChar (c : Char) (rest : List UInt8) :
    decodeFrom none (String.utf8EncodeChar c ++ rest) = c :: decodeFrom none rest := by
  have hvalid : c.val.toNat < 0xD800 ∨ 0xDFFF < c.val.toNat ∧ c.val.toNat < 0x110000 := c.valid
  have hchar : Char.ofNat c.val.toNat = c := Char.ofNat_toNat c
  rw [String.utf8EncodeChar]
  -- One case for each number of bytes; the bounds of each leave no shorter form.
  split
  · next h1 => exact (decodeFrom_one rest h1).trans (by rw [hchar])
  · next h1 =>
    split
    · next h2 => exact (decodeFrom_two rest (by omega) h2).trans (by rw [hchar])
    · next h2 =>
      split
      · next h3 => exact (decodeFrom_three rest (by omega) h3 (by omega)).trans (by rw [hchar])
      · exact (decodeFrom_four rest (by omega) (by omega)).trans (by rw [hchar])

/-- The bytes of a text are read as the text. -/
theorem decode_encode (cs : List Char) : decode (encode cs) = cs := by
  rw [decode]
  induction cs with
  | nil => rfl
  | cons c cs ih =>
    rw [encode, List.flatMap_cons, decodeFrom_utf8EncodeChar]
    exact congrArg (c :: ·) ih

end Utf8

namespace Hex

/-- A digit only shows the nibble of a number. -/
theorem upper_mod (n : Nat) : upper (n % 16) = upper n := by
  rw [upper, upper, lower, lower, Nat.mod_mod]

/-- The upper case digit of a nibble reads as the nibble. -/
theorem value?_upper (n : Nat) : value? (upper n) = some (n % 16) := by
  have hall : ∀ d : Fin 16, value? (upper d) = some d := by decide
  rw [← upper_mod]
  exact hall ⟨n % 16, Nat.mod_lt n (by decide)⟩

end Hex

namespace Percent

/-- A written byte reads as the byte. -/
theorem decodeBytes_encodeByte (b : UInt8) (rest : List Char) :
    decodeBytes (encodeByte b ++ rest) = b :: decodeBytes rest := by
  have hb : b.toNat < 256 := b.toNat_lt
  change decodeBytes ('%' :: Hex.upper (b.toNat / 16) :: Hex.upper b.toNat :: rest) = _
  simp only [decodeBytes, Hex.value?_upper]
  have hbyte : 16 * (b.toNat / 16 % 16) + b.toNat % 16 = b.toNat := by omega
  rw [hbyte, UInt8.ofNat_toNat]

/-- Written bytes read as the bytes. -/
theorem decodeBytes_encodeBytes (bytes : List UInt8) (rest : List Char) :
    decodeBytes (bytes.flatMap encodeByte ++ rest) = bytes ++ decodeBytes rest := by
  induction bytes with
  | nil => rfl
  | cons b bytes ih =>
    rw [List.flatMap_cons, List.append_assoc, decodeBytes_encodeByte, ih]
    rfl

/-- A character that is no percent sign reads as its bytes. -/
theorem decodeBytes_of_ne {c : Char} (h : c ≠ '%') (rest : List Char) :
    decodeBytes (c :: rest) = String.utf8EncodeChar c ++ decodeBytes rest := by
  rw [decodeBytes.eq_def]
  split
  · next heq => cases heq
  · next heq => exact absurd (List.cons.inj heq).1 h
  · next heq =>
    obtain ⟨rfl, rfl⟩ := List.cons.inj heq
    rfl

variable {set : Char → Bool}

/-- A written text reads as its bytes, if percent signs are written as bytes too. -/
theorem decodeBytes_encode (hset : set '%' = true) (cs : List Char) :
    decodeBytes (encode set cs) = Utf8.encode cs := by
  induction cs with
  | nil => rfl
  | cons c cs ih =>
    rw [encode, List.flatMap_cons, Utf8.encode, List.flatMap_cons, encodeChar]
    split
    · next hplain =>
      have hne : c ≠ '%' := by
        rintro rfl
        exact absurd (hset.symm.trans hplain.2) (by decide)
      exact (decodeBytes_of_ne hne _).trans (congrArg (String.utf8EncodeChar c ++ ·) ih)
    · exact (decodeBytes_encodeBytes _ _).trans (congrArg (String.utf8EncodeChar c ++ ·) ih)

/-- A written text reads as the text, if percent signs are written as bytes too. -/
theorem decode_encode (hset : set '%' = true) (cs : List Char) : decode (encode set cs) = cs := by
  rw [decode, decodeBytes_encode hset, Utf8.decode_encode]

end Percent

namespace Text

variable {mark : Char}

/-- A text without the mark is one part. -/
theorem split_of_not_mem {cs : List Char} (h : mark ∉ cs) : split mark cs = [cs] := by
  induction cs with
  | nil => rfl
  | cons c cs ih =>
    have hc : c ≠ mark := (List.ne_of_not_mem_cons h).symm
    rw [split, if_neg hc, ih (List.not_mem_of_not_mem_cons h)]

/-- A text up to a mark is one part. -/
theorem split_append_mark {cs : List Char} (h : mark ∉ cs) (rest : List Char) :
    split mark (cs ++ mark :: rest) = cs :: split mark rest := by
  induction cs with
  | nil => rw [List.nil_append, split, if_pos rfl]
  | cons c cs ih =>
    have hc : c ≠ mark := (List.ne_of_not_mem_cons h).symm
    rw [List.cons_append, split, if_neg hc, ih (List.not_mem_of_not_mem_cons h)]

end Text

namespace Pointer

/-- The escaped form of a character holds no slash. -/
theorem slash_not_mem_escapeChar (c : Char) : '/' ∉ escapeChar c := by
  rw [escapeChar]
  split
  · decide
  · split
    · decide
    · next hne => exact fun h => hne (List.mem_singleton.mp h).symm

/-- A character that begins no pair stays. -/
theorem replacePair_of_ne {first second replaced c : Char} (h : c ≠ first) (cs : List Char) :
    replacePair first second replaced (c :: cs) = c :: replacePair first second replaced cs := by
  cases cs with
  | nil => rfl
  | cons d rest => rw [replacePair, if_neg (fun hboth => h hboth.1)]

/-- A pair goes. -/
theorem replacePair_pair (first second replaced : Char) (cs : List Char) :
    replacePair first second replaced (first :: second :: cs) =
      replaced :: replacePair first second replaced cs := by
  rw [replacePair, if_pos ⟨rfl, rfl⟩]

/-- A character that begins a pair stays where the pair does not go on. -/
theorem replacePair_of_snd_ne {first second replaced d : Char} (h : d ≠ second) (cs : List Char) :
    replacePair first second replaced (first :: d :: cs) =
      first :: replacePair first second replaced (d :: cs) := by
  rw [replacePair, if_neg (fun hboth => h hboth.2)]

/-- The tildes of a text, written as they are while slashes are read. -/
def escapeTilde (c : Char) : List Char := if c = '~' then ['~', '0'] else [c]

/-- Reading the slashes of an escaped text leaves its tildes. -/
theorem replacePair_slash (cs : List Char) :
    replacePair '~' '1' '/' (cs.flatMap escapeChar) = cs.flatMap escapeTilde := by
  -- A tilde of the text has `0` behind it here, so only a slash is written `~1`.
  induction cs with
  | nil => rfl
  | cons c cs ih =>
    rw [List.flatMap_cons, List.flatMap_cons, escapeChar, escapeTilde]
    by_cases htilde : c = '~'
    · rw [if_pos htilde, if_pos htilde]
      change replacePair '~' '1' '/' ('~' :: '0' :: cs.flatMap escapeChar) = _
      rw [replacePair_of_snd_ne (by decide), replacePair_of_ne (by decide), ih]
      rfl
    · rw [if_neg htilde, if_neg htilde]
      by_cases hslash : c = '/'
      · rw [if_pos hslash, hslash]
        change replacePair '~' '1' '/' ('~' :: '1' :: cs.flatMap escapeChar) = _
        rw [replacePair_pair, ih]
        rfl
      · rw [if_neg hslash]
        exact (replacePair_of_ne htilde _).trans (congrArg (c :: ·) ih)

/-- Reading the tildes of a text gives the text. -/
theorem replacePair_tilde (cs : List Char) :
    replacePair '~' '0' '~' (cs.flatMap escapeTilde) = cs := by
  induction cs with
  | nil => rfl
  | cons c cs ih =>
    rw [List.flatMap_cons, escapeTilde]
    by_cases htilde : c = '~'
    · rw [if_pos htilde, htilde]
      change replacePair '~' '0' '~' ('~' :: '0' :: cs.flatMap escapeTilde) = _
      rw [replacePair_pair, ih]
    · rw [if_neg htilde]
      exact (replacePair_of_ne htilde _).trans (congrArg (c :: ·) ih)

/-- An escaped segment reads as the segment. -/
theorem unescape_escape (segment : String) : unescape (escape segment) = segment := by
  rw [unescape, escape, String.toList_ofList, replacePair_slash, replacePair_tilde,
    String.ofList_toList]

/-- The characters of a pointer. -/
theorem toList_text (p : Pointer) :
    p.text.toList = p.segments.flatMap fun s => '/' :: (escape s).toList := by
  rw [text, String.toList_join, List.flatMap_map]
  refine congrArg (p.segments.flatMap ·) (funext fun s => ?_)
  rw [String.toList_append]
  rfl

/-- The segments of the text of a pointer, after its first slash. -/
theorem split_segments (s : String) (segments : List String) :
    Text.split '/' ((escape s).toList ++ segments.flatMap fun s => '/' :: (escape s).toList) =
      (s :: segments).map fun s => (escape s).toList := by
  have hslash (s : String) : '/' ∉ (escape s).toList := by
    rw [escape, String.toList_ofList, List.mem_flatMap]
    rintro ⟨c, _, hc⟩
    exact slash_not_mem_escapeChar c hc
  induction segments generalizing s with
  | nil =>
    rw [List.flatMap_nil, List.append_nil, Text.split_of_not_mem (hslash s)]
    rfl
  | cons next segments ih =>
    rw [List.flatMap_cons, List.cons_append, Text.split_append_mark (hslash s), ih]
    rfl

/-- The text of a pointer reads as the pointer. -/
theorem parse?_text (p : Pointer) : parse? p.text = some p := by
  obtain ⟨segments⟩ := p
  rw [parse?, toList_text]
  cases segments with
  | nil => rfl
  | cons s segments =>
    rw [List.flatMap_cons, List.cons_append]
    change some (Pointer.mk ((Text.split '/' _).map _)) = _
    rw [split_segments, List.map_map]
    have hread : (fun part => unescape (String.ofList part)) ∘ (fun s => (escape s).toList) = id := by
      funext s
      rw [Function.comp_apply, String.ofList_toList, unescape_escape]
      rfl
    rw [hread, List.map_id]

end Pointer

end Draft6
