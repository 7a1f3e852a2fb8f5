import Draft6.Json.Parser
import Mathlib.Data.List.Nodup

/-!
# Member names

No object in a value that was read from a text has two members of one name: a later member takes the
place of an earlier one. So a member name leads to one member only.
-/

namespace Draft6

/-! ## Looking up a name -/

/-- What is found for a name stands there under the name. -/
theorem mem_of_lookup {α : Type} {entries : List (String × α)} {name : String} {a : α}
    (h : entries.lookup name = some a) : (name, a) ∈ entries := by
  obtain ⟨before, after, rfl, _⟩ := List.lookup_eq_some_iff.mp h
  exact List.mem_append_right _ List.mem_cons_self

/-- Where no name is repeated, what is found for a name is what stands there under the name. -/
theorem lookup_eq_some_iff_mem {α : Type} {entries : List (String × α)} {name : String} {a : α}
    (hnames : (entries.map Prod.fst).Nodup) : entries.lookup name = some a ↔ (name, a) ∈ entries := by
  refine ⟨mem_of_lookup, fun h => ?_⟩
  induction entries with
  | nil => cases h
  | cons entry rest ih =>
    rw [List.map_cons, List.nodup_cons] at hnames
    rcases List.mem_cons.mp h with rfl | h
    · exact List.lookup_cons_self
    · have hne : (name == entry.1) = false := by
        refine beq_eq_false_iff_ne.mpr fun heq => hnames.1 ?_
        exact heq ▸ List.mem_map_of_mem (f := Prod.fst) h
      rw [List.lookup_cons, hne]
      exact ih hnames.2 h

namespace Json

mutual

/-- Whether no object in a value repeats a member name. -/
def distinctNames : Json → Bool
  | .array items => distinctNamesItems items
  | .object members => decide (members.map Prod.fst).Nodup && distinctNamesMembers members
  | _ => true

/-- Whether no object in the elements of an array repeats a member name. -/
def distinctNamesItems : List Json → Bool
  | [] => true
  | item :: rest => item.distinctNames && distinctNamesItems rest

/-- Whether no object in the members of an object repeats a member name. -/
def distinctNamesMembers : List (String × Json) → Bool
  | [] => true
  | (_, value) :: rest => value.distinctNames && distinctNamesMembers rest

end

/-- An array repeats no member name when its elements repeat none. -/
theorem distinctNames_array {items : List Json} :
    (Json.array items).distinctNames = true ↔ ∀ item ∈ items, item.distinctNames = true := by
  rw [distinctNames]
  induction items with
  | nil => exact iff_of_true rfl nofun
  | cons item rest ih => rw [distinctNamesItems, Bool.and_eq_true, ih, List.forall_mem_cons]

/-- An object repeats no member name when its own names are distinct and its members repeat none. -/
theorem distinctNames_object {members : List (String × Json)} :
    (Json.object members).distinctNames = true ↔
      (members.map Prod.fst).Nodup ∧ ∀ member ∈ members, member.2.distinctNames = true := by
  have hmembers : distinctNamesMembers members = true ↔
      ∀ member ∈ members, member.2.distinctNames = true := by
    induction members with
    | nil => exact iff_of_true rfl nofun
    | cons member rest ih =>
      obtain ⟨name, value⟩ := member
      rw [distinctNamesMembers, Bool.and_eq_true, ih, List.forall_mem_cons]
  rw [distinctNames, Bool.and_eq_true, decide_eq_true_iff, hmembers]

/-! ## Members that are put into an object -/

/-- A member that is put into an object is there, and besides only members that were there before. -/
theorem mem_setMember {members : List (String × Json)} {name : String} {value : Json}
    {member : String × Json} (h : member ∈ setMember members name value) :
    member = (name, value) ∨ member ∈ members := by
  fun_induction setMember members name value with
  | case1 => exact .inl (List.mem_singleton.mp h)
  | case2 old rest => exact (List.mem_cons.mp h).imp_right (List.mem_cons_of_mem _)
  | case3 key old rest hne ih =>
    rcases List.mem_cons.mp h with rfl | h
    · exact .inr List.mem_cons_self
    · exact (ih h).imp_right (List.mem_cons_of_mem _)

/-- Putting a member into an object repeats no name. -/
theorem nodup_setMember {members : List (String × Json)} {name : String} {value : Json}
    (h : (members.map Prod.fst).Nodup) :
    ((setMember members name value).map Prod.fst).Nodup := by
  fun_induction setMember members name value with
  | case1 => exact List.nodup_singleton _
  | case2 old rest => exact h
  | case3 key old rest hne ih =>
    rw [List.map_cons, List.nodup_cons] at h ⊢
    refine ⟨fun hkey => ?_, ih h.2⟩
    obtain ⟨member, hmember, hname⟩ := List.mem_map.mp hkey
    rcases mem_setMember hmember with rfl | hmember
    · exact hne hname.symm
    · exact h.1 (List.mem_map.mpr ⟨member, hmember, hname⟩)

/-- Putting a member into an object repeats no name, in the object and in its members. -/
theorem distinctNames_setMember {members : List (String × Json)} {name : String} {value : Json}
    (h : (Json.object members).distinctNames = true) (hvalue : value.distinctNames = true) :
    (Json.object (setMember members name value)).distinctNames = true := by
  obtain ⟨hnames, hmembers⟩ := distinctNames_object.mp h
  refine distinctNames_object.mpr ⟨nodup_setMember hnames, fun member hmember => ?_⟩
  rcases mem_setMember hmember with rfl | hmember
  · exact hvalue
  · exact hmembers member hmember

/-! ## Values that are read -/

namespace Parser

/-- Whether all that a reader gives repeats no member name. -/
def Distinct (step : Step Json) : Prop := ∀ v rest, step = .ok (v, rest) → v.distinctNames = true

/-- A reader that stops gives nothing. -/
theorem distinct_error (stop : Stop) : Distinct (.error stop) := nofun

/-- A reader that gives a value. -/
theorem distinct_ok {v : Json} (h : v.distinctNames = true) (rest : List Char) :
    Distinct (.ok (v, rest)) := by
  intro v' rest' heq
  cases heq
  exact h

/-- The words for null and Booleans repeat no member name. -/
theorem distinct_literal {v : Json} (h : v.distinctNames = true) (expected cs : List Char) :
    Distinct (literal v expected cs) := by
  fun_induction literal v expected cs with
  | case1 cs => exact distinct_ok h cs
  | case2 => exact distinct_error _
  | case3 e es cs ih => exact ih
  | case4 => exact distinct_error _

/-- Numbers with a fraction or an exponent repeat no member name. -/
theorem distinct_float (negative : Bool) (significand : Nat) (exponent : Int) (rest : List Char) :
    Distinct (float negative significand exponent rest) := by
  rw [float]
  split
  · exact distinct_ok rfl rest
  · exact distinct_error _

/-- Numbers repeat no member name, whatever their exponents are. -/
theorem distinct_exponentDigits (negative : Bool) (significand : Nat) (start : Int) (minus : Bool)
    (read : Nat) (cs : List Char) :
    Distinct (exponentDigits negative significand start minus read cs) := by
  fun_induction exponentDigits negative significand start minus read cs with
  | case1 read c cs _ _ _ ih => exact ih
  | case2 => exact distinct_error _
  | case3 | case4 | case5 => exact distinct_float _ _ _ _

/-- Numbers with an exponent repeat no member name. -/
theorem distinct_exponent (negative : Bool) (significand : Nat) (start : Int) (cs : List Char) :
    Distinct (exponent negative significand start cs) := by
  unfold exponent
  dsimp only
  split
  · exact distinct_error _
  · split
    · exact distinct_exponentDigits _ _ _ _ _ _
    · exact distinct_error _

/-- Numbers repeat no member name, whatever follows the first digits. -/
theorem distinct_afterWhole (negative : Bool) (whole cs : List Char) :
    Distinct (afterWhole negative whole cs) := by
  unfold afterWhole
  split
  · dsimp only
    split
    · exact distinct_error _
    · exact distinct_error _
    · exact distinct_exponent _ _ _ _
    · exact distinct_exponent _ _ _ _
    · exact distinct_float _ _ _ _
  · exact distinct_exponent _ _ _ _
  · exact distinct_exponent _ _ _ _
  · split
    · exact distinct_ok rfl _
    · exact distinct_error _

/-- Numbers repeat no member name. -/
theorem distinct_number (negative : Bool) (cs : List Char) : Distinct (number negative cs) := by
  unfold number
  split
  · exact distinct_error _
  · split
    · split
      · exact distinct_error _
      · exact distinct_afterWhole _ _ _
    · exact distinct_afterWhole _ _ _
  · split
    · exact distinct_afterWhole _ _ _
    · exact distinct_error _

variable {item : List Char → Step Json}

/-- Arrays repeat no member name when their elements repeat none. -/
theorem distinct_moreItems (hitem : ∀ cs, Distinct (item cs)) {read : List Json}
    (hread : ∀ v ∈ read, v.distinctNames = true) (fuel : Nat) (cs : List Char) :
    Distinct (moreItems item read fuel cs) := by
  induction fuel generalizing read cs with
  | zero => exact distinct_error _
  | succ fuel ih =>
    unfold moreItems
    split
    · exact distinct_error _
    · exact distinct_ok (distinctNames_array.mpr fun v hv => hread v (List.mem_reverse.mp hv)) _
    · split
      · exact distinct_error _
      · exact distinct_error _
      · split
        · exact distinct_error _
        · next x rest hx =>
          exact ih (List.forall_mem_cons.mpr ⟨hitem _ _ _ hx, hread⟩) rest
    · exact distinct_error _

/-- Arrays repeat no member name when their elements repeat none. -/
theorem distinct_array (hitem : ∀ cs, Distinct (item cs)) (cs : List Char) :
    Distinct (array item cs) := by
  unfold array
  split
  · exact distinct_error _
  · exact distinct_ok rfl _
  · split
    · exact distinct_error _
    · next x rest hx =>
      exact distinct_moreItems hitem (List.forall_mem_singleton.mpr (hitem _ _ _ hx)) _ rest

/-- A member has a value that was read. -/
theorem distinctNames_of_member (hitem : ∀ cs, Distinct (item cs)) {cs rest : List Char}
    {m : String × Json} (h : member item cs = .ok (m, rest)) : m.2.distinctNames = true := by
  unfold member at h
  split at h
  · cases h
  · split at h
    · split at h
      · cases h
      · next hx =>
        cases h
        exact hitem _ _ _ hx
    · cases h
    · cases h

/-- Objects repeat no member name when their members repeat none. -/
theorem distinct_moreMembers (hitem : ∀ cs, Distinct (item cs)) {read : List (String × Json)}
    (hread : (Json.object read).distinctNames = true) (fuel : Nat) (cs : List Char) :
    Distinct (moreMembers item read fuel cs) := by
  induction fuel generalizing read cs with
  | zero => exact distinct_error _
  | succ fuel ih =>
    unfold moreMembers
    split
    · exact distinct_error _
    · exact distinct_ok hread _
    · split
      · split
        · exact distinct_error _
        · next name x rest hmember =>
          exact ih (distinctNames_setMember hread (distinctNames_of_member hitem hmember)) rest
      · exact distinct_error _
      · exact distinct_error _
      · exact distinct_error _
    · exact distinct_error _

/-- Objects repeat no member name when their members repeat none. -/
theorem distinct_object (hitem : ∀ cs, Distinct (item cs)) (cs : List Char) :
    Distinct (object item cs) := by
  unfold object
  split
  · exact distinct_error _
  · exact distinct_ok rfl _
  · split
    · exact distinct_error _
    · next m rest hmember =>
      have hfirst : (Json.object [m]).distinctNames = true := distinctNames_object.mpr
        ⟨List.nodup_singleton m.1,
          List.forall_mem_singleton.mpr (distinctNames_of_member hitem hmember)⟩
      exact distinct_moreMembers hitem hfirst _ rest
  · exact distinct_error _

/-- Strings repeat no member name. -/
theorem distinct_string (cs : List Char) :
    Distinct ((stringRest [] cs).map fun (s, rest) => (.string s, rest)) := by
  cases stringRest [] cs with
  | error stop => exact distinct_error stop
  | ok read => exact distinct_ok rfl read.2

/-- Values repeat no member name when the values in them repeat none. -/
theorem distinct_value_of_inner {depth : Nat}
    (hinner : ∀ inner, depth = inner + 1 → ∀ cs, Distinct (value inner cs)) (cs : List Char) :
    Distinct (value depth cs) := by
  rw [value.eq_def]
  dsimp only
  split
  · exact distinct_error _
  · exact distinct_literal rfl _ _
  · exact distinct_literal rfl _ _
  · exact distinct_literal rfl _ _
  · exact distinct_number _ _
  · exact distinct_string _
  · split
    · exact distinct_error _
    · exact distinct_array (hinner _ rfl) _
  · split
    · exact distinct_error _
    · exact distinct_object (hinner _ rfl) _
  · split
    · exact distinct_number _ _
    · exact distinct_error _

/-- Values repeat no member name. -/
theorem distinct_value (depth : Nat) (cs : List Char) : Distinct (value depth cs) := by
  induction depth generalizing cs with
  | zero => exact distinct_value_of_inner (fun _ h => absurd h (Nat.succ_ne_zero _).symm) cs
  | succ depth ih => exact distinct_value_of_inner (fun _ h => Nat.succ.inj h ▸ ih) cs

end Parser

/-- A text reads as a value that repeats no member name. -/
theorem distinctNames_of_parse {text : String} {v : Json} (h : parse text = .ok v) :
    v.distinctNames = true := by
  unfold parse at h
  dsimp only at h
  split at h
  · cases h
  · next value rest hvalue =>
    split at h
    · cases h
      exact Parser.distinct_value _ _ _ _ hvalue
    · cases h

end Json

end Draft6
