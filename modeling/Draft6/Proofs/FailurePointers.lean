import Draft6.Proofs.Obstacles
import Draft6.Proofs.Origins

/-!
# Failures point at what they are about

The pointer of a failure leads from the validated document to the part that the failure is about,
also when the failure is held by a combination of branches. A missing member is pointed at where it
would be. What is held behind a member name is about the name, which is a value of its own, so its
pointers are the root.

One visit keeps this, because its failures point at the visited part or come from visits one segment
further. By induction on the levels it holds of a whole validation. What is carried is exact with
one exception: a number that is no multiple is carried as the nearest binary64 number.
-/

namespace Draft6

namespace Failure

/-- What is reported with a failure: the failure, and what is reported with the failures of branches
that it holds. -/
inductive Among : Failure → Failure → Prop
  | self (failure : Failure) : Among failure failure
  | branch {inner outer : Failure} (pointer : Pointer) (failures : List Failure)
      (hmem : outer ∈ failures) (h : Among inner outer) : Among inner ⟨pointer, .noBranch failures⟩

/-- What a failure holds at any depth, itself included. -/
inductive Within : Failure → Failure → Prop
  | self (failure : Failure) : Within failure failure
  | nested {inner middle outer : Failure} (hmem : middle ∈ outer.cause.nested)
      (h : Within inner middle) : Within inner outer

/-- Whether the pointer of a failure leads to the part of a document that the failure is about, or
for a missing member from an object without the member to where it would be. -/
inductive PointsBy (carries : Number → Binary64 → Prop) (document : Json) : Failure → Prop
  | part (pointer : Pointer) (cause : Cause) (part : Json)
      (hpart : pointer.lookup? document = some part) (habout : cause.IsAbout carries part) :
      PointsBy carries document ⟨pointer, cause⟩
  | missing (pointer : Pointer) (name : String) (members : List (String × Json))
      (hobject : pointer.lookup? document = some (.object members))
      (hlookup : members.lookup name = none) :
      PointsBy carries document ⟨pointer.join name, .missingProperty name⟩

/-- A failure points at what it is about and carries the nearest binary64 number of a number that is
no multiple. -/
abbrev PointsNearly : Json → Failure → Prop := PointsBy fun n x => x = n.toBinary64

/-- A failure points at what it is about and carries a number that is no multiple unchanged. -/
abbrev PointsExactly : Json → Failure → Prop := PointsBy fun n x => x.toRat = n.toRat

/-- A failure blurs a number when it is about one that is no multiple and no binary64 number. -/
def Blurs (document : Json) (failure : Failure) : Prop :=
  ∃ divisor actual n, failure.cause = .notMultipleOf divisor actual ∧
    failure.pointer.lookup? document = some (.number n) ∧ n.toBinary64.toRat ≠ n.toRat

/-- Whether everything that a failure holds about a member name has the root as its pointer. -/
def NamesApart (failure : Failure) : Prop :=
  ∀ name failures, failure.cause = .invalidPropertyName name failures →
    ∀ held ∈ failures, ∀ inner : Failure, inner.Within held → inner.pointer = Pointer.root

end Failure

/-- A cause that carries the nearest number carries the number unchanged unless that is another. -/
theorem Cause.isAbout_exactly {cause : Cause} {value : Json}
    (hnearly : cause.IsAbout (fun n x => x = n.toBinary64) value)
    (hsharp : ∀ divisor actual n, cause = .notMultipleOf divisor actual → value = .number n →
      n.toBinary64.toRat = n.toRat) :
    cause.IsAbout (fun n x => x.toRat = n.toRat) value := by
  cases cause with
  | notMultipleOf divisor actual =>
    obtain ⟨n, hvalue, hactual, hbroken⟩ := hnearly
    exact ⟨n, hvalue, hactual ▸ hsharp divisor actual n rfl hvalue, hbroken⟩
  | _ => exact hnearly

/-- A failure that points at what it is about carries what is there, unless it blurs a number. -/
theorem Failure.pointsExactly_iff {document : Json} {failure : Failure}
    (h : failure.PointsNearly document) :
    failure.PointsExactly document ↔ ¬failure.Blurs document := by
  constructor
  · rintro hexactly ⟨divisor, actual, n, hcause, hlookup, hblurred⟩
    cases hexactly with
    | missing => cases hcause
    | part pointer cause part hpart habout =>
      obtain rfl := (show cause = _ from hcause)
      obtain ⟨m, rfl, hexact, _⟩ := habout
      obtain rfl : m = n := by
        have hpart : pointer.lookup? document = some (.number m) := hpart
        rw [hpart] at hlookup
        cases hlookup
        rfl
      cases h with
      | part _ _ part hpart' habout =>
        obtain ⟨m', rfl, rfl, _⟩ := habout
        cases hpart.symm.trans hpart'
        exact hblurred hexact
  · intro hsharp
    cases h with
    | missing pointer name members hobject hlookup =>
      exact .missing pointer name members hobject hlookup
    | part pointer cause part hpart habout =>
      refine .part pointer cause part hpart (Cause.isAbout_exactly habout ?_)
      intro divisor actual n hcause hvalue
      by_contra hblurred
      exact hsharp ⟨divisor, actual, n, hcause, hvalue ▸ hpart, hblurred⟩

namespace Pool

variable {pool : Pool} {maximum : Nat}

/-- Whatever is held about a string has the pointer of the string. -/
theorem pointer_of_within_visit {levels : Nat} {frame : Frame} {node : Node} {s : String}
    {failure inner : Failure} (h : failure ∈ pool.visit maximum levels frame node (.string s))
    (hinner : inner.Within failure) : inner.pointer = frame.pointer := by
  induction levels generalizing frame node failure inner with
  | zero =>
    rw [List.mem_singleton.mp h] at hinner
    cases hinner with
    | self => rfl
    | nested hmem => cases hmem
  | succ levels ih =>
    cases arises_of_mem_nodeFailures rfl h with
    | own cause hnested =>
      cases hinner with
      | self => rfl
      | nested hmem => exact absurd (hnested ▸ hmem) List.not_mem_nil
    | missing members name hvalue => cases hvalue
    | memberName members name frame schema hvalue => cases hvalue
    | sameValue _ further schema hpointer hfailure => exact (ih hfailure hinner).trans hpointer
    | part _ segment further schema part hpointer hpart => cases hpart
    | branches failures hfailures =>
      cases hinner with
      | self => rfl
      | nested hmem hinner =>
        obtain ⟨further, schema, hpointer, hfailure⟩ := hfailures _ hmem
        exact (ih hfailure hinner).trans hpointer

/-- Failures of a visit of a part of a document point into the document. -/
theorem points_of_among_visit {document : Json} {levels : Nat} {frame : Frame} {node : Node}
    {value : Json} {failure inner : Failure}
    (hpart : frame.pointer.lookup? document = some value) (hvalue : value.distinctNames = true)
    (h : failure ∈ pool.visit maximum levels frame node value) (hinner : inner.Among failure) :
    inner.PointsNearly document ∧ inner.NamesApart := by
  induction levels generalizing frame node value failure inner with
  | zero =>
    rw [List.mem_singleton.mp h] at hinner
    cases hinner with
    | self => exact ⟨.part _ _ value hpart trivial, nofun⟩
  | succ levels ih =>
    cases arises_of_mem_nodeFailures hvalue h with
    | own cause hnested habout =>
      cases hinner with
      | self =>
        refine ⟨.part _ cause value hpart habout, fun name failures hcause held hheld => ?_⟩
        obtain rfl := (show cause = _ from hcause)
        rw [show failures = [] from hnested] at hheld
        cases hheld
      | branch pointer failures hmem =>
        rw [show failures = [] from hnested] at hmem
        cases hmem
    | missing members name hobject hlookup =>
      cases hinner with
      | self => exact ⟨.missing _ name members (hobject ▸ hpart) hlookup, nofun⟩
    | memberName members name further schema hobject hlookup hroot =>
      cases hinner with
      | self =>
        refine ⟨.part _ _ value hpart ⟨members, hobject, hlookup⟩, ?_⟩
        rintro _ _ hcause held hheld inner hinner
        cases hcause
        exact (pointer_of_within_visit hheld hinner).trans hroot
    | sameValue _ further schema hpointer hfailure =>
      exact ih (hpointer ▸ hpart) hvalue hfailure hinner
    | part _ segment further schema part hpointer hchild hfailure =>
      refine ih ?_ (Pointer.distinctNames_of_child? hchild hvalue) hfailure hinner
      rw [hpointer, Pointer.lookup?_join, hpart, Option.bind_some, hchild]
    | branches failures hfailures =>
      cases hinner with
      | self => exact ⟨.part _ _ value hpart trivial, nofun⟩
      | branch pointer _ hmem hinner =>
        obtain ⟨further, schema, hpointer, hfailure⟩ := hfailures _ hmem
        exact ih (hpointer ▸ hpart) hvalue hfailure hinner

/-- Every failure that a validation reports, also inside the branches of another one, points at what
it is about. It carries what is there unless it is about a number that is no multiple and no
binary64 number. What it holds about a member name has the root as its pointer. -/
theorem failures_point (pool : Pool) (limits : Limits) (node : Node) {document : Json}
    (hdocument : document.distinctNames = true) {failure inner : Failure}
    (h : failure ∈ pool.failures limits node document) (hinner : inner.Among failure) :
    inner.PointsNearly document ∧
      (inner.PointsExactly document ↔ ¬inner.Blurs document) ∧ inner.NamesApart := by
  obtain ⟨hpoints, hnames⟩ :=
    points_of_among_visit (Pointer.lookup?_root document) hdocument h hinner
  exact ⟨hpoints, Failure.pointsExactly_iff hpoints, hnames⟩

end Pool

/-- A schema with one branch, which demands long strings in the array of one member. -/
def Schema.longStrings : Schema :=
  .object { oneOf := some [.object { properties := some [("a/b",
    .object { items := some (.all (.object { strings := { minLength := some 2 } })) })] }] }

/-- The string that is too short is pointed at from inside the failures of the branch. -/
theorem failures_point_branch :
    let document := Json.object [("a/b", .array [.string "x"])]
    let inner : Failure := ⟨⟨["a/b", "0"]⟩, .tooShort 2 1⟩
    let failure : Failure := ⟨Pointer.root, .noBranch [inner]⟩
    document.distinctNames = true ∧
      failure ∈ (Pool.ofDocument .longStrings).failures Limits.default
        (Node.root .main .longStrings) document ∧
      inner.Among failure ∧ inner.PointsExactly document := by
  intro document inner failure
  have hdocument : document.distinctNames = true := by decide
  have hfailure : failure ∈ (Pool.ofDocument .longStrings).failures Limits.default
      (Node.root .main .longStrings) document := by
    have hall : (Pool.ofDocument .longStrings).failures Limits.default
      (Node.root .main .longStrings) document = [failure] := by rfl
    exact hall ▸ List.mem_singleton_self failure
  have hinner : inner.Among failure := .branch _ _ (List.mem_singleton_self inner) (.self inner)
  refine ⟨hdocument, hfailure, hinner, ?_⟩
  refine (Pool.failures_point _ _ _ hdocument hfailure hinner).2.1.mpr ?_
  rintro ⟨divisor, actual, n, hcause, -⟩
  cases hcause

/-- A schema that only has rules for numbers reports which of them a number breaks. -/
theorem Pool.failures_numbers (pool : Pool) (limits : Limits) (rules : NumberRules) (n : Number) :
    pool.failures limits (Node.root .main (.object { numbers := rules })) (.number n) =
      (rules.broken n).map fun cause => ⟨Pointer.root, cause⟩ := by
  change [] ++ [] ++ [] ++ (rules.broken n).map
    (pool.start (Node.root .main (.object { numbers := rules }))).failure ++ [] ++ [] ++ [] ++ [] = _
  simp only [List.nil_append, List.append_nil]
  rfl

/-- A whole number that is too large for a binary64 number is not carried unchanged: the number
`2 ^ 53 + 1` is reported as `2 ^ 53`, which is a multiple of two. -/
theorem failure_blurs_large_number :
    let two : Binary64 := ⟨false, 4503599627370496, -51, by decide⟩
    let root : Schema := .object { numbers := { multipleOf := some two } }
    let n : Number := .integer 9007199254740993 (by decide)
    ∃ failure : Failure, failure ∈ (Pool.ofDocument root).failures Limits.default
        (Node.root .main root) (.number n) ∧
      failure.cause.message = "9007199254740992 is not a multiple of 2" ∧
        ¬failure.PointsExactly (.number n) := by
  intro two root n
  have hmultiple : n.isMultipleOf two = false := by decide
  have hbroken : ({ multipleOf := some two } : NumberRules).broken n =
      [.notMultipleOf two n.toBinary64] := by
    simp [NumberRules.broken, brokenBy, hmultiple]
  refine ⟨⟨Pointer.root, .notMultipleOf two n.toBinary64⟩, ?_, by decide, fun hexactly => ?_⟩
  · rw [Pool.failures_numbers, hbroken]
    exact List.mem_singleton_self _
  · generalize hfailure : (⟨Pointer.root, .notMultipleOf two n.toBinary64⟩ : Failure) = failure
      at hexactly
    cases hexactly with
    | missing => cases congrArg Located.cause hfailure
    | part pointer cause part hpart habout =>
      cases hfailure
      obtain ⟨m, rfl, hexact, _⟩ := habout
      obtain rfl : n = m := Json.number.inj (Option.some.inj hpart)
      exact absurd hexact (by with_unfolding_all decide)

end Draft6
