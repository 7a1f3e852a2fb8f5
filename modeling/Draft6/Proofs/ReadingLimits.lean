import Draft6.Proofs.Readers

/-!
# Readings that agree

Two readings agree when both fail, for whatever reason, or both succeed with the same result. Readers
of lists, of members and of schema objects agree when the readers of their sub-schemas do. An unknown
keyword is passed over whatever makes it no schema, so that reason does not count there either.

The limit that a reader reports is such a reason. So what a schema document with some levels left is
read as does not depend on how many levels there were.
-/

namespace Draft6

namespace Decoded

variable {α β : Type}

/-- Whether two readings have the same result, or both have none. -/
def Agrees (result result' : Decoded α) : Prop := result.toOption = result'.toOption

/-- A reading agrees with itself. -/
theorem Agrees.refl (result : Decoded α) : result.Agrees result := rfl

/-- What agrees with a success is that success. -/
theorem Agrees.ok {result result' : Decoded α} (h : result.Agrees result') {a : α}
    (hresult : result = .ok a) : result' = .ok a := by
  subst hresult
  cases result' with
  | error e => cases h
  | ok b => exact congrArg Except.ok (Option.some.inj h).symm

/-- Two steps agree when the first ones do and so do the second ones. -/
theorem Agrees.bind {result result' : Decoded α} (h : result.Agrees result')
    {next next' : α → Decoded β} (hnext : ∀ a, (next a).Agrees (next' a)) :
    Agrees (result >>= next) (result' >>= next') := by
  cases result with
  | ok a =>
    rw [h.ok rfl]
    exact hnext a
  | error e =>
    cases result' with
    | error e' => rfl
    | ok b => cases h

/-- What is made of readings that agree agrees. -/
theorem Agrees.map {result result' : Decoded α} (h : result.Agrees result') (f : α → β) :
    Agrees (f <$> result) (f <$> result') := by
  rw [← bind_pure_comp, ← bind_pure_comp]
  exact h.bind fun _ => rfl

/-- The place of a part does not count. -/
theorem Agrees.below {result result' : Decoded α} (h : result.Agrees result') (segment : String) :
    Agrees (below segment result) (below segment result') := by
  cases result with
  | ok a => rw [h.ok rfl]; rfl
  | error e =>
    cases result' with
    | error e' => rfl
    | ok b => cases h

end Decoded

open Decoded (Agrees)

namespace Json

variable {κ α : Type} {item item' : Json → Decoded α}

/-- Readers of elements that agree make readers of lists that agree. -/
theorem asList_agrees (h : ∀ value, (item value).Agrees (item' value)) (value : Json) :
    (asList item value).Agrees (asList item' value) := by
  have hitems (start : Nat) (values : List Json) :
      (readItems item start values).Agrees (readItems item' start values) := by
    induction values generalizing start with
    | nil => rfl
    | cons value rest ih =>
      exact ((h value).below (toString start)).bind fun first => (ih (start + 1)).bind fun _ => rfl
  exact (Agrees.refl value.asArray).bind (hitems 0)

/-- Readers of values that agree make readers of members that agree. -/
theorem readMembers_agrees (name : String → Decoded κ)
    (h : ∀ value, (item value).Agrees (item' value)) (members : List (String × Json)) :
    (readMembers name item members).Agrees (readMembers name item' members) := by
  induction members with
  | nil => rfl
  | cons member rest ih =>
    have hfirst : Agrees (do pure (← name member.1, ← item member.2))
        (do pure (← name member.1, ← item' member.2)) :=
      (Agrees.refl (name member.1)).bind fun key => (h member.2).bind fun _ => rfl
    exact (hfirst.below member.1).bind fun _ => ih.bind fun _ => rfl

/-- Readers of values that agree make readers of objects that agree. -/
theorem asNamed_agrees (h : ∀ value, (item value).Agrees (item' value)) (value : Json) :
    (asNamed item value).Agrees (asNamed item' value) :=
  (Agrees.refl value.asObject).bind (readMembers_agrees pure h)

end Json

namespace ObjectSchema

variable {σ : Type} {child child' : Json → Decoded σ}

/-- Readers of schemas that agree make readers of schemas for elements that agree. -/
theorem decodeItems_agrees (h : ∀ value, (child value).Agrees (child' value)) (value : Json) :
    (decodeItems child value).Agrees (decodeItems child' value) := by
  cases value with
  | array items => exact (Json.asList_agrees h (.array items)).map Items.each
  | null | bool | number | string | object => exact (h _).map Items.all

/-- Readers of schemas that agree make readers of dependencies that agree. -/
theorem decodeDependency_agrees (h : ∀ value, (child value).Agrees (child' value))
    (value : Json) : (decodeDependency child value).Agrees (decodeDependency child' value) := by
  cases value with
  | array items => rfl
  | null | bool | number | string | object => exact (h _).map Dependency.schema

/-- Readers of schemas that agree make readers of keywords that agree. -/
theorem decodeKeyword_agrees (h : ∀ value, (child value).Agrees (child' value))
    (o : ObjectSchema σ) (k : Keyword) (value : Json) :
    (decodeKeyword child o k value).Agrees (decodeKeyword child' o k value) := by
  cases k
  case items => exact (decodeItems_agrees h value).bind fun _ => rfl
  case additionalItems | contains | additionalProperties | propertyNames | not =>
    exact (h value).bind fun _ => rfl
  case properties | definitions => exact (Json.asNamed_agrees h value).bind fun _ => rfl
  case patternProperties =>
    exact (Agrees.refl value.asObject).bind fun members =>
      (Json.readMembers_agrees Pattern.decode h members).bind fun _ => rfl
  case dependencies =>
    exact (Json.asNamed_agrees (decodeDependency_agrees h) value).bind fun _ => rfl
  case allOf | anyOf | oneOf => exact (Json.asList_agrees h value).bind fun _ => rfl
  all_goals rfl

/-- Readers of schemas that agree keep the same unknown keywords. -/
theorem keepUnknown_eq (h : ∀ value, (child value).Agrees (child' value)) (o : ObjectSchema σ)
    (name : String) (value : Json) :
    keepUnknown child o name value = keepUnknown child' o name value := by
  cases value with
  | object members =>
    have hvalue := h (.object members)
    simp only [keepUnknown]
    cases hread : child (.object members) with
    | ok s => rw [hvalue.ok hread]
    | error e =>
      rw [hread] at hvalue
      cases hread' : child' (.object members) with
      | error e' => rfl
      | ok s =>
        rw [hread'] at hvalue
        cases hvalue
  | null | bool | number | string | array => rfl

/-- Readers of schemas that agree make readers of schema objects that agree. -/
theorem decode_agrees (h : ∀ value, (child value).Agrees (child' value))
    (members : List (String × Json)) : (decode child members).Agrees (decode child' members) := by
  have hmember (o : ObjectSchema σ) (name : String) (value : Json) :
      (decodeMember child o name value).Agrees (decodeMember child' o name value) := by
    rw [decodeMember, decodeMember]
    cases Keyword.ofName? name with
    | some k => exact (decodeKeyword_agrees h o k value).below name
    | none => rw [keepUnknown_eq h]; rfl
  rw [decode, decode]
  generalize ({ id := olderId? members } : ObjectSchema σ) = o
  induction members generalizing o with
  | nil => rfl
  | cons member rest ih =>
    rw [List.foldlM_cons, List.foldlM_cons]
    exact (hmember o member.1 member.2).bind ih

end ObjectSchema

namespace Schema

/-- The limit that is reported for a document that nests too deep does not count for others. -/
theorem decodeWithin_agrees (maximum maximum' levels : Nat) (value : Json) :
    (decodeWithin maximum levels value).Agrees (decodeWithin maximum' levels value) := by
  induction levels generalizing value with
  | zero => rfl
  | succ levels ih =>
    cases value with
    | object members => exact (ObjectSchema.decode_agrees ih members).map Schema.object
    | null | bool | number | string | array => rfl

end Schema

end Draft6
