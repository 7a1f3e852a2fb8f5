import Draft6.Number
import Draft6.Schema.Keyword
import Draft6.Schema.SimpleType

/-!
# What keywords demand of their values

Every keyword demands something of its value, and many keywords demand the same. A demand says which
values meet it, given what holds of the parts where schemas stand. It says nothing about how the value
is read or checked.
-/

namespace Draft6

/-- Whether a value is an array. -/
def Json.IsArray (value : Json) : Prop := ∃ items, value = .array items

/-- What a keyword demands of its value. -/
inductive Demand where
  | anything
  | text
  | expression
  | number
  | divisor
  | size
  | flag
  | types
  | list
  | names
  | schema
  | schemas
  | items
  | named
  | matching
  | dependencies

/-- The demand of a keyword. -/
def Keyword.demand : Keyword → Demand
  | .default | .const => .anything
  | .dialect | .id | .ref | .title | .description | .format => .text
  | .pattern => .expression
  | .maximum | .exclusiveMaximum | .minimum | .exclusiveMinimum => .number
  | .multipleOf => .divisor
  | .maxLength | .minLength | .maxItems | .minItems | .maxProperties | .minProperties => .size
  | .uniqueItems => .flag
  | .type => .types
  | .enum | .examples => .list
  | .required => .names
  | .additionalItems | .contains | .additionalProperties | .propertyNames | .not => .schema
  | .allOf | .anyOf | .oneOf => .schemas
  | .items => .items
  | .properties | .definitions => .named
  | .patternProperties => .matching
  | .dependencies => .dependencies

namespace Demand

/-- Which values meet a demand, given what holds of the parts where schemas stand. -/
inductive Met (holds : Json → Prop) : Demand → Json → Prop
  | anything (value : Json) : Met holds .anything value
  | text (s : String) : Met holds .text (.string s)
  | expression (s : String) : Met holds .expression (.string s)
  | number (n : Number) : Met holds .number (.number n)
  | divisor (n : Number) (h : 0 < n.toRat) : Met holds .divisor (.number n)
  | size (n : Number) (hwhole : n.isWhole = true) (h : 0 ≤ n.toRat) : Met holds .size (.number n)
  | flag (b : Bool) : Met holds .flag (.bool b)
  | type (type : SimpleType) : Met holds .types (.string type.name)
  | types (items : List Json) (hitems : items ≠ [])
      (h : ∀ item ∈ items, ∃ type : SimpleType, item = .string type.name) :
      Met holds .types (.array items)
  | list (items : List Json) : Met holds .list (.array items)
  | names (items : List Json) (h : ∀ item ∈ items, ∃ name, item = .string name) :
      Met holds .names (.array items)
  | schema (value : Json) (h : holds value) : Met holds .schema value
  | schemas (items : List Json) (h : ∀ item ∈ items, holds item) : Met holds .schemas (.array items)
  | all (value : Json) (hvalue : ¬ value.IsArray) (h : holds value) : Met holds .items value
  | each (items : List Json) (h : ∀ item ∈ items, holds item) : Met holds .items (.array items)
  | named (members : List (String × Json)) (h : ∀ member ∈ members, holds member.2) :
      Met holds .named (.object members)
  | matching (members : List (String × Json)) (h : ∀ member ∈ members, holds member.2) :
      Met holds .matching (.object members)
  | dependencies (members : List (String × Json))
      (h : ∀ member ∈ members, (¬ member.2.IsArray ∧ holds member.2) ∨
        ∃ items, member.2 = .array items ∧ ∀ item ∈ items, ∃ name, item = .string name) :
      Met holds .dependencies (.object members)

/-- Where schemas stand in the value of a keyword. -/
inductive Part : Demand → Json → Json → Prop
  | schema (value : Json) : Part .schema value value
  | schemas (items : List Json) (part : Json) (h : part ∈ items) : Part .schemas (.array items) part
  | all (value : Json) (hvalue : ¬ value.IsArray) : Part .items value value
  | each (items : List Json) (part : Json) (h : part ∈ items) : Part .items (.array items) part
  | named (members : List (String × Json)) (member : String × Json) (h : member ∈ members) :
      Part .named (.object members) member.2
  | matching (members : List (String × Json)) (member : String × Json) (h : member ∈ members) :
      Part .matching (.object members) member.2
  | dependencies (members : List (String × Json)) (member : String × Json) (h : member ∈ members)
      (hpart : ¬ member.2.IsArray) : Part .dependencies (.object members) member.2

/-- The texts of the regular expressions in the value of a keyword. -/
def expressions : Demand → Json → List String
  | .expression, .string source => [source]
  | .matching, .object members => members.map Prod.fst
  | _, _ => []

/-- The sizes in the value of a keyword. -/
def sizes : Demand → Json → List Number
  | .size, .number n => [n]
  | _, _ => []

variable {holds holds' : Json → Prop} {d : Demand} {value : Json}

/-- A demand stays met when more holds of the parts where schemas stand. -/
theorem Met.mono (h : d.Met holds value) (hparts : ∀ part, d.Part value part → holds part → holds' part) :
    d.Met holds' value := by
  cases h with
  | anything => exact .anything _
  | text s => exact .text s
  | expression s => exact .expression s
  | number n => exact .number n
  | divisor n h => exact .divisor n h
  | size n hwhole h => exact .size n hwhole h
  | flag b => exact .flag b
  | type type => exact .type type
  | types items hitems h => exact .types items hitems h
  | list items => exact .list items
  | names items h => exact .names items h
  | schema _ h => exact .schema _ (hparts _ (.schema _) h)
  | schemas items h => exact .schemas items fun item hitem => hparts _ (.schemas _ _ hitem) (h _ hitem)
  | all _ hvalue h => exact .all _ hvalue (hparts _ (.all _ hvalue) h)
  | each items h => exact .each items fun item hitem => hparts _ (.each _ _ hitem) (h _ hitem)
  | named members h =>
    exact .named members fun member hmember => hparts _ (.named _ _ hmember) (h _ hmember)
  | matching members h =>
    exact .matching members fun member hmember => hparts _ (.matching _ _ hmember) (h _ hmember)
  | dependencies members h =>
    refine .dependencies members fun member hmember => (h _ hmember).imp_left ?_
    rintro ⟨hpart, h⟩
    exact ⟨hpart, hparts _ (.dependencies _ _ hmember hpart) h⟩

/-- Where a demand is met, the parts where schemas stand are as they should be. -/
theorem Met.part (h : d.Met holds value) {part : Json} (hpart : d.Part value part) : holds part := by
  cases hpart with
  | schema =>
    cases h with
    | schema _ h => exact h
  | schemas items _ hitem =>
    cases h with
    | schemas _ h => exact h _ hitem
  | all _ hvalue =>
    cases h with
    | all _ _ h => exact h
    | each items => exact absurd ⟨items, rfl⟩ hvalue
  | each items _ hitem =>
    cases h with
    | all _ hvalue => exact absurd ⟨items, rfl⟩ hvalue
    | each _ h => exact h _ hitem
  | named members member hmember =>
    cases h with
    | named _ h => exact h _ hmember
  | matching members member hmember =>
    cases h with
    | matching _ h => exact h _ hmember
  | dependencies members member hmember hpart =>
    cases h with
    | dependencies _ h =>
      rcases h _ hmember with ⟨_, h⟩ | ⟨items, hitems, _⟩
      · exact h
      · exact absurd ⟨items, hitems⟩ hpart

end Demand

end Draft6
