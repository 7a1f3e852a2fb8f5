import Draft6.Pattern.Escape

/-!
# Sets in brackets

A bracketed set joins characters, ranges, escapes, named sets and further brackets. The operators
`&&`, `--` and `~~` take everything between two of them as one operand and group to the left.
-/

namespace Draft6

namespace Pattern

open Unicode (Ranges)

/-- A part of an expression together with how deep its nesting is. -/
structure Nested (α : Type) where
  part : α
  depth : Nat

namespace Bracket

/-- An operator between sets. -/
inductive Operator where
  | inter
  | minus
  | symmetric

/-- The set that an operator makes. -/
def Operator.apply : Operator → Ranges → Ranges → Ranges
  | .inter => Ranges.inter
  | .minus => Ranges.diff
  | .symmetric => Ranges.symmetricDiff

/-- The union of the parts of one operand. -/
def joined (items : List (Nested Ranges)) : Nested Ranges :=
  match items with
  | [item] => item
  | [] => ⟨.empty, 0⟩
  | items =>
    ⟨Ranges.unionAll (items.map Nested.part), 1 + (items.map Nested.depth).foldl max 0⟩

/-- An operand waits with its operator for the operand to its right. -/
abbrev Pending := Option (Operator × Nested Ranges)

/-- Apply the operator that waits. Both operands are folded where case does not count. -/
def applyPending (flags : Flags) (pending : Pending) (right : Nested Ranges) : Nested Ranges :=
  match pending with
  | none => right
  | some (operator, left) =>
    let part := operator.apply (Element.fold flags left.part) (Element.fold flags right.part)
    ⟨part, 1 + max left.depth right.depth⟩

/-- A named set `[:name:]` after its first bracket. Anything else is a bracket of its own. -/
def named? (flags : Flags) (cs : List Char) : Option (Ranges × List Char) :=
  match cs with
  | ':' :: rest =>
    let (negated, rest) := match rest with
      | '^' :: rest => (true, rest)
      | rest => (false, rest)
    let name := rest.takeWhile (· ≠ ':')
    match rest.dropWhile (· ≠ ':') with
    | ':' :: ']' :: rest =>
      (CharSet.named? (String.ofList name)).map fun set => (Element.finish flags negated set, rest)
    | _ => none
  | _ => none

/-- One character or escape. -/
def element? (flags : Flags) : List Char → Option (Element × List Char)
  | [] => none
  | '\\' :: rest => Element.escape? flags rest
  | c :: rest => some (.literal c false, rest)

/-- The set of a lone element. Conditions on positions make none. -/
def elementSet? (flags : Flags) : Element → Option Ranges
  | .literal c _ => asciiOnly? flags (.single c.toNat)
  | .oneOf set => asciiOnly? flags set
  | .dot | .look _ => none

/-- A range, or a lone element. A hyphen before a bracket or another hyphen makes no range. -/
def range? (flags : Flags) (cs : List Char) : Option (Ranges × List Char) := do
  let (first, rest) ← element? flags cs
  match Element.skip flags rest with
  | [] => none
  | '-' :: after =>
    match Element.skip flags after with
    | [] => none
    | ']' :: _ | '-' :: _ => pure (← elementSet? flags first, '-' :: after)
    | after =>
      let (last, rest) ← element? flags after
      match first, last with
      | .literal a _, .literal b _ =>
        if a ≤ b then pure (← asciiOnly? flags (.between a.toNat b.toNat), rest) else none
      | _, _ => none
  | rest => pure (← elementSet? flags first, rest)

/-- Hyphens at the start of a set stand for themselves. -/
def leadingHyphens (flags : Flags) : (fuel : Nat) → List Char → Nat × List Char
  | 0, cs => (0, cs)
  | fuel + 1, cs =>
    match cs with
    | '-' :: rest =>
      let (count, rest) := leadingHyphens flags fuel (Element.skip flags rest)
      (count + 1, rest)
    | cs => (0, cs)

mutual

/-- A set after its opening bracket. A closing bracket stands for itself when it is the first
character. -/
def open? (flags : Flags) : (fuel : Nat) → List Char → Option (Nested Ranges × List Char)
  | 0, _ => none
  | fuel + 1, cs => do
    let (negated, cs) := match Element.skip flags cs with
      | '^' :: rest => (true, Element.skip flags rest)
      | cs => (false, cs)
    let (hyphens, cs) := leadingHyphens flags (cs.length + 1) cs
    let start : List (Nested Ranges) := List.replicate hyphens ⟨.single '-'.toNat, 0⟩
    let (start, cs) := match hyphens, cs with
      | 0, ']' :: rest => ([⟨.single ']'.toNat, 0⟩], Element.skip flags rest)
      | _, cs => (start, cs)
    let (set, rest) ← rest? flags start none fuel cs
    let part ← asciiOnly? flags (Element.finish flags negated set.part)
    pure (⟨part, set.depth + 1⟩, rest)

/-- The rest of a set, up to its closing bracket. -/
def rest? (flags : Flags) (items : List (Nested Ranges)) (pending : Pending) :
    (fuel : Nat) → List Char → Option (Nested Ranges × List Char)
  | 0, _ => none
  | fuel + 1, cs =>
    let operator (op : Operator) (rest : List Char) : Option (Nested Ranges × List Char) :=
      rest? flags [] (some (op, applyPending flags pending (joined items))) fuel rest
    match Element.skip flags cs with
    | [] => none
    | ']' :: rest => some (applyPending flags pending (joined items), rest)
    | '[' :: rest =>
      match named? flags rest with
      | some (set, rest) => do
        let set ← asciiOnly? flags set
        rest? flags (⟨set, 0⟩ :: items) pending fuel rest
      | none => do
        let (set, rest) ← open? flags fuel rest
        rest? flags (set :: items) pending fuel rest
    | '&' :: '&' :: rest => operator .inter rest
    | '-' :: '-' :: rest => operator .minus rest
    | '~' :: '~' :: rest => operator .symmetric rest
    | cs => do
      let (set, rest) ← range? flags cs
      rest? flags (⟨set, 0⟩ :: items) pending fuel rest

end

end Bracket

end Pattern

end Draft6
