import Draft6.Pattern.Regex

/-!
# Putting regular expressions together

Sequences, alternatives and repetitions are brought into a simple form when they are made: without
sequences in sequences, empty parts, neighbouring literals, or alternatives of single characters.
The form has the same matches. It decides how large the program of an expression is.
-/

namespace Draft6

namespace Pattern

namespace Regex

open Unicode (Ranges)

/-- The bytes of a character in UTF-8. -/
def codeBytes (code : Nat) : Nat := (Char.ofNat code).utf8Size

/-- The bytes of characters in UTF-8. -/
def textBytes (cs : List Char) : Nat := (cs.map Char.utf8Size).foldl (· + ·) 0

mutual

/-- The least number of bytes in a match, if anything matches. -/
def minBytes? : Regex → Option Nat
  | .empty | .look _ => some 0
  | .literal cs => some (textBytes cs)
  | .chars set => set.bounds.head?.map fun bounds => codeBytes bounds.1
  | .repeated body min _ _ => (minBytes? body).map (· * min)
  | .group _ body => minBytes? body
  | .seq parts => minBytesOfSeq? parts
  | .alt branches => minBytesOfAlt? branches

/-- The least number of bytes in a match of a sequence. -/
def minBytesOfSeq? : List Regex → Option Nat
  | [] => some 0
  | part :: parts => do pure ((← minBytes? part) + (← minBytesOfSeq? parts))

/-- The least number of bytes in a match of alternatives all of which can match. -/
def minBytesOfAlt? : List Regex → Option Nat
  | [] => none
  | [branch] => minBytes? branch
  | branch :: branches => do pure (Nat.min (← minBytes? branch) (← minBytesOfAlt? branches))

end

mutual

/-- The largest number of bytes in a match, if there is a bound and anything matches. -/
def maxBytes? : Regex → Option Nat
  | .empty | .look _ => some 0
  | .literal cs => some (textBytes cs)
  | .chars set => set.bounds.getLast?.map fun bounds => codeBytes bounds.2
  | .repeated body _ max _ => do pure ((← max) * (← maxBytes? body))
  | .group _ body => maxBytes? body
  | .seq parts => maxBytesOfSeq? parts
  | .alt branches => maxBytesOfAlt? branches

/-- The largest number of bytes in a match of a sequence. -/
def maxBytesOfSeq? : List Regex → Option Nat
  | [] => some 0
  | part :: parts => do pure ((← maxBytes? part) + (← maxBytesOfSeq? parts))

/-- The largest number of bytes in a match of alternatives all of which can match. -/
def maxBytesOfAlt? : List Regex → Option Nat
  | [] => none
  | [branch] => maxBytes? branch
  | branch :: branches => do pure (Nat.max (← maxBytes? branch) (← maxBytesOfAlt? branches))

end

mutual

/-- Whether every match begins with the condition that the text starts there. -/
def isAnchoredAtStart : Regex → Bool
  | .look condition => condition = .startText
  | .repeated body min _ _ => 0 < min && isAnchoredAtStart body
  | .group _ body => isAnchoredAtStart body
  | .seq parts => isSeqAnchoredAtStart parts
  | .alt branches => areAnchoredAtStart branches
  | .empty | .literal _ | .chars _ => false

/-- Whether every match of a sequence begins with the condition that the text starts there. Other
conditions may stand in front of it. -/
def isSeqAnchoredAtStart : List Regex → Bool
  | [] => false
  | part :: parts =>
    isAnchoredAtStart part || (maxBytes? part = some 0 && isSeqAnchoredAtStart parts)

/-- Whether every match of each expression begins with the condition that the text starts there. -/
def areAnchoredAtStart : List Regex → Bool
  | [] => true
  | branch :: branches => isAnchoredAtStart branch && areAnchoredAtStart branches

end

mutual

/-- Whether every match ends with the condition that the text ends there. -/
def isAnchoredAtEnd : Regex → Bool
  | .look condition => condition = .endText
  | .repeated body min _ _ => 0 < min && isAnchoredAtEnd body
  | .group _ body => isAnchoredAtEnd body
  | .seq parts => isSeqAnchoredAtEnd parts
  | .alt branches => areAnchoredAtEnd branches
  | .empty | .literal _ | .chars _ => false

/-- Whether every match of a sequence ends with the condition that the text ends there. Other
conditions may stand behind it. -/
def isSeqAnchoredAtEnd : List Regex → Bool
  | [] => false
  | part :: parts =>
    isSeqAnchoredAtEnd parts || (maxBytesOfSeq? parts = some 0 && isAnchoredAtEnd part)

/-- Whether every match of each expression ends with the condition that the text ends there. -/
def areAnchoredAtEnd : List Regex → Bool
  | [] => true
  | branch :: branches => isAnchoredAtEnd branch && areAnchoredAtEnd branches

end

mutual

/-- The number of expressions in an expression. -/
def count : Regex → Nat
  | .repeated body _ _ _ | .group _ body => count body + 1
  | .seq parts => countAll parts + 1
  | .alt branches => countAll branches + 1
  | .empty | .literal _ | .chars _ | .look _ => 1

/-- The number of expressions in several expressions. -/
def countAll : List Regex → Nat
  | [] => 0
  | r :: rs => count r + countAll rs

end

/-- The expression of a set. A set of one character is that character. -/
def ofSet (set : Ranges) : Regex :=
  match set.bounds with
  | [(first, last)] => if first = last then .literal [Char.ofNat first] else .chars set
  | _ => .chars set

/-- The parts of a sequence, as parts of the sequence around it. -/
def seqParts : Regex → List Regex
  | .empty => []
  | .seq parts => parts
  | r => [r]

/-- Join neighbouring literals. -/
def joinLiterals : List Regex → List Regex
  | [] => []
  | .literal a :: rest =>
    match joinLiterals rest with
    | .literal b :: rest => .literal (a ++ b) :: rest
    | rest => .literal a :: rest
  | part :: rest => part :: joinLiterals rest

/-- One expression after another. -/
def seqOf (parts : List Regex) : Regex :=
  match joinLiterals (parts.flatMap seqParts) with
  | [] => .empty
  | [part] => part
  | parts => .seq parts

/-- The branches of alternatives, as branches of the alternatives around them. -/
def altBranches : Regex → List Regex
  | .alt branches => branches
  | r => [r]

/-- The code of an expression that is one character. -/
def singleCode? : Regex → Option Nat
  | .literal [c] => some c.toNat
  | _ => none

/-- The set of an expression that is a set. -/
def set? : Regex → Option Ranges
  | .chars set => some set
  | _ => none

/-- The parts of an expression that is a sequence. -/
def parts? : Regex → Option (List Regex)
  | .seq parts => some parts
  | _ => none

/-- What two lists begin with. -/
def commonPrefix : List Regex → List Regex → List Regex
  | a :: as, b :: bs => if a == b then a :: commonPrefix as bs else []
  | _, _ => []

/-- The parts that all branches begin with, if all are sequences, and what they go on with. -/
def factor? (branches : List Regex) : Option (List Regex × List (List Regex)) := do
  match ← branches.mapM parts? with
  | [] => failure
  | first :: rest =>
    match rest.foldl commonPrefix first with
    | [] => failure
    | shared => pure (shared, (first :: rest).map (List.drop shared.length))

/-- Alternatives, with their common parts in front of them. -/
def altFrom : (fuel : Nat) → List Regex → Regex
  | 0, branches => .alt branches
  | fuel + 1, branches =>
    match branches.flatMap altBranches with
    | [branch] => branch
    | branches =>
      match branches.mapM singleCode?, branches.mapM set?, factor? branches with
      | some codes, _, _ => ofSet (.ofList (codes.map fun code => (code, code)))
      | none, some sets, _ => ofSet (.unionAll sets)
      | none, none, some (shared, rests) => seqOf (shared ++ [altFrom fuel (rests.map seqOf)])
      | none, none, none => .alt branches

/-- One of several expressions. Each round takes common parts away, so that there are at most as
many rounds as parts. -/
def altOf (branches : List Regex) : Regex := altFrom (countAll branches + 1) branches

/-- An expression a number of times. What takes no characters need not be repeated. -/
def repeatOf (body : Regex) (min : Nat) (max : Option Nat) (greedy : Bool) : Regex :=
  let (min, max) :=
    if maxBytes? body = some 0 then (Nat.min min 1, some (Nat.min (max.getD 1) 1)) else (min, max)
  if max = some 0 then .empty
  else if min = 1 ∧ max = some 1 then body
  else .repeated body min max greedy

end Regex

end Pattern

end Draft6
