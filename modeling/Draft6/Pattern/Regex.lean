import Draft6.Pattern.CharSet

/-!
# Regular expressions

What an expression means is which positions of a text it can lead to from which: `Regex.ends` takes
a set of positions and gives the set of positions where a match that began in it can end. A set of
positions is a natural number whose bit `i` stands for the position before character `i`. The
meaning of a repetition is a fixed point that is reached after at most as many rounds as there are
positions.
-/

namespace Draft6

namespace Pattern

/-- A condition on a position of a text, which takes no character. -/
inductive Look where
  | startText
  | endText
  | startLine (crlf : Bool)
  | endLine (crlf : Bool)
  | boundary (unicode : Bool)
  | noBoundary (unicode : Bool)
  | wordStart (unicode : Bool)
  | wordEnd (unicode : Bool)
  | wordStartHalf (unicode : Bool)
  | wordEndHalf (unicode : Bool)
deriving DecidableEq

namespace Look

/-- Whether a character is there and belongs to a word. -/
def isWord (unicode : Bool) : Option Char → Bool
  | some c => (CharSet.word unicode).contains c.toNat
  | none => false

/-- Whether the condition holds between two characters, of which the first is missing at the start
of the text and the second at its end. -/
def holds (before after : Option Char) : Look → Bool
  | .startText => before = none
  | .endText => after = none
  | .startLine false => before = none || before = some '\n'
  | .endLine false => after = none || after = some '\n'
  | .startLine true =>
    before = none || before = some '\n' || (before = some '\r' && after ≠ some '\n')
  | .endLine true =>
    after = none || after = some '\r' || (after = some '\n' && before ≠ some '\r')
  | .boundary unicode => isWord unicode before != isWord unicode after
  | .noBoundary unicode => isWord unicode before == isWord unicode after
  | .wordStart unicode => !isWord unicode before && isWord unicode after
  | .wordEnd unicode => isWord unicode before && !isWord unicode after
  | .wordStartHalf unicode => !isWord unicode before
  | .wordEndHalf unicode => !isWord unicode after

end Look

/-- A regular expression. -/
inductive Regex where
  | empty
  /-- Characters one after another. -/
  | literal (text : List Char)
  | chars (set : Unicode.Ranges)
  | look (condition : Look)
  /-- At least `min` times, and at most `max` times if there is a bound. A greedy repetition takes
  as much as it can, which does not matter for whether there is a match. -/
  | repeated (body : Regex) (min : Nat) (max : Option Nat) (greedy : Bool)
  /-- A part that is counted, from one on. -/
  | group (index : Nat) (body : Regex)
  | seq (parts : List Regex)
  | alt (branches : List Regex)
deriving BEq

namespace Regex

/-- The set of positions before the characters that pass a test. -/
def charMask (test : Char → Bool) : List Char → Nat
  | [] => 0
  | c :: rest => 2 * charMask test rest + if test c then 1 else 0

/-- The set of positions between two neighbours that pass a test; `before` is the neighbour of the
first position. -/
def lookMask (test : Option Char → Option Char → Bool) (before : Option Char) : List Char → Nat
  | [] => if test before none then 1 else 0
  | c :: rest =>
    2 * lookMask test (some c) rest + if test before (some c) then 1 else 0

/-- An expression prepared for one text: sets and conditions are replaced by the positions where
they hold. -/
inductive Steps where
  | stay
  | next (mask : Nat)
  | keep (mask : Nat)
  | seq (first second : Steps)
  | alt (first second : Steps)
  | repeated (body : Steps) (min : Nat) (max : Option Nat)

/-- The steps over given characters of a text. -/
def onLiteral (text : List Char) : List Char → Steps
  | [] => .stay
  | [c] => .next (charMask (· = c) text)
  | c :: rest => .seq (.next (charMask (· = c) text)) (onLiteral text rest)

mutual

/-- Prepare an expression for a text. -/
def on (text : List Char) : Regex → Steps
  | .empty => .stay
  | .literal cs => onLiteral text cs
  | .chars set => .next (charMask (fun c => set.contains c.toNat) text)
  | .look condition => .keep (lookMask (fun before after => condition.holds before after) none text)
  | .repeated body min max _ => .repeated (on text body) min max
  | .group _ body => on text body
  | .seq parts => onSeq text parts
  | .alt branches => onAlt text branches

/-- Prepare expressions that follow each other. -/
def onSeq (text : List Char) : List Regex → Steps
  | [] => .stay
  | part :: parts => .seq (on text part) (onSeq text parts)

/-- Prepare expressions of which one has to match. -/
def onAlt (text : List Char) : List Regex → Steps
  | [] => .next 0
  | branch :: branches => .alt (on text branch) (onAlt text branches)

end

/-- Apply a step a number of times, stopping early when it changes nothing. -/
def times (step : Nat → Nat) : Nat → Nat → Nat
  | 0, positions => positions
  | n + 1, positions =>
    let next := step positions
    if next = positions then positions else times step n next

/-- The positions reached by at most a number of steps, stopping early when no position is new. -/
def within (step : Nat → Nat) : Nat → Nat → Nat
  | 0, positions => positions
  | n + 1, positions =>
    let next := positions ||| step positions
    if next = positions then positions else within step n next

/-- Where a match that began at one of the positions can end, in a text of some length. -/
def Steps.ends (length : Nat) : Steps → Nat → Nat
  | .stay, positions => positions
  | .next mask, positions => (positions &&& mask) <<< 1
  | .keep mask, positions => positions &&& mask
  | .seq a b, positions => ends length b (ends length a positions)
  | .alt a b, positions => ends length a positions ||| ends length b positions
  | .repeated body min max, positions =>
    let reached := times (ends length body) min positions
    match max with
    | none => within (ends length body) (length + 1) reached
    | some max => within (ends length body) (max - min) reached

/-- Whether a match begins somewhere in the text. -/
def search (r : Regex) (text : List Char) : Bool :=
  (r.on text).ends text.length (Nat.pow 2 (text.length + 1) - 1) ≠ 0

end Regex

end Pattern

end Draft6
