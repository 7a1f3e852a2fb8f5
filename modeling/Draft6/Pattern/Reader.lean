import Draft6.Pattern.Bracket
import Draft6.Pattern.Program

/-!
# Reading regular expressions

The reader takes one element, operator or parenthesis at a time and keeps the groups that are still
open on a stack. A text that is no expression, nests too deep or grows too large by repetition gives
nothing. Look-around and references to groups are not part of the language.
-/

namespace Draft6

namespace Pattern

namespace Reader

/-- What stands in a branch: an expression, or a change of flags, which cannot be repeated. -/
inductive Item where
  | flags
  | regex (nested : Nested Regex)

/-- The expression of an item. -/
def Item.nested : Item → Nested Regex
  | .flags => ⟨.empty, 0⟩
  | .regex nested => nested

/-- A group under way: its finished branches and the items of the last one, each last one first, and
the flags in force where it began. A group with an index is counted. -/
structure Group where
  flags : Flags
  index : Option Nat
  branches : List (Nested Regex)
  items : List Item

/-- Join parts into one, a level deeper unless there is only one. -/
def joined (combine : List Regex → Regex) (parts : List (Nested Regex)) : Nested Regex :=
  match parts with
  | [] => ⟨.empty, 0⟩
  | [part] => part
  | parts => ⟨combine (parts.map Nested.part), 1 + (parts.map Nested.depth).foldl max 0⟩

/-- The expression of a branch. -/
def branch (items : List Item) : Nested Regex :=
  joined .seqOf (items.reverse.map Item.nested)

/-- The alternatives of a group, of which the last one is still a list of items. -/
def Group.regex (g : Group) : Nested Regex := joined .altOf (branch g.items :: g.branches).reverse

/-- Add an expression to the last branch. -/
def Group.push (g : Group) (part : Regex) (depth : Nat) : Group :=
  { g with items := .regex ⟨part, depth⟩ :: g.items }

/-- Repeat the last item of the last branch, if there is one that can be repeated. -/
def Group.repeat? (g : Group) (min : Nat) (max : Option Nat) (greedy : Bool) : Option Group :=
  match g.items with
  | .regex last :: items =>
    some { g with items := .regex ⟨.repeatOf last.part min max greedy, last.depth + 1⟩ :: items }
  | _ => none

/-- Set or clear one flag. -/
def setFlag? (flags : Flags) (on : Bool) : Char → Option Flags
  | 'i' => some { flags with ignoreCase := on }
  | 'm' => some { flags with multiLine := on }
  | 's' => some { flags with dotAll := on }
  | 'U' => some { flags with lazyFirst := on }
  | 'u' => some { flags with unicode := on }
  | 'R' => some { flags with crlf := on }
  | 'x' => some { flags with spaced := on }
  | _ => none

/-- What a list of flags says: the flags then in force, whether it names none, the colon or closing
parenthesis at its end, and the text after that. -/
structure FlagList where
  flags : Flags
  isEmpty : Bool
  mark : Char
  rest : List Char

/-- Read flags up to a colon or closing parenthesis. No flag and no minus sign may occur twice, and
a minus sign needs a flag after it. -/
def flags? (flags : Flags) (seen : List Char) (on : Bool) : List Char → Option FlagList
  | [] => none
  | c :: rest =>
    if c = ':' ∨ c = ')' then
      if seen.head? = some '-' then none else some ⟨flags, seen.isEmpty, c, rest⟩
    else if seen.contains c then none
    else if c = '-' then flags? flags (c :: seen) false rest
    else do flags? (← setFlag? flags on c) (c :: seen) on rest

/-- Whether a character may stand in the name of a group. Letters and numbers are those of the
current edition. -/
def isNameChar (first : Bool) (c : Char) : Bool :=
  let isNumber := match Unicode.Category.of c.toNat with
    | .decimalNumber | .letterNumber | .otherNumber => true
    | _ => false
  c = '_' || (Unicode.alphabetic .v17).contains c.toNat ||
    (!first && (isNumber || c = '.' || c = '[' || c = ']'))

/-- The name of a group up to its closing angle bracket. -/
def groupName? (cs : List Char) : Option (String × List Char) :=
  let name := cs.takeWhile (· ≠ '>')
  match name, cs.dropWhile (· ≠ '>') with
  | first :: others, _ :: rest =>
    if isNameChar true first && others.all (isNameChar false) then
      some (String.ofList name, rest)
    else none
  | _, _ => none

/-- Skip white space, whatever the flags say. -/
def skipBlanks (cs : List Char) : List Char :=
  cs.dropWhile fun c => Unicode.whiteSpace.contains c.toNat

/-- The digits of a number, without what is skipped between them. -/
def digits (flags : Flags) (read : List Char) : (fuel : Nat) → List Char → List Char × List Char
  | 0, cs => (read.reverse, cs)
  | fuel + 1, cs =>
    match cs with
    | c :: rest =>
      if c.isDigit then digits flags (c :: read) fuel (Element.skip flags rest)
      else (read.reverse, cs)
    | [] => (read.reverse, [])

/-- A decimal number between blanks. The inner result is missing when there are no digits or too
many. -/
def decimal (flags : Flags) (cs : List Char) : Option Nat × List Char :=
  let (ds, rest) := digits flags [] (cs.length + 1) (skipBlanks cs)
  let value := ds.foldl (fun n c => 10 * n + (c.toNat - '0'.toNat)) 0
  let value? := if ds.isEmpty ∨ 4294967296 ≤ value then none else some value
  (value?, Element.skip flags (skipBlanks rest))

/-- The bounds of a counted repetition after its opening brace, and the text after the closing
one. -/
def bounds? (flags : Flags) (cs : List Char) : Option (Nat × Option Nat × List Char) :=
  match Element.skip flags cs with
  | [] => none
  | cs =>
    match decimal flags cs with
    | (some min, '}' :: rest) => some (min, some min, rest)
    | (some min, ',' :: rest) =>
      match Element.skip flags rest with
      | '}' :: rest => some (min, none, rest)
      | rest =>
        match decimal flags rest with
        | (some max, '}' :: rest) => if min ≤ max then some (min, some max, rest) else none
        | _ => none
    | _ => none

/-- Whether a repetition is greedy, which a question mark after it changes, and the text after
that. -/
def greed (flags : Flags) : List Char → Bool × List Char
  | '?' :: rest => (flags.lazyFirst, rest)
  | cs => (!flags.lazyFirst, cs)

/-- The element of a character outside brackets. -/
def element? (flags : Flags) (c : Char) (rest : List Char) : Option (Element × List Char) :=
  match c with
  | '\\' => Element.escape? flags rest
  | '.' => some (.dot, rest)
  | '^' => some (.look (if flags.multiLine then .startLine flags.crlf else .startText), rest)
  | '$' => some (.look (if flags.multiLine then .endLine flags.crlf else .endText), rest)
  | c => some (.literal c false, rest)

/-- What an opening parenthesis begins. -/
inductive Opening where
  /-- A group that is counted, perhaps with a name. -/
  | counted (name : Option String)
  /-- A group with its flags. -/
  | plain (flags : Flags)
  /-- Flags for the rest of the group around. -/
  | flags (flags : Flags)

/-- What stands after an opening parenthesis. -/
def opening? (flags : Flags) (cs : List Char) : Option (Opening × List Char) :=
  match Element.skip flags cs with
  | '?' :: '=' :: _ | '?' :: '!' :: _ | '?' :: '<' :: '=' :: _ | '?' :: '<' :: '!' :: _ => none
  | '?' :: 'P' :: '<' :: rest | '?' :: '<' :: rest => do
    let (name, rest) ← groupName? rest
    pure (.counted (some name), rest)
  | '?' :: rest => do
    let list ← flags? flags [] true rest
    if list.mark = ':' then pure (.plain list.flags, list.rest)
    else if list.isEmpty then failure
    else pure (.flags list.flags, list.rest)
  | rest => some (.counted none, rest)

/-- The groups that are counted so far: how many there are, and their names. -/
structure Counted where
  count : Nat
  names : List String

/-- Count a group, unless its name is taken. -/
def Counted.add? (counted : Counted) (name : Option String) : Option Counted :=
  match name with
  | none => some ⟨counted.count + 1, counted.names⟩
  | some name =>
    if counted.names.contains name then none else some ⟨counted.count + 1, name :: counted.names⟩

/-- Read up to the end of the text. -/
def read? (flags : Flags) (counted : Counted) (outer : List Group) (here : Group) :
    (fuel : Nat) → List Char → Option (Nested Regex)
  | 0, _ => none
  | fuel + 1, cs =>
    let repeated (min : Nat) (max : Option Nat) (rest : List Char) : Option (Nested Regex) := do
      let (greedy, rest) := greed flags rest
      read? flags counted outer (← here.repeat? min max greedy) fuel rest
    match Element.skip flags cs with
    | [] => if outer.isEmpty then some here.regex else none
    | '(' :: rest => do
      match ← opening? flags rest with
      | (.flags changed, rest) =>
        read? changed counted outer { here with items := .flags :: here.items } fuel rest
      | (.plain inner, rest) =>
        read? inner counted (here :: outer) ⟨flags, none, [], []⟩ fuel rest
      | (.counted name, rest) =>
        let counted ← counted.add? name
        read? flags counted (here :: outer) ⟨flags, some counted.count, [], []⟩ fuel rest
    | ')' :: rest =>
      match outer with
      | [] => none
      | around :: outer =>
        let inside := here.regex
        let part := match here.index with
          | some index => .group index inside.part
          | none => inside.part
        read? here.flags counted outer (around.push part (inside.depth + 1)) fuel rest
    | '|' :: rest =>
      let here : Group := { here with branches := branch here.items :: here.branches, items := [] }
      read? flags counted outer here fuel rest
    | '[' :: rest => do
      let (set, rest) ← Bracket.open? flags (2 * rest.length + 2) rest
      read? flags counted outer (here.push (.ofSet set.part) set.depth) fuel rest
    | '?' :: rest => repeated 0 (some 1) rest
    | '*' :: rest => repeated 0 none rest
    | '+' :: rest => repeated 1 none rest
    | '{' :: rest => do
      let (min, max, rest) ← bounds? flags rest
      repeated min max (Element.skip flags rest)
    | c :: rest => do
      let (element, rest) ← element? flags c rest
      read? flags counted outer (here.push (← element.regex? flags) 0) fuel rest

/-- How deep an expression may nest. -/
def maxDepth : Nat := 250

/-- Read a whole text as an expression. -/
def regex? (source : String) : Option Regex := do
  let cs := source.toList
  let nested ← read? {} ⟨0, []⟩ [] ⟨{}, none, [], []⟩ (cs.length + 1) cs
  if nested.depth ≤ maxDepth ∧ Program.fits nested.part then pure nested.part else failure

end Reader

end Pattern

end Draft6
