import Draft6.Pattern.Compose
import Draft6.Unicode.CaseOrbit
import Draft6.Unicode.Name

/-!
# Single elements of a regular expression

Escapes, literal characters and the flags that change how they are read. Reading gives nothing when
the text is not a regular expression; why it is not does not matter to a schema.
-/

namespace Draft6

namespace Pattern

open Unicode (Ranges)

/-- The flags in force. -/
structure Flags where
  ignoreCase : Bool := false
  multiLine : Bool := false
  dotAll : Bool := false
  lazyFirst : Bool := false
  unicode : Bool := true
  crlf : Bool := false
  /-- Blanks and comments are skipped. -/
  spaced : Bool := false
deriving DecidableEq

/-- What one element stands for. -/
inductive Element where
  /-- A character; a byte when it was written as `\x` and two digits. -/
  | literal (c : Char) (byte : Bool)
  | dot
  | look (condition : Look)
  | oneOf (set : Ranges)

namespace Element

/-- Skip blanks and comments. -/
def skipSpaced (inComment : Bool) : List Char → List Char
  | [] => []
  | c :: rest =>
    if inComment then skipSpaced (c ≠ '\n') rest
    else if Unicode.whiteSpace.contains c.toNat then skipSpaced false rest
    else if c = '#' then skipSpaced true rest
    else c :: rest

/-- Skip blanks and comments where the flags say so. -/
def skip (flags : Flags) (cs : List Char) : List Char :=
  if flags.spaced then skipSpaced false cs else cs

/-- The characters with a meaning of their own. -/
def isMeta (c : Char) : Bool := "\\.+*?()|[]\x7b\x7d^$#&-~".toList.contains c

/-- Whether a backslash before the character takes it as it is. -/
def isEscapable (c : Char) : Bool :=
  isMeta c || (c.toNat < 0x80 && !c.isAlphanum && c ≠ '<' && c ≠ '>')

/-- A number of hexadecimal digits, the number that they make after `read`. -/
def hexDigits? (flags : Flags) : (count read : Nat) → List Char → Option (Nat × List Char)
  | 0, read, cs => some (read, cs)
  | _ + 1, _, [] => none
  | count + 1, read, c :: rest => do
    let digit ← Hex.value? c
    hexDigits? flags count (16 * read + digit) (skip flags rest)

/-- The character with a code, if there is one. -/
def character? (code : Nat) : Option Char :=
  if code.isValidChar then some (Char.ofNat code) else none

/-- Everything up to a closing brace, without what is skipped. -/
def upToBrace? (flags : Flags) (read : List Char) :
    (fuel : Nat) → List Char → Option (List Char × List Char)
  | 0, _ => none
  | fuel + 1, cs =>
    match skip flags cs with
    | [] => none
    | '}' :: rest => some (read.reverse, rest)
    | c :: rest => upToBrace? flags (c :: read) fuel rest

/-- A character by its code, after `\x`, `\u` or `\U`. -/
def hex? (flags : Flags) (width : Nat) (cs : List Char) : Option (Element × List Char) :=
  match skip flags cs with
  | '{' :: rest => do
    let (digits, rest) ← upToBrace? flags [] (rest.length + 1) rest
    if digits.isEmpty then none
    else
      let c ← character? (← Hex.number? digits)
      pure (.literal c false, skip flags rest)
  | cs => do
    let (code, rest) ← hexDigits? flags width 0 cs
    let c ← character? code
    pure (.literal c (width = 2), rest)

/-- Cut a name at the first place where a mark stands. -/
def cutAt? (mark : List Char) : List Char → Option (List Char × List Char)
  | [] => none
  | c :: rest =>
    if mark.isPrefixOf (c :: rest) then some ([], (c :: rest).drop mark.length)
    else (cutAt? mark rest).map fun (a, b) => (c :: a, b)

/-- The set that the text between the braces of `\p` names, and whether it is to be negated. -/
def propertySet? (name : List Char) : Option (Ranges × Bool) :=
  let value? (negated : Bool) (part : List Char × List Char) : Option (Ranges × Bool) :=
    (Unicode.Name.setOfValue? (String.ofList part.1) (String.ofList part.2)).map (·, negated)
  match cutAt? ['!', '='] name with
  | some part => value? true part
  | none =>
    match cutAt? [':'] name with
    | some part => value? false part
    | none =>
      match cutAt? ['='] name with
      | some part => value? false part
      | none => (Unicode.Name.set? (String.ofList name)).map (·, false)

/-- The set with every character that equals a member without regard to case, where case does not
count. -/
def fold (flags : Flags) (set : Ranges) : Ranges :=
  if flags.ignoreCase then Unicode.CaseOrbit.close flags.unicode set else set

/-- The set that a written set becomes under the flags. -/
def finish (flags : Flags) (negated : Bool) (set : Ranges) : Ranges :=
  if negated then (fold flags set).complement else fold flags set

/-- A Unicode property, after `\p` or `\P`. Properties need the Unicode flag. -/
def property? (flags : Flags) (negated : Bool) (cs : List Char) : Option (Element × List Char) :=
  match skip flags cs with
  | [] => none
  | '{' :: rest => do
    let (name, rest) ← upToBrace? flags [] (rest.length + 1) rest
    let (set, negatedInside) ← propertySet? name
    if flags.unicode then some (.oneOf (finish flags (negated != negatedInside) set), rest)
    else none
  | '\\' :: _ => none
  | c :: rest => do
    let set ← Unicode.Name.set? (String.singleton c)
    if flags.unicode then some (.oneOf (finish flags negated set), skip flags rest) else none

/-- Whether a character may stand between the braces of a word boundary. -/
def isBoundaryChar (c : Char) : Bool := c.isAlpha || c = '-'

/-- The letters of a word boundary's name, without what is skipped between them. -/
def boundaryName (flags : Flags) (read : List Char) :
    (fuel : Nat) → List Char → List Char × List Char
  | 0, cs => (read.reverse, cs)
  | fuel + 1, cs =>
    match cs with
    | c :: rest =>
      if isBoundaryChar c then boundaryName flags (c :: read) fuel (skip flags rest)
      else (read.reverse, cs)
    | [] => (read.reverse, [])

/-- A word boundary after `\b`. Braces that hold no letters belong to a repetition. -/
def boundary? (flags : Flags) (cs : List Char) : Option (Element × List Char) :=
  match cs with
  | '{' :: rest =>
    match skip flags rest with
    | [] => none
    | c :: after =>
      if isBoundaryChar c then
        let (name, rest) := boundaryName flags [] (after.length + 2) (c :: after)
        match String.ofList name, rest with
        | "start", '}' :: rest => some (.look (.wordStart flags.unicode), rest)
        | "end", '}' :: rest => some (.look (.wordEnd flags.unicode), rest)
        | "start-half", '}' :: rest => some (.look (.wordStartHalf flags.unicode), rest)
        | "end-half", '}' :: rest => some (.look (.wordEndHalf flags.unicode), rest)
        | _, _ => none
      else some (.look (.boundary flags.unicode), cs)
  | cs => some (.look (.boundary flags.unicode), cs)

/-- The element after a backslash. -/
def escape? (flags : Flags) (cs : List Char) : Option (Element × List Char) :=
  let set (negated : Bool) (s : Ranges) : Element := .oneOf (if negated then s.complement else s)
  match cs with
  | [] => none
  | 'x' :: rest => hex? flags 2 rest
  | 'u' :: rest => hex? flags 4 rest
  | 'U' :: rest => hex? flags 8 rest
  | 'p' :: rest => property? flags false rest
  | 'P' :: rest => property? flags true rest
  | 'd' :: rest => some (set false (CharSet.digit flags.unicode), rest)
  | 'D' :: rest => some (set true (CharSet.digit flags.unicode), rest)
  | 's' :: rest => some (set false (CharSet.space flags.unicode), rest)
  | 'S' :: rest => some (set true (CharSet.space flags.unicode), rest)
  | 'w' :: rest => some (set false (CharSet.word flags.unicode), rest)
  | 'W' :: rest => some (set true (CharSet.word flags.unicode), rest)
  | 'a' :: rest => some (.literal '\x07' false, rest)
  | 'f' :: rest => some (.literal '\x0c' false, rest)
  | 't' :: rest => some (.literal '\t' false, rest)
  | 'n' :: rest => some (.literal '\n' false, rest)
  | 'r' :: rest => some (.literal '\r' false, rest)
  | 'v' :: rest => some (.literal '\x0b' false, rest)
  | 'A' :: rest => some (.look .startText, rest)
  | 'z' :: rest => some (.look .endText, rest)
  | 'b' :: rest => boundary? flags rest
  | 'B' :: rest => some (.look (.noBoundary flags.unicode), rest)
  | '<' :: rest => some (.look (.wordStart flags.unicode), rest)
  | '>' :: rest => some (.look (.wordEnd flags.unicode), rest)
  | c :: rest => if isEscapable c then some (.literal c false, rest) else none

end Element

/-- Without the Unicode flag a set may hold ASCII characters only, or else it would match parts of
characters. -/
def asciiOnly? (flags : Flags) (set : Ranges) : Option Ranges :=
  if flags.unicode ∨ set.bounds.all fun bounds => bounds.2 < 0x80 then some set else none

/-- The expression of an element outside brackets. -/
def Element.regex? (flags : Flags) : Element → Option Regex
  | .look condition => some (.look condition)
  | .oneOf set => (asciiOnly? flags set).map .ofSet
  | .dot =>
    let lineEnd : Ranges := if flags.crlf then .ofLines ["a d"] else .single 10
    if flags.unicode then some (.ofSet (if flags.dotAll then .all else lineEnd.complement))
    else none
  | .literal c byte =>
    if flags.unicode = false ∧ byte ∧ 0x80 ≤ c.toNat then none
    else if flags.unicode ∨ c.toNat < 0x80 then
      some (.ofSet (Element.fold flags (.single c.toNat)))
    else some (.literal [c])

end Pattern

end Draft6
