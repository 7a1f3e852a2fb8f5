import Draft6.Json
import Draft6.Text.Hex

/-!
# Reading JSON text

A strict reader: no comments, no trailing commas, no text after the value, no lone surrogates, and
at most 127 containers inside one another. A failure names its cause and the line and column up to
which the text was read; columns count bytes from the start of the line.

The reader is structural: nesting is bounded by the remaining depth, and the loops over elements and
members by the length of the text.
-/

namespace Draft6

/-- Why a text is not JSON. -/
inductive Json.ParseCause where
  | endInArray
  | endInObject
  | endInString
  | endInValue
  | expectedColon
  | expectedCommaOrBracket
  | expectedCommaOrBrace
  | expectedLiteral
  | expectedValue
  | invalidEscape
  | invalidNumber
  | numberOutOfRange
  | controlCharacter
  | expectedName
  | loneSurrogate
  | trailingComma
  | trailingText
  | unfinishedSurrogatePair
  | nestedTooDeep
deriving DecidableEq, Repr

namespace Json.ParseCause

/-- Whether the text ended where more of it was needed. -/
def isEnd : ParseCause → Bool
  | .endInArray | .endInObject | .endInString | .endInValue => true
  | _ => false

/-- The words for a cause. -/
def message : ParseCause → String
  | .endInArray => "EOF while parsing a list"
  | .endInObject => "EOF while parsing an object"
  | .endInString => "EOF while parsing a string"
  | .endInValue => "EOF while parsing a value"
  | .expectedColon => "expected `:`"
  | .expectedCommaOrBracket => "expected `,` or `]`"
  | .expectedCommaOrBrace => "expected `,` or `\x7d`"
  | .expectedLiteral => "expected ident"
  | .expectedValue => "expected value"
  | .invalidEscape => "invalid escape"
  | .invalidNumber => "invalid number"
  | .numberOutOfRange => "number out of range"
  | .controlCharacter => "control character (\\u0000-\\u001F) found while parsing a string"
  | .expectedName => "key must be a string"
  | .loneSurrogate => "lone leading surrogate in hex escape"
  | .trailingComma => "trailing comma"
  | .trailingText => "trailing characters"
  | .unfinishedSurrogatePair => "unexpected end of hex escape"
  | .nestedTooDeep => "recursion limit exceeded"

end Json.ParseCause

/-- A cause and the place up to which the text was read. -/
structure Json.ParseError where
  cause : Json.ParseCause
  line : Nat
  column : Nat
deriving DecidableEq, Repr

/-- The words for a failure, with its place. -/
def Json.ParseError.message (e : Json.ParseError) : String :=
  e.cause.message ++ " at line " ++ toString e.line ++ " column " ++ toString e.column

namespace Json.Parser

/-- Where reading stopped: the text from there on, and how many more bytes count as read. -/
structure Stop where
  cause : ParseCause
  rest : List Char
  ahead : Nat

/-- What was read and the text after it. -/
abbrev Step (α : Type) := Except Stop (α × List Char)

/-- Stop at a character that was looked at; it counts as read. -/
def stopAt {α : Type} (cause : ParseCause) (rest : List Char) : Except Stop α :=
  .error ⟨cause, rest, 1⟩

/-- Stop after all that was read. -/
def stopBefore {α : Type} (cause : ParseCause) (rest : List Char) : Except Stop α :=
  .error ⟨cause, rest, 0⟩

/-- The four characters that may stand between tokens. -/
def isBlank (c : Char) : Bool := c = ' ' || c = '\n' || c = '\t' || c = '\r'

/-- The text from the next token on. -/
def skipBlanks (cs : List Char) : List Char := cs.dropWhile isBlank

/-- The rest of `null`, `true` or `false`. -/
def literal (value : Json) : (expected : List Char) → List Char → Step Json
  | [], cs => .ok (value, cs)
  | _ :: _, [] => stopBefore .endInValue []
  | e :: es, c :: cs => if c = e then literal value es cs else stopAt .expectedLiteral (c :: cs)

/-- The number that decimal digits denote. -/
def digitsValue (digits : List Char) : Nat :=
  digits.foldl (fun n c => 10 * n + (c.toNat - '0'.toNat)) 0

/-- A number with a fraction or an exponent. -/
def float (negative : Bool) (significand : Nat) (exponent : Int) (rest : List Char) : Step Json :=
  match Binary64.ofDecimal? negative significand exponent with
  | some x => .ok (.number (.float x), rest)
  | none => stopBefore .numberOutOfRange rest

/-- The largest exponent that is read digit by digit. -/
def exponentBound : Nat := 2147483647

/-- The digits of an exponent. One beyond the bound gives zero, or is out of range when the number
would be large. -/
def exponentDigits (negative : Bool) (significand : Nat) (start : Int) (minus : Bool) :
    (read : Nat) → List Char → Step Json
  | read, c :: cs =>
    if c.isDigit then
      let next := 10 * read + (c.toNat - '0'.toNat)
      if next ≤ exponentBound then exponentDigits negative significand start minus next cs
      else if significand ≠ 0 ∧ minus = false then stopBefore .numberOutOfRange cs
      else float negative 0 0 (cs.dropWhile Char.isDigit)
    else float negative significand (if minus then start - read else start + read) (c :: cs)
  | read, [] => float negative significand (if minus then start - read else start + read) []

/-- What follows the mark of an exponent. -/
def exponent (negative : Bool) (significand : Nat) (start : Int) (cs : List Char) : Step Json :=
  let (minus, cs) := match cs with
    | '+' :: rest => (false, rest)
    | '-' :: rest => (true, rest)
    | cs => (false, cs)
  match cs with
  | [] => stopBefore .endInValue []
  | c :: rest =>
    if c.isDigit then exponentDigits negative significand start minus 0 (c :: rest)
    else stopAt .invalidNumber (c :: rest)

/-- What follows the digits before the point. -/
def afterWhole (negative : Bool) (whole : List Char) (cs : List Char) : Step Json :=
  match cs with
  | '.' :: rest =>
    let fraction := rest.takeWhile Char.isDigit
    let significand := digitsValue (whole ++ fraction)
    match fraction, rest.dropWhile Char.isDigit with
    | [], [] => stopAt .endInValue []
    | [], rest => stopAt .invalidNumber rest
    | _, 'e' :: rest => exponent negative significand (-fraction.length) rest
    | _, 'E' :: rest => exponent negative significand (-fraction.length) rest
    | _, rest => float negative significand (-fraction.length) rest
  | 'e' :: rest => exponent negative (digitsValue whole) 0 rest
  | 'E' :: rest => exponent negative (digitsValue whole) 0 rest
  | rest =>
    match Number.ofIntegerLiteral? negative (digitsValue whole) with
    | some n => .ok (.number n, rest)
    | none => stopBefore .numberOutOfRange rest

/-- A number after its sign. -/
def number (negative : Bool) (cs : List Char) : Step Json :=
  match cs with
  | [] => stopBefore .endInValue []
  | '0' :: rest =>
    match rest with
    | c :: _ => if c.isDigit then stopAt .invalidNumber rest else afterWhole negative ['0'] rest
    | [] => afterWhole negative ['0'] []
  | c :: rest =>
    if c.isDigit then afterWhole negative (cs.takeWhile Char.isDigit) (cs.dropWhile Char.isDigit)
    else stopAt .invalidNumber (c :: rest)

/-- The character that a single letter after a backslash stands for. -/
def shortEscape? : Char → Option Char
  | '"' => some '"'
  | '\\' => some '\\'
  | '/' => some '/'
  | 'b' => some '\x08'
  | 'f' => some '\x0c'
  | 'n' => some '\n'
  | 'r' => some '\r'
  | 't' => some '\t'
  | _ => none

/-- The number of bytes that characters take. -/
def byteCount (cs : List Char) : Nat := cs.foldl (fun n c => n + c.utf8Size) 0

/-- Stop where four hexadecimal digits were needed. -/
def stopInQuad {α : Type} (cs : List Char) : Except Stop α :=
  if byteCount (cs.take 4) < 4 then stopBefore .endInString []
  else .error ⟨.invalidEscape, cs, 4⟩

/-- Stop where the second half of a surrogate pair was needed. -/
def stopInPair {α : Type} (cs : List Char) : Except Stop α :=
  match cs with
  | [] => stopBefore .endInString []
  | '\\' :: [] => stopBefore .endInString []
  | '\\' :: 'u' :: rest => stopInQuad rest
  | '\\' :: rest => stopAt .unfinishedSurrogatePair rest
  | rest => stopAt .unfinishedSurrogatePair rest

/-- The rest of a string after its quotation mark; `read` holds its characters so far, last one
first. -/
def stringRest (read : List Char) : List Char → Step String
  | [] => stopBefore .endInString []
  | '"' :: rest => .ok (String.ofList read.reverse, rest)
  | '\\' :: 'u' :: a :: b :: c :: d :: rest =>
    match Hex.number? [a, b, c, d] with
    | none => stopInQuad (a :: b :: c :: d :: rest)
    | some high =>
      if 0xDC00 ≤ high ∧ high ≤ 0xDFFF then stopBefore .loneSurrogate rest
      else if 0xD800 ≤ high ∧ high ≤ 0xDBFF then
        match rest with
        | '\\' :: 'u' :: e :: f :: g :: h :: rest =>
          match Hex.number? [e, f, g, h] with
          | none => stopInQuad (e :: f :: g :: h :: rest)
          | some low =>
            if 0xDC00 ≤ low ∧ low ≤ 0xDFFF then
              stringRest
                (Char.ofNat (0x10000 + (high - 0xD800) * 0x400 + (low - 0xDC00)) :: read) rest
            else stopBefore .loneSurrogate rest
        | rest => stopInPair rest
      else stringRest (Char.ofNat high :: read) rest
  | '\\' :: 'u' :: rest => stopInQuad rest
  | '\\' :: c :: rest =>
    match shortEscape? c with
    | some e => stringRest (e :: read) rest
    | none => stopAt .invalidEscape (c :: rest)
  | '\\' :: [] => stopBefore .endInString []
  | c :: rest =>
    if c.toNat < 0x20 then stopAt .controlCharacter (c :: rest) else stringRest (c :: read) rest

/-- The elements after the first one, up to the closing bracket. -/
def moreItems (item : List Char → Step Json) (read : List Json) :
    (fuel : Nat) → List Char → Step Json
  | 0, cs => stopAt .endInArray cs
  | fuel + 1, cs =>
    match skipBlanks cs with
    | [] => stopAt .endInArray []
    | ']' :: rest => .ok (.array read.reverse, rest)
    | ',' :: rest =>
      match skipBlanks rest with
      | ']' :: rest => stopAt .trailingComma (']' :: rest)
      | [] => stopAt .endInValue []
      | rest =>
        match item rest with
        | .error stop => .error stop
        | .ok (x, rest) => moreItems item (x :: read) fuel rest
    | rest => stopAt .expectedCommaOrBracket rest

/-- An array after its opening bracket. -/
def array (item : List Char → Step Json) (cs : List Char) : Step Json :=
  match skipBlanks cs with
  | [] => stopAt .endInArray []
  | ']' :: rest => .ok (.array [], rest)
  | rest =>
    match item rest with
    | .error stop => .error stop
    | .ok (x, rest) => moreItems item [x] rest.length.succ rest

/-- A member after the quotation mark of its name. -/
def member (item : List Char → Step Json) (cs : List Char) : Step (String × Json) :=
  match stringRest [] cs with
  | .error stop => .error stop
  | .ok (name, rest) =>
    match skipBlanks rest with
    | ':' :: rest =>
      match item rest with
      | .error stop => .error stop
      | .ok (x, rest) => .ok ((name, x), rest)
    | [] => stopAt .endInObject []
    | rest => stopAt .expectedColon rest

/-- The members after the first one, up to the closing brace. -/
def moreMembers (item : List Char → Step Json) (read : List (String × Json)) :
    (fuel : Nat) → List Char → Step Json
  | 0, cs => stopAt .endInObject cs
  | fuel + 1, cs =>
    match skipBlanks cs with
    | [] => stopAt .endInObject []
    | '}' :: rest => .ok (.object read, rest)
    | ',' :: rest =>
      match skipBlanks rest with
      | '"' :: rest =>
        match member item rest with
        | .error stop => .error stop
        | .ok ((name, x), rest) => moreMembers item (setMember read name x) fuel rest
      | '}' :: rest => stopAt .trailingComma ('}' :: rest)
      | [] => stopAt .endInValue []
      | rest => stopAt .expectedName rest
    | rest => stopAt .expectedCommaOrBrace rest

/-- An object after its opening brace. -/
def object (item : List Char → Step Json) (cs : List Char) : Step Json :=
  match skipBlanks cs with
  | [] => stopAt .endInObject []
  | '}' :: rest => .ok (.object [], rest)
  | '"' :: rest =>
    match member item rest with
    | .error stop => .error stop
    | .ok (m, rest) => moreMembers item [m] rest.length.succ rest
  | rest => stopAt .expectedName rest

/-- A value with at most `depth` containers inside one another. -/
def value : (depth : Nat) → List Char → Step Json
  | depth, cs =>
    match skipBlanks cs with
    | [] => stopAt .endInValue []
    | 'n' :: rest => literal .null ['u', 'l', 'l'] rest
    | 't' :: rest => literal (.bool true) ['r', 'u', 'e'] rest
    | 'f' :: rest => literal (.bool false) ['a', 'l', 's', 'e'] rest
    | '-' :: rest => number true rest
    | '"' :: rest => (stringRest [] rest).map fun (s, rest) => (.string s, rest)
    | '[' :: rest =>
      match depth with
      | 0 => stopAt .nestedTooDeep ('[' :: rest)
      | depth + 1 => array (value depth) rest
    | '{' :: rest =>
      match depth with
      | 0 => stopAt .nestedTooDeep ('{' :: rest)
      | depth + 1 => object (value depth) rest
    | c :: rest => if c.isDigit then number false (c :: rest) else stopAt .expectedValue (c :: rest)

/-- Line and column after so many bytes of a text. -/
def place (line column : Nat) : (bytes : Nat) → List Char → Nat × Nat
  | _, [] => (line, column)
  | bytes, c :: rest =>
    if bytes = 0 then (line, column)
    else if c = '\n' then place (line + 1) 0 (bytes - 1) rest
    else place line (column + min bytes c.utf8Size) (bytes - c.utf8Size) rest

/-- The failure at a stop in a text. -/
def Stop.toError (stop : Stop) (text : List Char) : ParseError :=
  let bytes := byteCount text - byteCount stop.rest + stop.ahead
  let (line, column) := place 1 0 bytes text
  ⟨stop.cause, line, column⟩

end Json.Parser

/-- How many containers may stand inside one another. -/
def Json.maxNesting : Nat := 127

/-- Read a whole text as one value. -/
def Json.parse (text : String) : Except Json.ParseError Json :=
  let cs := text.toList
  match Json.Parser.value Json.maxNesting cs with
  | .error stop => .error (stop.toError cs)
  | .ok (value, rest) =>
    match Json.Parser.skipBlanks rest with
    | [] => .ok value
    | rest => .error (Json.Parser.Stop.toError ⟨.trailingText, rest, 1⟩ cs)

end Draft6
