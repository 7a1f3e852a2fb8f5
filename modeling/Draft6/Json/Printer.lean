import Draft6.Json
import Draft6.Text.Hex

/-!
# JSON text of a value

The compact form has no blanks; the pretty form puts every element and member on a line of its own,
two spaces deeper than its container. Both keep the order of members and leave every character from
U+0020 on as it is, other than the quotation mark and the backslash.
-/

namespace Draft6

namespace Json

/-- How one character stands inside a quoted string. -/
def escapeChar (c : Char) : List Char :=
  match c with
  | '"' => ['\\', '"']
  | '\\' => ['\\', '\\']
  | '\n' => ['\\', 'n']
  | '\r' => ['\\', 'r']
  | '\t' => ['\\', 't']
  | '\x08' => ['\\', 'b']
  | '\x0c' => ['\\', 'f']
  | c =>
    if c.toNat < 0x20 then ['\\', 'u', '0', '0', Hex.lower (c.toNat / 16), Hex.lower c.toNat]
    else [c]

/-- A string between quotation marks. -/
def quote (s : String) : String :=
  "\"" ++ String.ofList (s.toList.flatMap escapeChar) ++ "\""

mutual

/-- The text of a value without blanks. -/
def compact : Json → String
  | .null => "null"
  | .bool b => if b then "true" else "false"
  | .number n => n.text
  | .string s => quote s
  | .array items => "[" ++ String.intercalate "," (compactItems items) ++ "]"
  | .object members => "\x7b" ++ String.intercalate "," (compactMembers members) ++ "\x7d"

/-- The texts of the elements of an array. -/
def compactItems : List Json → List String
  | [] => []
  | x :: rest => compact x :: compactItems rest

/-- The texts of the members of an object. -/
def compactMembers : List (String × Json) → List String
  | [] => []
  | (name, x) :: rest => (quote name ++ ":" ++ compact x) :: compactMembers rest

end

/-- The line break before an element at some depth. -/
def lineBreak (depth : Nat) : String := "\n" ++ String.ofList (List.replicate (2 * depth) ' ')

mutual

/-- The text of a value that stands at some depth, on several lines. -/
def prettyAt (depth : Nat) : Json → String
  | .array [] => "[]"
  | .array (x :: rest) =>
    "[" ++ String.intercalate "," (prettyItems (depth + 1) (x :: rest)) ++ lineBreak depth ++ "]"
  | .object [] => "\x7b\x7d"
  | .object (m :: rest) =>
    "\x7b" ++ String.intercalate "," (prettyMembers (depth + 1) (m :: rest)) ++ lineBreak depth
      ++ "\x7d"
  | .null => "null"
  | .bool b => if b then "true" else "false"
  | .number n => n.text
  | .string s => quote s

/-- The texts of the elements, each on its own line. -/
def prettyItems (depth : Nat) : List Json → List String
  | [] => []
  | x :: rest => (lineBreak depth ++ prettyAt depth x) :: prettyItems depth rest

/-- The texts of the members, each on its own line. -/
def prettyMembers (depth : Nat) : List (String × Json) → List String
  | [] => []
  | (name, x) :: rest =>
    (lineBreak depth ++ quote name ++ ": " ++ prettyAt depth x) :: prettyMembers depth rest

end

/-- The text of a value on several lines. -/
def pretty (value : Json) : String := prettyAt 0 value

end Json

end Draft6
