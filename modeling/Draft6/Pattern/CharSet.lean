import Draft6.Unicode.Letters

/-!
# Sets of characters with short names

The sets that single letters after a backslash, and names in brackets, stand for in regular
expressions.
-/

namespace Draft6

namespace Pattern

open Unicode (Ranges)

namespace CharSet

/-- Every ASCII character. -/
def ascii : Ranges := .between 0 0x7F

/-- The decimal digits. -/
def digit (unicode : Bool) : Ranges :=
  if unicode then Unicode.Category.ranges .v16 [.decimalNumber] else .ofLines ["30-39"]

/-- White space. -/
def space (unicode : Bool) : Ranges :=
  if unicode then Unicode.whiteSpace else .ofLines ["9-d 20"]

/-- What a word is made of. -/
def word (unicode : Bool) : Ranges :=
  if unicode then Unicode.word .v16 else .ofLines ["30-39 41-5a 5f 61-7a"]

/-- The ASCII sets with a name between `[:` and `:]`. -/
def named? : String → Option Ranges
  | "alnum" => some (.ofLines ["30-39 41-5a 61-7a"])
  | "alpha" => some (.ofLines ["41-5a 61-7a"])
  | "ascii" => some ascii
  | "blank" => some (.ofLines ["9 20"])
  | "cntrl" => some (.ofLines ["0-1f 7f"])
  | "digit" => some (.ofLines ["30-39"])
  | "graph" => some (.ofLines ["21-7e"])
  | "lower" => some (.ofLines ["61-7a"])
  | "print" => some (.ofLines ["20-7e"])
  | "punct" => some (.ofLines ["21-2f 3a-40 5b-60 7b-7e"])
  | "space" => some (.ofLines ["9-d 20"])
  | "upper" => some (.ofLines ["41-5a"])
  | "word" => some (.ofLines ["30-39 41-5a 5f 61-7a"])
  | "xdigit" => some (.ofLines ["30-39 41-46 61-66"])
  | _ => none

end CharSet

end Pattern

end Draft6
