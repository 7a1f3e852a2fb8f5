import Draft6.Unicode.Letters
import Draft6.Unicode.Listed

/-!
# Quoted text for people

A text between quotation marks in which every character can be seen: characters without a shape of
their own, and those that would join the character before them, are written by their code point.
-/

namespace Draft6

namespace Quoted

/-- Whether a character has a shape of its own. Of the spaces only U+0020 counts. A modifier letter
stands for itself even where it extends the letter before it, and the fillers of syllables are
letters without a shape. -/
def isVisible (c : Char) : Bool :=
  let code := c.toNat
  if c = ' ' then true
  else if Unicode.Listed.otherDefaultIgnorableCodePoint.contains code then false
  else match Unicode.Category.of code with
    | .control | .format | .surrogate | .privateUse | .unassigned => false
    | .lineSeparator | .paragraphSeparator | .spaceSeparator => false
    | .modifierLetter => true
    | _ => !(Unicode.graphemeExtend .v17).contains code

/-- How one character is shown. -/
def showChar (c : Char) : List Char :=
  match c with
  | '"' => ['\\', '"']
  | '\\' => ['\\', '\\']
  | '\n' => ['\\', 'n']
  | '\r' => ['\\', 'r']
  | '\t' => ['\\', 't']
  | '\x00' => ['\\', '0']
  | c =>
    if isVisible c then [c]
    else ['\\', 'u', '{'] ++ Nat.toDigits 16 c.toNat ++ ['}']

/-- A text between quotation marks. -/
def text (s : String) : String := "\"" ++ String.ofList (s.toList.flatMap showChar) ++ "\""

end Quoted

end Draft6
