import Draft6.Unicode.Break
import Draft6.Unicode.Property
import Draft6.Unicode.Script

/-!
# Sets by name

A set of characters is named by a property, a general category or a script, or by the value that a
property has. Case, blanks, hyphens and underscores do not count in names. All sets are those of
version 16.0.
-/

namespace Draft6

namespace Unicode

namespace Name

/-- A name as it is compared: lower case letters, without an initial `is`, blanks, hyphens and
underscores. -/
def normal (name : String) : String :=
  let plain (cs : List Char) : List Char :=
    (cs.filter fun c => c.toNat < 0x80 && c ≠ ' ' && c ≠ '_' && c ≠ '-').map Char.toLower
  match name.toList with
  | i :: s :: rest =>
    if i.toLower = 'i' ∧ s.toLower = 's' then
      if plain rest = ['c'] then "isc" else String.ofList (plain rest)
    else String.ofList (plain (i :: s :: rest))
  | cs => String.ofList (plain cs)

/-- Names of several general categories together, and other names of one. -/
def groups : List (List String × List Category) := [
  (["l", "letter"],
    [.uppercaseLetter, .lowercaseLetter, .titlecaseLetter, .modifierLetter, .otherLetter]),
  (["lc", "casedletter"], [.uppercaseLetter, .lowercaseLetter, .titlecaseLetter]),
  (["m", "mark", "combiningmark"], [.nonspacingMark, .spacingMark, .enclosingMark]),
  (["n", "number"], [.decimalNumber, .letterNumber, .otherNumber]),
  (["p", "punctuation", "punct"],
    [.connectorPunctuation, .dashPunctuation, .openPunctuation, .closePunctuation,
      .initialPunctuation, .finalPunctuation, .otherPunctuation]),
  (["s", "symbol"], [.mathSymbol, .currencySymbol, .modifierSymbol, .otherSymbol]),
  (["z", "separator"], [.spaceSeparator, .lineSeparator, .paragraphSeparator]),
  (["c", "other"], [.control, .format, .surrogate, .privateUse, .unassigned]),
  (["digit"], [.decimalNumber]),
  (["cntrl"], [.control])]

/-- The set of a general category, by its normal name. Surrogates are no characters, so that their
category has no set of its own. -/
def category? (name : String) : Option Ranges :=
  if name = "any" then some .all
  else if name = "ascii" then some (.between 0 0x7F)
  else if name = "assigned" then some (Category.ranges .v16 [.unassigned]).complement
  else match groups.find? fun (names, _) => names.contains name with
    | some (_, members) => some (Category.ranges .v16 members)
    | none =>
      match Category.names.find? fun (_, short, long) =>
          normal short = name || normal long = name with
      | some (.surrogate, _) | none => none
      | some (category, _) => some (Category.ranges .v16 [category])

/-- The four letters of a script, by its normal name. -/
def script? (name : String) : Option String :=
  (Script.names.find? fun (code, names) =>
    normal code = name || names.any fun n => normal n = name).map Prod.fst

/-- The set with a name: a property, a general category or a script. -/
def set? (name : String) : Option Ranges :=
  let name := normal name
  (Property.ofName? name).map Property.ranges <|> category? name <|>
    (script? name).map Script.ranges

/-- The code points that a version or one before it assigned, by the normal name of the version.
There are the versions up to 16.0, written with a dot or as `v` and their digits. -/
def age? (value : String) : Option Ranges :=
  let versions := (Age.table.map Prod.fst).filter fun version => version ≠ "17.0"
  match versions.find? fun version =>
      value = version || value = "v" ++ String.ofList (version.toList.filter Char.isDigit) with
  | some version => Age.upTo? version
  | none => none

/-- The set of the characters for which a property has a value. -/
def setOfValue? (property value : String) : Option Ranges :=
  let value := normal value
  match normal property with
  | "generalcategory" | "gc" => category? value
  | "script" | "sc" => (script? value).map Script.ranges
  | "scriptextensions" | "scx" => (script? value).map Script.extendedRanges
  | "age" => age? value
  | "graphemeclusterbreak" | "gcb" => (GraphemeBreak.ofName? value).map GraphemeBreak.ranges
  | "wordbreak" | "wb" => (WordBreak.ofName? value).map WordBreak.ranges
  | "sentencebreak" | "sb" => (SentenceBreak.ofName? value).map SentenceBreak.ranges
  | _ => none

end Name

end Unicode

end Draft6
