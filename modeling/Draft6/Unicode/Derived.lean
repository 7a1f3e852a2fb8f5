import Draft6.Unicode.CaseOrbit
import Draft6.Unicode.Letters
import Draft6.Unicode.Listed

/-!
# Derived properties

Properties that are made of general categories, orbits of case and lists. The lists are those of
version 16.0.
-/

namespace Draft6

namespace Unicode

namespace Derived

/-- Characters that have a case. -/
def cased (edition : Edition) : Ranges :=
  .unionAll [lowercase edition, uppercase edition, Category.ranges edition [.titlecaseLetter]]

/-- Characters that are skipped when the case of their neighbours is looked for. -/
def caseIgnorable (edition : Edition) : Ranges :=
  (Category.ranges edition [.nonspacingMark, .enclosingMark, .format, .modifierLetter,
    .modifierSymbol]).union Listed.midWord

/-- The upper case and title case characters in orbits of case. -/
def upperInOrbit (edition : Edition) : Ranges :=
  CaseOrbit.ranges.inter ((uppercase edition).union (Category.ranges edition [.titlecaseLetter]))

/-- The lower case characters in orbits of case. -/
def lowerInOrbit (edition : Edition) : Ranges := CaseOrbit.ranges.inter (lowercase edition)

/-- Characters outside the orbits that have an upper case form of several characters, or of one that
has another lower case form. -/
def otherUppercased : Ranges := .ofLines [
  "131 149 1f0 587 1e96-1e9a 1f50 1f52 1f54 1f56 1fb2 1fb4 1fb6-1fb7 1fc2 1fc4 1fc6-1fc7 1fd2",
  "1fd6-1fd7 1fe2 1fe4 1fe6-1fe7 1ff2 1ff4 1ff6-1ff7 fb00-fb04 fb13-fb17"]

/-- Small characters whose full case folding, or whose place in an orbit, makes them change. -/
def otherCasefolded : Ranges := .ofLines [
  "b5 df 130 149 17f 345 3c2 3d0-3d1 3d5-3d6 3f0-3f1 3f5 587 13f8-13fd 1c80-1c88 1e9a-1e9b",
  "1f80-1f87 1f90-1f97 1fa0-1fa7 1fb2-1fb4 1fb7 1fc2-1fc4 1fc7 1ff2-1ff4 1ff7 ab70-abbf fb00-fb06",
  "fb13-fb17"]

/-- Characters that change in lower case text. -/
def changesWhenLowercased (edition : Edition) : Ranges :=
  (upperInOrbit edition).union (.single 0x130)

/-- Characters that change in upper case text. -/
def changesWhenUppercased (edition : Edition) : Ranges :=
  .unionAll [lowerInOrbit edition, CaseOrbit.ranges.inter
    (Category.ranges edition [.titlecaseLetter]), otherUppercased]

/-- Characters that change at the start of a word in title case. The Georgian letters do not, and of
the digraphs all but those in title case do. -/
def changesWhenTitlecased (edition : Edition) : Ranges :=
  .unionAll [(lowerInOrbit edition).diff (.ofLines ["10d0-10fa 10fd-10ff"]), otherUppercased,
    .ofLines ["1c4 1c7 1ca 1f1"]]

/-- Characters that change under case folding. The Cherokee letters fold to upper case. -/
def changesWhenCasefolded (edition : Edition) : Ranges :=
  ((upperInOrbit edition).diff (.between 0x13A0 0x13F5)).union otherCasefolded

/-- Characters that change in some case. -/
def changesWhenCasemapped (edition : Edition) : Ranges :=
  .unionAll [changesWhenLowercased edition, changesWhenUppercased edition,
    changesWhenTitlecased edition]

/-- Characters without a shape of their own that may be left out when they are not supported. -/
def defaultIgnorable (edition : Edition) : Ranges :=
  (Ranges.unionAll [Category.ranges edition [.format], Listed.otherDefaultIgnorableCodePoint,
    Listed.variationSelector]).diff
      (.unionAll [whiteSpace, .between 0xFFF9 0xFFFB, .between 0x13430 0x13440,
        Listed.prependedConcatenationMark])

/-- Characters that take a place of their own in a line. -/
def graphemeBase (edition : Edition) : Ranges :=
  ((Category.ranges edition [.control, .format, .surrogate, .privateUse, .unassigned,
    .lineSeparator, .paragraphSeparator]).union (graphemeExtend edition)).complement

/-- Hexadecimal digits. -/
def hexDigit : Ranges := .ofLines ["30-39 41-46 61-66 ff10-ff19 ff21-ff26 ff41-ff46"]

/-- Mathematical symbols that may continue an identifier. -/
def idCompatMathContinue : Ranges :=
  Listed.idCompatMathStart.union (.ofLines ["b2-b3 b9 2070 2074-207e 2080-208e"])

/-- What is kept for the syntax around identifiers. -/
def aroundIdentifiers : Ranges := Listed.patternSyntax.union Listed.patternWhiteSpace

/-- Characters that may begin an identifier. -/
def idStart (edition : Edition) : Ranges :=
  ((Category.ranges edition [.uppercaseLetter, .lowercaseLetter, .titlecaseLetter, .modifierLetter,
    .otherLetter, .letterNumber]).union Listed.otherIdStart).diff aroundIdentifiers

/-- Characters that may continue an identifier. -/
def idContinue (edition : Edition) : Ranges :=
  (Ranges.unionAll [idStart edition, Category.ranges edition [.nonspacingMark, .spacingMark,
    .decimalNumber, .connectorPunctuation], Listed.otherIdContinue]).diff aroundIdentifiers

/-- Characters of identifiers whose compatibility forms are no parts of identifiers. -/
def looseInIdentifiers : Ranges := .ofLines [
  "37a 309b-309c fc5e-fc63 fdfa-fdfb fe70 fe72 fe74 fe76 fe78 fe7a fe7c fe7e"]

/-- Characters that may begin an identifier in every compatibility form. -/
def xidStart (edition : Edition) : Ranges :=
  (idStart edition).diff (looseInIdentifiers.union (.ofLines ["e33 eb3 ff9e-ff9f"]))

/-- Characters that may continue an identifier in every compatibility form. -/
def xidContinue (edition : Edition) : Ranges := (idContinue edition).diff looseInIdentifiers

/-- Mathematical characters. -/
def math (edition : Edition) : Ranges :=
  (Category.ranges edition [.mathSymbol]).union Listed.otherMath

/-- Code points that will never be assigned. -/
def noncharacter : Ranges :=
  .ofList ((0xFDD0, 0xFDEF) :: (List.range 17).map fun plane =>
    (0x10000 * plane + 0xFFFE, 0x10000 * plane + 0xFFFF))

end Derived

end Unicode

end Draft6
