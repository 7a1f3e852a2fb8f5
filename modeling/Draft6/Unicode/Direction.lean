import Draft6.Unicode.Category
import Draft6.Unicode.Runs

/-!
# Writing directions

A character is written from left to right or from right to left, or follows its neighbours in some
way. The table holds the classes of the characters that may stand in host names, in version 17.0.
-/

namespace Draft6

namespace Unicode

/-- How a character takes part in the order of characters on a line. -/
inductive Direction where
  | leftToRight
  | rightToLeft
  | arabicLetter
  | europeanNumber
  | europeanSeparator
  | europeanTerminator
  | arabicNumber
  | commonSeparator
  | nonspacingMark
  | boundaryNeutral
  | paragraphSeparator
  | segmentSeparator
  | whiteSpace
  | otherNeutral
deriving DecidableEq, Repr

namespace Direction

/-- The class with a short name. -/
def ofCode? : String → Option Direction
  | "L" => some .leftToRight
  | "R" => some .rightToLeft
  | "AL" => some .arabicLetter
  | "EN" => some .europeanNumber
  | "ES" => some .europeanSeparator
  | "ET" => some .europeanTerminator
  | "AN" => some .arabicNumber
  | "CS" => some .commonSeparator
  | "NSM" => some .nonspacingMark
  | "BN" => some .boundaryNeutral
  | "B" => some .paragraphSeparator
  | "S" => some .segmentSeparator
  | "WS" => some .whiteSpace
  | "ON" => some .otherNeutral
  | _ => none

/-- The classes of all characters but nonspacing marks. -/
def table : Runs Direction := .ofLines ofCode? [
  "0BN 9S aB bS cWS dB eBN 1cB 1fS 20WS 21ON 23ET 26ON 2bES 2cCS 2dES 2eCS 30EN 3aCS 3bON 61L",
  "7bON 7fBN a1ON a2ET a6ON b0ET b6ON dfL f7ON f8L 2b9ON 2bbL 2c2ON 2d0L 2d2ON 2eeL 2efON 371L",
  "375ON 377L 3f6ON 3f8L 58aON 58fET 5beR 606ON 608AL 609ET 60bAL 60cCS 60dAL 60eON 61bAL 660AN",
  "66aET 66bAN 66dAL 6deON 6e5AL 6e9ON 6eeAL 6f0EN 6faAL 7c0R 7f6ON 7faR 860AL 903L 9f2ET 9f4L",
  "9fbET 9fcL af1ET af9L bf3ON bf9ET bfaON c01L c78ON c7fL e3fET e40L f3aON f3eL 1390ON 13a0L",
  "1400ON 1401L 169bON 16a0L 17dbET 17dcL 17f0ON 1810L 1940ON 1946L 19deON 1a00L 200cBN 2010ON",
  "2030ET 2035ON 2044CS 2045ON 20a0ET 2104ON 212eET 213aON 214eL 218aON 2212ES 2213ET 2214ON",
  "2336L 237bON 2395L 2396ON 26acL 26adON 2800L 2900ON 2c30L 2ce5ON 2cecL 2cf9ON 2d00L 2e00ON",
  "3005L 3008ON 3021L 3030ON 3031L 3037ON 303bL 303dON 3041L 30a0ON 30a1L 30fbON 30fcL 31c0ON",
  "31f0L 4dc0ON 4e00L a490ON a4d0L a60dON a610L a673ON a681L a700ON a723L a788ON a789L a828ON",
  "a830L a838ET a840L a874ON a880L ab6aON abc0L fbb2AL fbc3ON fe73AL fffdON 10000L 10101ON 10102L",
  "10140ON 1018dL 10190ON 101d0L 102e1EN 10300L 10800R 1091fON 10920R 10b39ON 10b40R 10d00AL",
  "10d30AN 10d4aR 10d6eON 10d6fR 10e60AN 10e80R 10ec2AL 10ed0ON 10f00R 10f30AL 10f70R 11000L",
  "11052ON 11066L 11660ON 11680L 11fd5ON 11fddET 11fe1ON 11fffL 16fe2ON 16fe3L 1cc00ON 1cf50L",
  "1d1e9ON 1d2c0L 1d300ON 1d360L 1e2ffET 1e4d0L 1e800R 1ec71AL 1eef0ON 1f150L 1f16dON 1f170L",
  "1f1adON 1f1e6L 1f260ON 20000L"]

/-- Marks that are no nonspacing marks here although their category says so. -/
def spacedMarks : Ranges := .ofLines ["cbf cc6 11a07-11a08 11c3f"]

/-- The class of a code point. -/
def of (code : Nat) : Direction :=
  match Category.of code with
  | .nonspacingMark | .enclosingMark =>
    if spacedMarks.contains code then .leftToRight else .nonspacingMark
  | _ => (table.lookup? code).getD .leftToRight

end Direction

end Unicode

end Draft6
