import Draft6.Unicode.Derived
import Draft6.Unicode.Script

/-!
# Classes for breaking text

Text breaks into graphemes, words and sentences by the classes of its characters. A class is made of
categories and of lists of what differs from them, in version 16.0. Characters without a class are
in no set.
-/

namespace Draft6

namespace Unicode

/-- A class of characters for breaking text into graphemes. -/
inductive GraphemeBreak where
  | carriageReturn
  | lineFeed
  | control
  | extend
  | joiner
  | regionalIndicator
  | prepend
  | spacingMark
  | leading
  | vowel
  | trailing
  | syllable
  | closedSyllable
deriving DecidableEq, Repr

namespace GraphemeBreak

/-- The names of each class in lower case, without underscores. -/
def names : List (GraphemeBreak × List String) := [
  (.carriageReturn, ["cr"]),
  (.lineFeed, ["lf"]),
  (.control, ["cn", "control"]),
  (.extend, ["ex", "extend"]),
  (.joiner, ["zwj"]),
  (.regionalIndicator, ["regionalindicator", "ri"]),
  (.prepend, ["pp", "prepend"]),
  (.spacingMark, ["sm", "spacingmark"]),
  (.leading, ["l"]),
  (.vowel, ["v"]),
  (.trailing, ["t"]),
  (.syllable, ["lv"]),
  (.closedSyllable, ["lvt"])]

/-- Spacing marks that stand for themselves. -/
def detachedMarks : Ranges := .ofLines [
  "102b-102c 1038 1062-1064 1067-106d 1083 1087-108c 108f 109a-109c 1a61 1a63-1a64 aa7b aa7d",
  "11720-11721"]

/-- The syllables of Hangul without a trailing consonant. -/
def openSyllables : Ranges :=
  .ofList ((List.range 399).map fun i => (0xAC00 + 28 * i, 0xAC00 + 28 * i))

/-- The code points of a class. -/
def ranges : GraphemeBreak → Ranges
  | .carriageReturn => .single 0xD
  | .lineFeed => .single 0xA
  | .control =>
    ((Category.ranges .v16 [.control, .format, .lineSeparator, .paragraphSeparator]).diff
      (Listed.prependedConcatenationMark.union (.ofLines ["a d 200c-200d e0020-e007f"]))).union
      (.ofLines ["2065 fff0-fff8 e0000 e0002-e001f e0080-e00ff e01f0-e0fff"])
  | .extend => (graphemeExtend .v16).union Listed.emojiModifier
  | .joiner => .single 0x200D
  | .regionalIndicator => Listed.regionalIndicator
  | .prepend =>
    Listed.prependedConcatenationMark.union
      (.ofLines ["d4e 111c2-111c3 113d1 1193f 11941 11a3a 11a84-11a89 11d46 11f02"])
  | .spacingMark =>
    ((Category.ranges .v16 [.spacingMark]).diff ((graphemeExtend .v16).union detachedMarks)).union
      (.ofLines ["e33 eb3"])
  | .leading => .ofLines ["1100-115f a960-a97c"]
  | .vowel => .ofLines ["1160-11a7 d7b0-d7c6 16d63 16d67-16d6a"]
  | .trailing => .ofLines ["11a8-11ff d7cb-d7fb"]
  | .syllable => openSyllables
  | .closedSyllable => (Ranges.between 0xAC00 0xD7A3).diff openSyllables

/-- The class with a name in lower case, without underscores. -/
def ofName? (name : String) : Option GraphemeBreak :=
  (names.find? fun entry => entry.2.contains name).map Prod.fst

end GraphemeBreak

/-- A class of characters for breaking text into words. -/
inductive WordBreak where
  | carriageReturn
  | lineFeed
  | newline
  | extend
  | joiner
  | regionalIndicator
  | format
  | katakana
  | hebrewLetter
  | letter
  | singleQuote
  | doubleQuote
  | midNumberLetter
  | midLetter
  | midNumber
  | numeric
  | extendNumLet
  | space
deriving DecidableEq, Repr

namespace WordBreak

/-- The names of each class in lower case, without underscores. -/
def names : List (WordBreak × List String) := [
  (.carriageReturn, ["cr"]),
  (.lineFeed, ["lf"]),
  (.newline, ["newline", "nl"]),
  (.extend, ["extend"]),
  (.joiner, ["zwj"]),
  (.regionalIndicator, ["regionalindicator", "ri"]),
  (.format, ["fo", "format"]),
  (.katakana, ["ka", "katakana"]),
  (.hebrewLetter, ["hebrewletter", "hl"]),
  (.letter, ["aletter", "le"]),
  (.singleQuote, ["singlequote", "sq"]),
  (.doubleQuote, ["doublequote", "dq"]),
  (.midNumberLetter, ["mb", "midnumlet"]),
  (.midLetter, ["midletter", "ml"]),
  (.midNumber, ["midnum", "mn"]),
  (.numeric, ["nu", "numeric"]),
  (.extendNumLet, ["ex", "extendnumlet"]),
  (.space, ["wsegspace"])]

/-- What extends the character before it. -/
def extenders (edition : Edition) : Ranges :=
  (Ranges.unionAll [graphemeExtend edition, Category.ranges edition [.spacingMark],
    Listed.emojiModifier]).diff (.single 0x200D)

/-- The Katakana and the marks that go with them. -/
def katakanaLike : Ranges := .ofLines [
  "3031-3035 309b-309c 30a0-30fa 30fc-30ff 31f0-31ff 32d0-32fe 3300-3357 ff66-ff9d 1aff0-1aff3",
  "1aff5-1affb 1affd-1affe 1b000 1b120-1b122 1b155 1b164-1b167"]

/-- The letters of Hebrew. -/
def hebrewLetters : Ranges := .ofLines [
  "5d0-5ea 5ef-5f2 fb1d fb1f-fb28 fb2a-fb36 fb38-fb3c fb3e fb40-fb41 fb43-fb44 fb46-fb4f"]

/-- The scripts whose words have no space or mark between them. -/
def unspacedScripts : List String :=
  ["Hira", "Thai", "Laoo", "Mymr", "Khmr", "Tale", "Talu", "Lana", "Tavt", "Ahom"]

/-- Signs that count as letters of words. -/
def otherLetters : Ranges := .ofLines [
  "2c2-2c5 2d2-2d7 2de-2df 2e5-2eb 2ed 2ef-2ff 55a-55c 55e 58a 5f3 70f a708-a716 a720-a721",
  "a789-a78a ab5b"]

/-- The code points of a class. -/
def ranges : WordBreak → Ranges
  | .carriageReturn => .single 0xD
  | .lineFeed => .single 0xA
  | .newline => .ofLines ["b-c 85 2028-2029"]
  | .extend => extenders .v16
  | .joiner => .single 0x200D
  | .regionalIndicator => Listed.regionalIndicator
  | .format =>
    (Category.ranges .v16 [.format]).diff (Listed.prependedConcatenationMark.union
      (.ofLines ["200b-200d e0020-e007f"]))
  | .katakana => katakanaLike
  | .hebrewLetter => hebrewLetters
  | .letter =>
    ((alphabetic .v16).diff (.unionAll [Listed.ideographic, katakanaLike, hebrewLetters,
      extenders .v16, .unionAll (unspacedScripts.map Script.ranges)])).union otherLetters
  | .singleQuote => .ofLines ["27"]
  | .doubleQuote => .ofLines ["22"]
  | .midNumberLetter => .ofLines ["2e 2018-2019 2024 fe52 ff07 ff0e"]
  | .midLetter => .ofLines ["3a b7 387 55f 5f4 2027 fe13 fe55 ff1a"]
  | .midNumber => .ofLines ["2c 3b 37e 589 60c-60d 66c 7f8 2044 fe50 fe54 ff0c ff1b"]
  | .numeric =>
    (Category.ranges .v16 [.decimalNumber]).union
      (.ofLines ["600-605 66b 6dd 890-891 8e2 19da 110bd 110cd"])
  | .extendNumLet => (Category.ranges .v16 [.connectorPunctuation]).union (.single 0x202F)
  | .space => .ofLines ["20 1680 2000-2006 2008-200a 205f 3000"]

/-- The class with a name in lower case, without underscores. -/
def ofName? (name : String) : Option WordBreak :=
  (names.find? fun entry => entry.2.contains name).map Prod.fst

end WordBreak

/-- A class of characters for breaking text into sentences. -/
inductive SentenceBreak where
  | carriageReturn
  | lineFeed
  | extend
  | separator
  | format
  | space
  | lower
  | upper
  | otherLetter
  | numeric
  | ambiguousTerminal
  | terminal
  | close
  | continuation
deriving DecidableEq, Repr

namespace SentenceBreak

/-- The names of each class in lower case, without underscores. -/
def names : List (SentenceBreak × List String) := [
  (.carriageReturn, ["cr"]),
  (.lineFeed, ["lf"]),
  (.extend, ["ex", "extend"]),
  (.separator, ["se", "sep"]),
  (.format, ["fo", "format"]),
  (.space, ["sp"]),
  (.lower, ["lo", "lower"]),
  (.upper, ["up", "upper"]),
  (.otherLetter, ["le", "oletter"]),
  (.numeric, ["nu", "numeric"]),
  (.ambiguousTerminal, ["at", "aterm"]),
  (.terminal, ["st", "sterm"]),
  (.close, ["cl", "close"]),
  (.continuation, ["sc", "scontinue"])]

/-- What extends the character before it. -/
def extenders (edition : Edition) : Ranges :=
  .unionAll [graphemeExtend edition, Category.ranges edition [.spacingMark], .single 0x200D]

/-- Lower case characters. The Georgian letters are not, since they begin sentences too. -/
def lowers (edition : Edition) : Ranges :=
  (lowercase edition).diff ((graphemeExtend edition).union (.ofLines ["10d0-10fa 10fd-10ff"]))

/-- Upper case and title case characters, without the Georgian ones. -/
def uppers (edition : Edition) : Ranges :=
  ((uppercase edition).union (Category.ranges edition [.titlecaseLetter])).diff
    (.ofLines ["1c90-1cba 1cbd-1cbf"])

/-- Full stops, which do not always end a sentence. -/
def ambiguousTerminals : Ranges := .ofLines ["2e 2024 fe52 ff0e"]

/-- Marks after which a sentence goes on. -/
def continuations : Ranges := .ofLines [
  "2c-2d 3a-3b 37e 55d 60c-60d 7f8 1802 1808 2013-2014 3001 fe10-fe11 fe13-fe14 fe31-fe32",
  "fe50-fe51 fe54-fe55 fe58 fe63 ff0c-ff0d ff1a-ff1b ff64"]

/-- The code points of a class. -/
def ranges : SentenceBreak → Ranges
  | .carriageReturn => .single 0xD
  | .lineFeed => .single 0xA
  | .extend => extenders .v16
  | .separator => .ofLines ["85 2028-2029"]
  | .format =>
    (Category.ranges .v16 [.format]).diff
      (.ofLines ["200c-200d 600-605 6dd 890-891 8e2 110bd 110cd e0020-e007f"])
  | .space => whiteSpace.diff (.ofLines ["a d 85 2028-2029"])
  | .lower => lowers .v16
  | .upper => uppers .v16
  | .otherLetter =>
    ((alphabetic .v16).union (.single 0x5F3)).diff (.unionAll [lowers .v16, uppers .v16,
      extenders .v16])
  | .numeric =>
    (Category.ranges .v16 [.decimalNumber]).union
      (.ofLines ["600-605 66b-66c 6dd 890-891 8e2 19da 110bd 110cd"])
  | .ambiguousTerminal => ambiguousTerminals
  | .terminal => Listed.sentenceTerminal.diff ambiguousTerminals
  | .close =>
    ((Listed.quotationMark.union
      (Category.ranges .v16 [.openPunctuation, .closePunctuation,
        .initialPunctuation, .finalPunctuation])).diff (.ofLines ["ff02 ff07"])).union
      (.ofLines ["275b-2760 2e00-2e01 2e06-2e08 2e0b 1f676-1f678"])
  | .continuation => continuations

/-- The class with a name in lower case, without underscores. -/
def ofName? (name : String) : Option SentenceBreak :=
  (names.find? fun entry => entry.2.contains name).map Prod.fst

end SentenceBreak

end Unicode

end Draft6
