import Draft6.Unicode.Derived

/-!
# Properties that a character has or lacks

Every property has a short and a long name, and a set in version 16.0.
-/

namespace Draft6

namespace Unicode

/-- A property that a character has or lacks. -/
inductive Property where
  | asciiHexDigit
  | alphabetic
  | bidiControl
  | bidiMirrored
  | caseIgnorable
  | cased
  | changesWhenCasefolded
  | changesWhenCasemapped
  | changesWhenLowercased
  | changesWhenTitlecased
  | changesWhenUppercased
  | dash
  | defaultIgnorableCodePoint
  | deprecated
  | diacritic
  | emoji
  | emojiComponent
  | emojiModifier
  | emojiModifierBase
  | emojiPresentation
  | extendedPictographic
  | extender
  | graphemeBase
  | graphemeExtend
  | graphemeLink
  | hexDigit
  | hyphen
  | idsBinaryOperator
  | idsTrinaryOperator
  | idsUnaryOperator
  | idCompatMathContinue
  | idCompatMathStart
  | idContinue
  | idStart
  | ideographic
  | joinControl
  | logicalOrderException
  | lowercase
  | math
  | modifierCombiningMark
  | noncharacterCodePoint
  | otherAlphabetic
  | otherDefaultIgnorableCodePoint
  | otherGraphemeExtend
  | otherIdContinue
  | otherIdStart
  | otherLowercase
  | otherMath
  | otherUppercase
  | patternSyntax
  | patternWhiteSpace
  | prependedConcatenationMark
  | quotationMark
  | radical
  | regionalIndicator
  | sentenceTerminal
  | softDotted
  | terminalPunctuation
  | unifiedIdeograph
  | uppercase
  | variationSelector
  | whiteSpace
  | xidContinue
  | xidStart
deriving DecidableEq, Repr

namespace Property

/-- The names of each property in lower case, without underscores. -/
def names : List (Property × List String) := [
  (.asciiHexDigit, ["ahex", "asciihexdigit"]),
  (.alphabetic, ["alpha", "alphabetic"]),
  (.bidiControl, ["bidic", "bidicontrol"]),
  (.bidiMirrored, ["bidim", "bidimirrored"]),
  (.caseIgnorable, ["caseignorable", "ci"]),
  (.cased, ["cased"]),
  (.changesWhenCasefolded, ["changeswhencasefolded", "cwcf"]),
  (.changesWhenCasemapped, ["changeswhencasemapped", "cwcm"]),
  (.changesWhenLowercased, ["changeswhenlowercased", "cwl"]),
  (.changesWhenTitlecased, ["changeswhentitlecased", "cwt"]),
  (.changesWhenUppercased, ["changeswhenuppercased", "cwu"]),
  (.dash, ["dash"]),
  (.defaultIgnorableCodePoint, ["defaultignorablecodepoint", "di"]),
  (.deprecated, ["dep", "deprecated"]),
  (.diacritic, ["dia", "diacritic"]),
  (.emoji, ["emoji"]),
  (.emojiComponent, ["ecomp", "emojicomponent"]),
  (.emojiModifier, ["emod", "emojimodifier"]),
  (.emojiModifierBase, ["ebase", "emojimodifierbase"]),
  (.emojiPresentation, ["emojipresentation", "epres"]),
  (.extendedPictographic, ["extendedpictographic", "extpict"]),
  (.extender, ["ext", "extender"]),
  (.graphemeBase, ["graphemebase", "grbase"]),
  (.graphemeExtend, ["graphemeextend", "grext"]),
  (.graphemeLink, ["graphemelink", "grlink"]),
  (.hexDigit, ["hex", "hexdigit"]),
  (.hyphen, ["hyphen"]),
  (.idsBinaryOperator, ["idsb", "idsbinaryoperator"]),
  (.idsTrinaryOperator, ["idst", "idstrinaryoperator"]),
  (.idsUnaryOperator, ["idsu", "idsunaryoperator"]),
  (.idCompatMathContinue, ["idcompatmathcontinue"]),
  (.idCompatMathStart, ["idcompatmathstart"]),
  (.idContinue, ["idc", "idcontinue"]),
  (.idStart, ["ids", "idstart"]),
  (.ideographic, ["ideo", "ideographic"]),
  (.joinControl, ["joinc", "joincontrol"]),
  (.logicalOrderException, ["loe", "logicalorderexception"]),
  (.lowercase, ["lower", "lowercase"]),
  (.math, ["math"]),
  (.modifierCombiningMark, ["mcm", "modifiercombiningmark"]),
  (.noncharacterCodePoint, ["nchar", "noncharactercodepoint"]),
  (.otherAlphabetic, ["oalpha", "otheralphabetic"]),
  (.otherDefaultIgnorableCodePoint, ["odi", "otherdefaultignorablecodepoint"]),
  (.otherGraphemeExtend, ["ogrext", "othergraphemeextend"]),
  (.otherIdContinue, ["oidc", "otheridcontinue"]),
  (.otherIdStart, ["oids", "otheridstart"]),
  (.otherLowercase, ["olower", "otherlowercase"]),
  (.otherMath, ["omath", "othermath"]),
  (.otherUppercase, ["otheruppercase", "oupper"]),
  (.patternSyntax, ["patsyn", "patternsyntax"]),
  (.patternWhiteSpace, ["patternwhitespace", "patws"]),
  (.prependedConcatenationMark, ["pcm", "prependedconcatenationmark"]),
  (.quotationMark, ["qmark", "quotationmark"]),
  (.radical, ["radical"]),
  (.regionalIndicator, ["regionalindicator", "ri"]),
  (.sentenceTerminal, ["sentenceterminal", "sterm"]),
  (.softDotted, ["sd", "softdotted"]),
  (.terminalPunctuation, ["term", "terminalpunctuation"]),
  (.unifiedIdeograph, ["uideo", "unifiedideograph"]),
  (.uppercase, ["upper", "uppercase"]),
  (.variationSelector, ["variationselector", "vs"]),
  (.whiteSpace, ["space", "whitespace", "wspace"]),
  (.xidContinue, ["xidc", "xidcontinue"]),
  (.xidStart, ["xids", "xidstart"])]

/-- The code points with a property, in version 16.0. -/
def ranges : Property → Ranges
  | .asciiHexDigit => Listed.asciiHexDigit
  | .alphabetic => Unicode.alphabetic .v16
  | .bidiControl => Listed.bidiControl
  | .bidiMirrored => Listed.bidiMirrored
  | .caseIgnorable => Derived.caseIgnorable .v16
  | .cased => Derived.cased .v16
  | .changesWhenCasefolded => Derived.changesWhenCasefolded .v16
  | .changesWhenCasemapped => Derived.changesWhenCasemapped .v16
  | .changesWhenLowercased => Derived.changesWhenLowercased .v16
  | .changesWhenTitlecased => Derived.changesWhenTitlecased .v16
  | .changesWhenUppercased => Derived.changesWhenUppercased .v16
  | .dash => Listed.dash
  | .defaultIgnorableCodePoint => Derived.defaultIgnorable .v16
  | .deprecated => Listed.deprecated
  | .diacritic => Listed.diacritic
  | .emoji => Listed.emoji
  | .emojiComponent => Listed.emojiComponent
  | .emojiModifier => Listed.emojiModifier
  | .emojiModifierBase => Listed.emojiModifierBase
  | .emojiPresentation => Listed.emojiPresentation
  | .extendedPictographic => Listed.extendedPictographic
  | .extender => Listed.extender
  | .graphemeBase => Derived.graphemeBase .v16
  | .graphemeExtend => Unicode.graphemeExtend .v16
  | .graphemeLink => Listed.graphemeLink
  | .hexDigit => Derived.hexDigit
  | .hyphen => Listed.hyphen
  | .idsBinaryOperator => Listed.idsBinaryOperator
  | .idsTrinaryOperator => Listed.idsTrinaryOperator
  | .idsUnaryOperator => Listed.idsUnaryOperator
  | .idCompatMathContinue => Derived.idCompatMathContinue
  | .idCompatMathStart => Listed.idCompatMathStart
  | .idContinue => Derived.idContinue .v16
  | .idStart => Derived.idStart .v16
  | .ideographic => Listed.ideographic
  | .joinControl => Unicode.joinControl
  | .logicalOrderException => Listed.logicalOrderException
  | .lowercase => Unicode.lowercase .v16
  | .math => Derived.math .v16
  | .modifierCombiningMark => Listed.modifierCombiningMark
  | .noncharacterCodePoint => Derived.noncharacter
  | .otherAlphabetic => Unicode.otherAlphabetic
  | .otherDefaultIgnorableCodePoint => Listed.otherDefaultIgnorableCodePoint
  | .otherGraphemeExtend => Unicode.otherGraphemeExtend
  | .otherIdContinue => Listed.otherIdContinue
  | .otherIdStart => Listed.otherIdStart
  | .otherLowercase => Unicode.otherLowercase
  | .otherMath => Listed.otherMath
  | .otherUppercase => Unicode.otherUppercase
  | .patternSyntax => Listed.patternSyntax
  | .patternWhiteSpace => Listed.patternWhiteSpace
  | .prependedConcatenationMark => Listed.prependedConcatenationMark
  | .quotationMark => Listed.quotationMark
  | .radical => Listed.radical
  | .regionalIndicator => Listed.regionalIndicator
  | .sentenceTerminal => Listed.sentenceTerminal
  | .softDotted => Listed.softDotted
  | .terminalPunctuation => Listed.terminalPunctuation
  | .unifiedIdeograph => Listed.unifiedIdeograph
  | .uppercase => Unicode.uppercase .v16
  | .variationSelector => Listed.variationSelector
  | .whiteSpace => Unicode.whiteSpace
  | .xidContinue => Derived.xidContinue .v16
  | .xidStart => Derived.xidStart .v16

/-- The property with a name in lower case, without underscores. -/
def ofName? (name : String) : Option Property :=
  (names.find? fun entry => entry.2.contains name).map Prod.fst

end Property

end Unicode

end Draft6
