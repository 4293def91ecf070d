import DataQuality.Unicode.CodeSet
import DataQuality.Unicode.Tables.Property

/-!
# Binary properties

The binary properties of the character database that patterns can name, each with the set of
code points that have it, and the few that text functions consult directly: white space,
alphabetic characters, cased and case-ignorable characters, grapheme extenders and the joining
controls.
-/

namespace DataQuality.Unicode

/-- Each binary property that patterns can name, by its long name, with its table. -/
def binaryPropertyTables : List (String × String) := [
  ("ASCII_Hex_Digit", Tables.asciiHexDigit),
  ("Alphabetic", Tables.alphabetic),
  ("Bidi_Control", Tables.bidiControl),
  ("Bidi_Mirrored", Tables.bidiMirrored),
  ("Case_Ignorable", Tables.caseIgnorable),
  ("Cased", Tables.cased),
  ("Changes_When_Casefolded", Tables.changesWhenCasefolded),
  ("Changes_When_Casemapped", Tables.changesWhenCasemapped),
  ("Changes_When_Lowercased", Tables.changesWhenLowercased),
  ("Changes_When_Titlecased", Tables.changesWhenTitlecased),
  ("Changes_When_Uppercased", Tables.changesWhenUppercased),
  ("Dash", Tables.dash),
  ("Default_Ignorable_Code_Point", Tables.defaultIgnorableCodePoint),
  ("Deprecated", Tables.deprecated),
  ("Diacritic", Tables.diacritic),
  ("Emoji", Tables.emoji),
  ("Emoji_Component", Tables.emojiComponent),
  ("Emoji_Modifier", Tables.emojiModifier),
  ("Emoji_Modifier_Base", Tables.emojiModifierBase),
  ("Emoji_Presentation", Tables.emojiPresentation),
  ("Extended_Pictographic", Tables.extendedPictographic),
  ("Extender", Tables.extender),
  ("Grapheme_Base", Tables.graphemeBase),
  ("Grapheme_Extend", Tables.graphemeExtend),
  ("Hex_Digit", Tables.hexDigit),
  ("IDS_Binary_Operator", Tables.idsBinaryOperator),
  ("IDS_Trinary_Operator", Tables.idsTrinaryOperator),
  ("IDS_Unary_Operator", Tables.idsUnaryOperator),
  ("ID_Compat_Math_Continue", Tables.idCompatMathContinue),
  ("ID_Compat_Math_Start", Tables.idCompatMathStart),
  ("ID_Continue", Tables.idContinue),
  ("ID_Start", Tables.idStart),
  ("Ideographic", Tables.ideographic),
  ("Join_Control", Tables.joinControl),
  ("Logical_Order_Exception", Tables.logicalOrderException),
  ("Lowercase", Tables.lowercase),
  ("Math", Tables.math),
  ("Modifier_Combining_Mark", Tables.modifierCombiningMark),
  ("Noncharacter_Code_Point", Tables.noncharacterCodePoint),
  ("Pattern_Syntax", Tables.patternSyntax),
  ("Pattern_White_Space", Tables.patternWhiteSpace),
  ("Prepended_Concatenation_Mark", Tables.prependedConcatenationMark),
  ("Quotation_Mark", Tables.quotationMark),
  ("Radical", Tables.radical),
  ("Regional_Indicator", Tables.regionalIndicator),
  ("Sentence_Terminal", Tables.sentenceTerminal),
  ("Soft_Dotted", Tables.softDotted),
  ("Terminal_Punctuation", Tables.terminalPunctuation),
  ("Unified_Ideograph", Tables.unifiedIdeograph),
  ("Uppercase", Tables.uppercase),
  ("Variation_Selector", Tables.variationSelector),
  ("White_Space", Tables.whiteSpace),
  ("XID_Continue", Tables.xidContinue),
  ("XID_Start", Tables.xidStart)]

/-- The set of a binary property named by its long name, if patterns can name it. -/
def binaryPropertySet (name : String) : Option CodeSet :=
  (binaryPropertyTables.lookup name).map CodeSet.ofTable

/-- The white-space characters. -/
def whiteSpaceSet : CodeSet := CodeSet.ofTable Tables.whiteSpace

/-- The alphabetic characters. -/
def alphabeticSet : CodeSet := CodeSet.ofTable Tables.alphabetic

/-- The cased characters: those with an upper-case, lower-case or title-case form of their own. -/
def casedSet : CodeSet := CodeSet.ofTable Tables.cased

/-- The case-ignorable characters: marks, format characters, modifiers and the apostrophes and
dots that may stand inside words. -/
def caseIgnorableSet : CodeSet := CodeSet.ofTable Tables.caseIgnorable

/-- The grapheme extenders: characters that continue the grapheme before them. -/
def graphemeExtendSet : CodeSet := CodeSet.ofTable Tables.graphemeExtend

/-- The two joining controls, zero-width non-joiner and joiner. -/
def joinControlSet : CodeSet := CodeSet.ofTable Tables.joinControl

end DataQuality.Unicode
