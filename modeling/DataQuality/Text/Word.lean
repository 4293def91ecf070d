import DataQuality.Unicode.Category
import DataQuality.Unicode.Property

/-!
# Word characters, digits and letters

The word characters of Unicode text matching are the alphabetic characters, the marks, the
decimal digits, the connector punctuation such as `_`, and the two joining controls.  The
decimal digits are the characters of category `Nd` in every script, not only `0` to `9`.  A
character is alphanumeric when it is alphabetic or of a number category (`Nd`, `Nl`, `No`).
-/

namespace DataQuality.Text

open DataQuality.Unicode

/-- The word characters. -/
def wordSet : CodeSet :=
  ((alphabeticSet.union (categorySet [.nonspacingMark, .spacingMark, .enclosingMark,
    .decimalNumber, .connectorPunctuation])).union joinControlSet)

/-- The alphanumeric characters. -/
def alphanumericSet : CodeSet :=
  alphabeticSet.union (categorySet [.decimalNumber, .letterNumber, .otherNumber])

/-- Whether a character is a word character. -/
def isWord (c : Char) : Bool :=
  wordSet.has c

/-- Whether a character is a decimal digit of some script. -/
def isDecimalDigit (c : Char) : Bool :=
  decimalNumberSet.has c

/-- Whether a character is alphabetic. -/
def isAlphabetic (c : Char) : Bool :=
  alphabeticSet.has c

/-- Whether a character is alphabetic or numeric. -/
def isAlphanumeric (c : Char) : Bool :=
  alphanumericSet.has c

end DataQuality.Text
