import DataQuality.Unicode.CodeSet
import DataQuality.Unicode.Tables.Category

/-!
# General categories

Every code point has one general category of the character database: a kind of letter, mark,
number, punctuation, symbol, separator or other character.  Unassigned code points have the
category `unassigned`.  The categories fall into seven groups named by the first letter of their
short names (`L`, `M`, `N`, `P`, `S`, `Z`, `C`), and the cased letters `LC` are the upper-case,
lower-case and title-case letters.
-/

namespace DataQuality.Unicode

/-- The general categories, in the order of the category table. -/
inductive Category where
  | uppercaseLetter
  | lowercaseLetter
  | titlecaseLetter
  | modifierLetter
  | otherLetter
  | nonspacingMark
  | spacingMark
  | enclosingMark
  | decimalNumber
  | letterNumber
  | otherNumber
  | connectorPunctuation
  | dashPunctuation
  | openPunctuation
  | closePunctuation
  | initialPunctuation
  | finalPunctuation
  | otherPunctuation
  | mathSymbol
  | currencySymbol
  | modifierSymbol
  | otherSymbol
  | spaceSeparator
  | lineSeparator
  | paragraphSeparator
  | control
  | format
  | surrogate
  | privateUse
  | unassigned
  deriving Repr, BEq, DecidableEq, Inhabited

namespace Category

/-- All categories, in table order. -/
def all : List Category :=
  [.uppercaseLetter, .lowercaseLetter, .titlecaseLetter, .modifierLetter, .otherLetter,
    .nonspacingMark, .spacingMark, .enclosingMark, .decimalNumber, .letterNumber, .otherNumber,
    .connectorPunctuation, .dashPunctuation, .openPunctuation, .closePunctuation,
    .initialPunctuation, .finalPunctuation, .otherPunctuation, .mathSymbol, .currencySymbol,
    .modifierSymbol, .otherSymbol, .spaceSeparator, .lineSeparator, .paragraphSeparator,
    .control, .format, .surrogate, .privateUse, .unassigned]

/-- The long name of a category, as the character database writes it. -/
def name : Category → String
  | .uppercaseLetter => "Uppercase_Letter"
  | .lowercaseLetter => "Lowercase_Letter"
  | .titlecaseLetter => "Titlecase_Letter"
  | .modifierLetter => "Modifier_Letter"
  | .otherLetter => "Other_Letter"
  | .nonspacingMark => "Nonspacing_Mark"
  | .spacingMark => "Spacing_Mark"
  | .enclosingMark => "Enclosing_Mark"
  | .decimalNumber => "Decimal_Number"
  | .letterNumber => "Letter_Number"
  | .otherNumber => "Other_Number"
  | .connectorPunctuation => "Connector_Punctuation"
  | .dashPunctuation => "Dash_Punctuation"
  | .openPunctuation => "Open_Punctuation"
  | .closePunctuation => "Close_Punctuation"
  | .initialPunctuation => "Initial_Punctuation"
  | .finalPunctuation => "Final_Punctuation"
  | .otherPunctuation => "Other_Punctuation"
  | .mathSymbol => "Math_Symbol"
  | .currencySymbol => "Currency_Symbol"
  | .modifierSymbol => "Modifier_Symbol"
  | .otherSymbol => "Other_Symbol"
  | .spaceSeparator => "Space_Separator"
  | .lineSeparator => "Line_Separator"
  | .paragraphSeparator => "Paragraph_Separator"
  | .control => "Control"
  | .format => "Format"
  | .surrogate => "Surrogate"
  | .privateUse => "Private_Use"
  | .unassigned => "Unassigned"

/-- The category at a position of the table order; positions past the end are unassigned. -/
def ofIndex (i : Nat) : Category :=
  all.getD i .unassigned

end Category

/-- The category table, decoded. -/
def categoryMap : CodeMap :=
  CodeMap.ofTable Tables.generalCategory

/-- The general category of a code point. -/
def categoryOfCode (n : Nat) : Category :=
  match categoryMap.find? n with
  | some i => Category.ofIndex i
  | none => .unassigned

/-- The general category of a character. -/
def categoryOf (c : Char) : Category :=
  categoryOfCode c.toNat

/-- The characters of some categories.  Surrogates are not characters, so the set of
`surrogate` is empty; the unassigned characters are those outside every run of the table. -/
def categorySet (ks : List Category) : CodeSet :=
  let assigned := CodeMap.select categoryMap fun i => ks.contains (Category.ofIndex i)
  let withUnassigned :=
    if ks.contains .unassigned then
      assigned.union (CodeMap.select categoryMap fun _ => true).complement
    else assigned
  withUnassigned.inter CodeSet.scalars

/-- The decimal digits of every script: category `Nd`. -/
def decimalNumberSet : CodeSet :=
  categorySet [.decimalNumber]

end DataQuality.Unicode
