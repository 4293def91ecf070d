import DataQuality.Unicode.Category
import DataQuality.Unicode.Property

/-!
# Quoted texts

A text written between double quotes so that it reads back unambiguously: the quote and the
backslash are escaped, the line feed, carriage return, tab and NUL by name, and every character
that would not show as itself as `\u{hex}`.  Those are the grapheme extenders, which would join
the character before them, and the characters that do not print: separators other than the
space, controls, format characters, surrogates, private-use and unassigned code points.  Every
other character stands as it is.
-/

namespace DataQuality.Text

open DataQuality.Unicode

/-- The hex digits of a number, lower case, without leading zeros. -/
def hexDigits (n : Nat) : String :=
  String.ofList (Nat.toDigits 16 n)

/-- Whether a character prints as itself. -/
def isPrintable (c : Char) : Bool :=
  c = ' ' ||
    !([.spaceSeparator, .lineSeparator, .paragraphSeparator, .control, .format, .surrogate,
      .privateUse, .unassigned] : List Category).contains (categoryOf c)

/-- A character written as its code in hex. -/
def codeEscape (c : Char) : String :=
  "\\u" ++ "\x7b" ++ hexDigits c.toNat ++ "\x7d"

/-- A character as it stands inside a quoted text. -/
def escapeQuoted (c : Char) : String :=
  match c with
  | '"' => "\\\""
  | '\\' => "\\\\"
  | '\n' => "\\n"
  | '\r' => "\\r"
  | '\t' => "\\t"
  | '\x00' => "\\0"
  | c =>
    if graphemeExtendSet.has c then codeEscape c
    else if isPrintable c then c.toString
    else codeEscape c

/-- A text between double quotes, escaped. -/
def quoted (s : String) : String :=
  "\"" ++ String.join (s.toList.map escapeQuoted) ++ "\""

end DataQuality.Text
