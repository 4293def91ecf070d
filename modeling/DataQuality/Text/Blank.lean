/-!
# Blank characters

The white-space characters of Unicode: the ASCII tab, line feed, vertical tab, form feed,
carriage return and space, the next-line control `U+0085`, the no-break spaces, the spaces of
`U+2000`–`U+200A`, the line and paragraph separators, and the ideographic space.  Trimming a
text removes them from both ends.
-/

namespace DataQuality.Text

/-- Whether a character is white space. -/
def isBlank (c : Char) : Bool :=
  let n := c.toNat
  (0x09 ≤ n && n ≤ 0x0D) || n == 0x20 || n == 0x85 || n == 0xA0 || n == 0x1680 ||
    (0x2000 ≤ n && n ≤ 0x200A) || n == 0x2028 || n == 0x2029 || n == 0x202F ||
    n == 0x205F || n == 0x3000

/-- The text without white space at its start. -/
def trimStart (s : String) : String :=
  String.ofList (s.toList.dropWhile isBlank)

/-- The text without white space at its end. -/
def trimEnd (s : String) : String :=
  String.ofList (s.toList.reverse.dropWhile isBlank).reverse

/-- The text without white space at either end. -/
def trim (s : String) : String :=
  trimEnd (trimStart s)

/-- Whether a text holds nothing but white space. -/
def isBlankText (s : String) : Bool :=
  s.toList.all isBlank

/-- Whether two texts are equal once both are lower-cased in ASCII only. -/
def equalsIgnoringAsciiCase (a b : String) : Bool :=
  a.toList.map Char.toLower == b.toList.map Char.toLower

end DataQuality.Text
