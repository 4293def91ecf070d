import DataQuality.Unicode.Case
import DataQuality.Unicode.Property

/-!
# Lower case

The lower-case form of a text, as full case mapping defines it: every character takes its
lower-case form, `İ` (U+0130) becomes `i` followed by a combining dot above, and a capital
sigma becomes the final form `ς` at the end of a word and `σ` elsewhere.

A sigma ends a word when, skipping case-ignorable characters, a cased character comes before it
and none comes after it.
-/

namespace DataQuality.Text

open DataQuality.Unicode

/-- Whether the first character that is not case-ignorable is cased. -/
def casedAfterIgnorable : List Char → Bool
  | [] => false
  | c :: rest => if caseIgnorableSet.has c then casedAfterIgnorable rest else casedSet.has c

/-- The lower-case form of a capital sigma, given the characters before it in reverse and the
characters after it. -/
def sigmaLower (before after : List Char) : Char :=
  if casedAfterIgnorable before && !casedAfterIgnorable after then 'ς' else 'σ'

/-- Lower-cases characters, `before` holding the characters already passed in reverse. -/
def lowerChars (before : List Char) : List Char → List Char
  | [] => []
  | c :: rest =>
    let out := if c = 'Σ' then [sigmaLower before rest] else lowerFull c
    out ++ lowerChars (c :: before) rest

/-- The lower-case form of a text. -/
def toLower (s : String) : String :=
  String.ofList (lowerChars [] s.toList)

end DataQuality.Text
