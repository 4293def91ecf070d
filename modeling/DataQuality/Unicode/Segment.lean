import DataQuality.Unicode.CodeSet
import DataQuality.Unicode.Tables.Segment
import DataQuality.Unicode.Tables.Names

/-!
# Ages and break properties

The age of a code point is the version of Unicode that assigned it; asking for an age means
asking for every code point assigned in that version or before.  The grapheme cluster, word and
sentence break properties give each code point the role it plays when text is split into
user-perceived characters, words or sentences.  Each value is identified by its position in the
list of its property's long names.
-/

namespace DataQuality.Unicode

/-- The age table, decoded. -/
def ageMap : CodeMap := CodeMap.ofTable Tables.age

/-- The grapheme cluster break table, decoded. -/
def graphemeClusterBreakMap : CodeMap := CodeMap.ofTable Tables.graphemeClusterBreak

/-- The word break table, decoded. -/
def wordBreakMap : CodeMap := CodeMap.ofTable Tables.wordBreak

/-- The sentence break table, decoded. -/
def sentenceBreakMap : CodeMap := CodeMap.ofTable Tables.sentenceBreak

/-- The code points assigned in a version, given by its long name, or in any version before it. -/
def ageSet (name : String) : Option CodeSet :=
  (Tables.ageNames.idxOf? name).map fun i => ageMap.select (· ≤ i)

/-- The code points with a value, given by its long name, of a property whose values are
listed in `names` and whose table is `m`.  A value that no code point has is not found. -/
def valueSet (names : List String) (m : CodeMap) (name : String) : Option CodeSet :=
  (names.idxOf? name).map fun i => m.select (· == i)

end DataQuality.Unicode
