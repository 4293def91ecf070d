import DataQuality.Unicode.CodeSet
import DataQuality.Unicode.Tables.Case

/-!
# Case mapping and case folding

The lower-case mapping takes each upper-case or title-case letter to its lower-case form; only
`İ` (U+0130) maps to two characters, `i` and a combining dot above.  Simple case folding groups
characters into classes whose members match one another regardless of case: `K`, `k` and the
Kelvin sign form one class, `Σ`, `σ` and `ς` another.  Closing a set under folding adds every
member of each class that the set meets.
-/

namespace DataQuality.Unicode

/-- The runs of the single-character lower-case mapping. -/
def lowerRuns : Array ShiftRun :=
  Tables.lowercaseMapping

/-- The one-character lower-case form of a code point. -/
def lowerCode (n : Nat) : Nat :=
  match findRun lowerRuns n 0 lowerRuns.size with
  | some r => ((n : Int) + r.shift).toNat
  | none => n

/-- The one-character lower-case form of a character. -/
def lowerChar (c : Char) : Char :=
  Char.ofNat (lowerCode c.toNat)

/-- The full lower-case form of a character, apart from the rule for the capital sigma at the end
of a word. -/
def lowerFull (c : Char) : List Char :=
  if c = 'İ' then ['i', '̇'] else [lowerChar c]

/-- The classes of simple case folding, each as its ascending members. -/
def foldClasses : Array (Array Nat) :=
  groupsFrom (tableNumbers Tables.caseFoldClasses) 0 #[]

/-- The code points that belong to some class of simple case folding. -/
def foldMembers : CodeSet :=
  CodeSet.ofRanges (foldClasses.toList.flatMap fun cls => cls.toList.map fun n => (n, n))

/-- Whether a code point has another that folds with it. -/
def hasFoldPartner (n : Nat) : Bool :=
  foldMembers.contains n

/-- A set with every member of each class of simple case folding that it meets. -/
def CodeSet.foldClosure (s : CodeSet) : CodeSet :=
  let added := foldClasses.foldl (fun acc cls =>
    if cls.any s.contains then cls.toList.map (fun n => (n, n)) ++ acc else acc) []
  CodeSet.ofRanges (s.ranges.toList ++ added)

end DataQuality.Unicode
