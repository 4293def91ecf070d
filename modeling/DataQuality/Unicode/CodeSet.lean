/-!
# Sets of code points

A `CodeSet` is a set of Unicode scalar values, kept as ascending inclusive ranges that neither
overlap nor touch.  Sets are built from such range lists, combined by union, intersection,
difference and complement (within the scalar values, so surrogates never belong to a
complement), and asked for membership by binary search.

The tables of the character database are stored as compact texts.  A text is a sequence of
numbers, each written in base 32 with its most significant digit first; every digit but the
last comes from one alphabet of 32 characters and the last from another, so the numbers follow
each other without separators.  Line breaks in a text are ignored.  A set is written as pairs
`gap, span`: the range starts `gap` after the end of the previous one (after `-1` for the first)
and holds `span + 1` code points.  A map from ranges to small values is written as triples
`gap, span, value`.  Other tables group numbers.
-/

namespace DataQuality.Unicode

/-- The digits that end a number in a compact table. -/
def finalDigits : List Char := "0123456789BCDFGHJKLMNPQRSTVWXZ~^".toList

/-- The digits that continue a number in a compact table. -/
def innerDigits : List Char := "bcdfghjklmnpqrstvwxz!%&*+.:;<=>?".toList

/-- The numbers of a compact table, from its characters; `acc` is the part of a number read so
far.  Characters outside both alphabets are skipped. -/
def readNumbers : List Char → Nat → Array Nat → Array Nat
  | [], _, out => out
  | c :: rest, acc, out =>
    match finalDigits.idxOf? c with
    | some d => readNumbers rest 0 (out.push (acc * 32 + d))
    | none =>
      match innerDigits.idxOf? c with
      | some d => readNumbers rest (acc * 32 + d) out
      | none => readNumbers rest acc out

/-- The numbers of a compact table. -/
def tableNumbers (text : String) : Array Nat :=
  readNumbers text.toList 0 #[]

/-- The ranges of a set written as `gap, span` pairs, from the `i`-th number on, the previous
range ending just before `next`. -/
def pairsFrom (ns : Array Nat) (i next : Nat) (out : Array (Nat × Nat)) : Array (Nat × Nat) :=
  if h : i + 1 < ns.size then
    let lo := next + ns[i]
    let hi := lo + ns[i + 1]
    pairsFrom ns (i + 2) (hi + 1) (out.push (lo, hi))
  else out
termination_by ns.size - i

/-- The ranges and values of a map written as `gap, span, value` triples, from the `i`-th number
on. -/
def triplesFrom (ns : Array Nat) (i next : Nat) (out : Array (Nat × Nat × Nat)) :
    Array (Nat × Nat × Nat) :=
  if h : i + 2 < ns.size then
    let lo := next + ns[i]
    let hi := lo + ns[i + 1]
    triplesFrom ns (i + 3) (hi + 1) (out.push (lo, hi, ns[i + 2]))
  else out
termination_by ns.size - i

/-- The groups of a table written as a size followed by that many numbers, from the `i`-th number
on; each group is returned with the running sums of its numbers, so that members written as
distances from the one before come back as code points. -/
def groupsFrom (ns : Array Nat) (i : Nat) (out : Array (Array Nat)) : Array (Array Nat) :=
  if h : i < ns.size then
    let k := ns[i]
    let members := (ns.extract (i + 1) (i + 1 + k)).foldl
      (fun (acc : Array Nat × Nat) d => (acc.1.push (acc.2 + d), acc.2 + d)) (#[], 0)
    groupsFrom ns (i + 1 + k) (out.push members.1)
  else out
termination_by ns.size - i

/-- The sets of a table written as groups `key, count` followed by `count` pairs `gap, span`,
from the `i`-th number on. -/
def familyFrom (ns : Array Nat) (i : Nat) (out : Array (Nat × Array (Nat × Nat))) :
    Array (Nat × Array (Nat × Nat)) :=
  if h : i + 1 < ns.size then
    let key := ns[i]
    let k := ns[i + 1]
    let ranges := pairsFrom (ns.extract (i + 2) (i + 2 + 2 * k)) 0 0 #[]
    familyFrom ns (i + 2 + 2 * k) (out.push (key, ranges))
  else out
termination_by ns.size - i

/-- A run of a mapping: `count` code points `step` apart from `first`, each mapped to itself
plus `shift`. -/
structure ShiftRun where
  first : Nat
  count : Nat
  step : Nat
  shift : Int
  deriving Inhabited

/-- The last code point of a run. -/
def ShiftRun.last (r : ShiftRun) : Nat := r.first + (r.count - 1) * r.step

/-- Whether a run maps a code point. -/
def ShiftRun.covers (r : ShiftRun) (n : Nat) : Bool :=
  r.first ≤ n && n ≤ r.last && (n - r.first) % r.step == 0

/-- The run of a sorted array of runs, between positions `lo` and `hi`, that maps a code point. -/
def findRun (rs : Array ShiftRun) (n lo hi : Nat) : Option ShiftRun :=
  if h : lo < hi then
    let mid := (lo + hi) / 2
    if hm : mid < rs.size then
      let r := rs[mid]
      if n < r.first then findRun rs n lo mid
      else if r.last < n then findRun rs n (mid + 1) hi
      else if r.covers n then some r else none
    else none
  else none
termination_by hi - lo

/-- A set of code points: ascending inclusive ranges that neither overlap nor touch. -/
structure CodeSet where
  ranges : Array (Nat × Nat)
  deriving Inhabited, BEq

/-- The greatest code point. -/
def maxCode : Nat := 0x10FFFF

namespace CodeSet

/-- The empty set. -/
def empty : CodeSet := ⟨#[]⟩

/-- Adds a range to a list of ascending ranges that all start at or before it, joining it to
the last one when they overlap or touch. -/
def pushRange (acc : List (Nat × Nat)) (r : Nat × Nat) : List (Nat × Nat) :=
  match acc with
  | (lo, hi) :: rest => if r.1 ≤ hi + 1 then (lo, max hi r.2) :: rest else r :: acc
  | [] => [r]

/-- The set of a list of ranges in any order, overlapping or not; a range whose end precedes its
start is empty. -/
def ofRanges (rs : List (Nat × Nat)) : CodeSet :=
  let sorted := (rs.filter fun r => r.1 ≤ r.2).mergeSort fun a b => a.1 ≤ b.1
  ⟨(sorted.foldl pushRange []).reverse.toArray⟩

/-- The set of one range. -/
def range (lo hi : Nat) : CodeSet := ofRanges [(lo, hi)]

/-- The set of a compact table written as `gap, span` pairs. -/
def ofTable (text : String) : CodeSet :=
  ⟨pairsFrom (tableNumbers text) 0 0 #[]⟩

/-- Whether a code point lies in the ranges between positions `lo` and `hi` of the array. -/
def searchIn (rs : Array (Nat × Nat)) (n lo hi : Nat) : Bool :=
  if h : lo < hi then
    let mid := (lo + hi) / 2
    if hm : mid < rs.size then
      let r := rs[mid]
      if n < r.1 then searchIn rs n lo mid
      else if r.2 < n then searchIn rs n (mid + 1) hi
      else true
    else false
  else false
termination_by hi - lo

/-- Whether the set holds a code point. -/
def contains (s : CodeSet) (n : Nat) : Bool :=
  searchIn s.ranges n 0 s.ranges.size

/-- Whether the set holds a character. -/
def has (s : CodeSet) (c : Char) : Bool :=
  s.contains c.toNat

/-- The union of two sets. -/
def union (s t : CodeSet) : CodeSet :=
  ofRanges (s.ranges.toList ++ t.ranges.toList)

/-- The common part of two lists of ascending ranges. -/
def interLists : List (Nat × Nat) → List (Nat × Nat) → List (Nat × Nat)
  | [], _ => []
  | _, [] => []
  | (a, b) :: xs, (c, d) :: ys =>
    let lo := max a c
    let hi := min b d
    let rest := if b ≤ d then interLists xs ((c, d) :: ys) else interLists ((a, b) :: xs) ys
    if lo ≤ hi then (lo, hi) :: rest else rest
termination_by xs ys => xs.length + ys.length

/-- The intersection of two sets. -/
def inter (s t : CodeSet) : CodeSet :=
  ⟨(interLists s.ranges.toList t.ranges.toList).toArray⟩

/-- The code points from `next` to the greatest that no range of the list holds. -/
def gaps : List (Nat × Nat) → Nat → List (Nat × Nat)
  | [], next => if next ≤ maxCode then [(next, maxCode)] else []
  | (lo, hi) :: rest, next =>
    if next < lo then (next, lo - 1) :: gaps rest (hi + 1) else gaps rest (hi + 1)

/-- The scalar values: every code point but the surrogates. -/
def scalars : CodeSet := ⟨#[(0, 0xD7FF), (0xE000, maxCode)]⟩

/-- The scalar values outside the set. -/
def complement (s : CodeSet) : CodeSet :=
  inter ⟨(gaps s.ranges.toList 0).toArray⟩ scalars

/-- The code points of the first set that the second lacks. -/
def diff (s t : CodeSet) : CodeSet :=
  inter s ⟨(gaps t.ranges.toList 0).toArray⟩

/-- The code points in exactly one of two sets. -/
def symmDiff (s t : CodeSet) : CodeSet :=
  union (diff s t) (diff t s)

/-- Whether every code point of the set is ASCII. -/
def isAscii (s : CodeSet) : Bool :=
  s.ranges.all fun r => r.2 ≤ 0x7F

/-- Whether the set is empty. -/
def isEmpty (s : CodeSet) : Bool :=
  s.ranges.isEmpty

end CodeSet

/-- A map from ranges of code points to small values: ascending, disjoint ranges, each with its
value; code points outside every range have no value. -/
structure CodeMap where
  entries : Array (Nat × Nat × Nat)
  deriving Inhabited

namespace CodeMap

/-- The map of a compact table written as `gap, span, value` triples. -/
def ofTable (text : String) : CodeMap :=
  ⟨triplesFrom (tableNumbers text) 0 0 #[]⟩

/-- The value of a code point in the entries between positions `lo` and `hi`. -/
def searchIn (es : Array (Nat × Nat × Nat)) (n lo hi : Nat) : Option Nat :=
  if h : lo < hi then
    let mid := (lo + hi) / 2
    if hm : mid < es.size then
      let e := es[mid]
      if n < e.1 then searchIn es n lo mid
      else if e.2.1 < n then searchIn es n (mid + 1) hi
      else some e.2.2
    else none
  else none
termination_by hi - lo

/-- The value of a code point, if it has one. -/
def find? (m : CodeMap) (n : Nat) : Option Nat :=
  searchIn m.entries n 0 m.entries.size

/-- The set of code points whose value passes a test. -/
def select (m : CodeMap) (p : Nat → Bool) : CodeSet :=
  CodeSet.ofRanges (m.entries.toList.filterMap fun e => if p e.2.2 then some (e.1, e.2.1) else none)

end CodeMap

end DataQuality.Unicode
