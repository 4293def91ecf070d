/-!
# Similar names

The Jaro similarity of two texts, and the known names similar enough to an unknown one to be
suggested in its place.

Two characters match when they are equal, the second is not matched yet, and their positions
differ by less than half the longer length (less one).  With `m` matches, `t` half the matched
pairs that stand in a different order, and lengths `a` and `b`, the similarity is
`(m / a + m / b + (m - t) / m) / 3`, and zero without matches.  The arithmetic is in binary
floating point, operation by operation, so that a similarity near a threshold falls on the same
side as any other computation of it in the same order.
-/

namespace DataQuality.Text

/-- Matches the characters of `xs`, from position `i` on, against `ys` within `window`
positions, marking the matched characters of `ys` in `used`; gives the matched characters of
`xs` in order. -/
def jaroMatches (ys : List Char) (window : Nat) :
    Nat → List Char → List Bool → List Char × List Bool
  | _, [], used => ([], used)
  | i, x :: rest, used =>
    let hit := (ys.zipIdx.find? fun (y, j) =>
      i - window ≤ j && j ≤ i + window && y == x && !(used.getD j true))
    match hit with
    | some (_, j) =>
      let (found, used') := jaroMatches ys window (i + 1) rest (used.set j true)
      (x :: found, used')
    | none => jaroMatches ys window (i + 1) rest used

/-- The Jaro similarity of two texts, between 0 and 1. -/
def jaro (a b : String) : Float :=
  let xs := a.toList
  let ys := b.toList
  if xs.isEmpty && ys.isEmpty then 1.0
  else if xs.isEmpty || ys.isEmpty then 0.0
  else
    let window := max xs.length ys.length / 2 - 1
    let (fromA, used) := jaroMatches ys window 0 xs (List.replicate ys.length false)
    let fromB := (ys.zip used).filterMap fun (y, u) => if u then some y else none
    let m := fromA.length
    if m == 0 then 0.0
    else
      let t := ((fromA.zip fromB).countP fun (p, q) => p != q) / 2
      let mf := m.toFloat
      (mf / xs.length.toFloat + mf / ys.length.toFloat + (m - t).toFloat / mf) / 3.0

/-- The names whose similarity to `unknown` exceeds 0.7, from the least to the most similar;
names equally similar keep their order. -/
def similarNames (unknown : String) (names : List String) : List String :=
  let scored := (names.map fun n => (jaro unknown n, n)).filter (·.1 > 0.7)
  (scored.mergeSort fun p q => p.1 ≤ q.1).map (·.2)

end DataQuality.Text
