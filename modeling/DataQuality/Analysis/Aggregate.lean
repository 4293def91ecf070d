import DataQuality.Analysis.Computation
import DataQuality.Data.Classify
import DataQuality.Sketch.Quantile
import DataQuality.Sketch.Distinct

/-!
# Partial aggregates

The partial result of one computation over some set of rows.  Each kind of aggregate merges
with another of its kind: counters add, extremes take the lesser and the greater, sketches merge
as sketches, frequency tables add their counts.  The empty aggregate of a computation is the
unit of its merge.  Counters are 64-bit words; sums of doubles are associative only up to
rounding.

Merging two aggregates of different kinds, or sketches that do not fit together, is refused
with both kinds named.
-/

namespace DataQuality

open Decimal

/-- Matching rows among the rows considered. -/
structure RatioCount where
  hits : UInt64 := 0
  total : UInt64 := 0
  deriving BEq, Inhabited, Repr

/-- Count, sum and sum of squares of numbers. -/
structure Moments where
  count : UInt64 := 0
  sum : Float := 0
  sumSquares : Float := 0
  deriving Inhabited

/-- Count, least and greatest of numbers. -/
structure Extrema where
  count : UInt64 := 0
  min : Option Float := none
  max : Option Float := none
  deriving Inhabited

/-- Co-moment sums of pairs of numbers. -/
structure CoMoments where
  count : UInt64 := 0
  sumX : Float := 0
  sumY : Float := 0
  sumXY : Float := 0
  sumXX : Float := 0
  sumYY : Float := 0
  deriving Inhabited

/-- A frequency table over grouping columns: the rows seen, and the count of each key of
grouping values; rows with a null grouping value count in `rows` only. -/
structure Frequencies where
  rows : UInt64 := 0
  counts : Tally String := {}
  deriving BEq, Inhabited

/-- Counts of cells by inferred type. -/
structure TypeCounts where
  unknown : UInt64 := 0
  integral : UInt64 := 0
  fractional : UInt64 := 0
  boolean : UInt64 := 0
  string : UInt64 := 0
  deriving BEq, Inhabited, Repr

/-- A partial aggregate. -/
inductive Aggregate where
  | count (rows : UInt64)
  | ratio (r : RatioCount)
  | moments (m : Moments)
  | extrema (e : Extrema)
  | correlation (c : CoMoments)
  | quantiles (s : QuantileSketch)
  | distinct (s : DistinctSketch)
  | frequencies (f : Frequencies)
  | dataTypes (t : TypeCounts)
  deriving Inhabited

/-- Why two aggregates did not merge: the kinds of the two. -/
structure MergeError where
  left : String
  right : String
  deriving BEq, Inhabited, Repr

/-- The wording of a refused merge. -/
def MergeError.message (e : MergeError) : String :=
  "cannot merge " ++ e.left ++ " state with " ++ e.right ++ " state"

namespace RatioCount

/-- The counts after one more row. -/
def observe (r : RatioCount) (matched : Bool) : RatioCount :=
  ⟨if matched then r.hits + 1 else r.hits, r.total + 1⟩

/-- The sum of two counts. -/
def merge (a b : RatioCount) : RatioCount := ⟨a.hits + b.hits, a.total + b.total⟩

/-- The share of matching rows, when some row was considered. -/
def ratio? (r : RatioCount) : Option Float :=
  if r.total > 0 then some (countToFloat r.hits / countToFloat r.total) else none

end RatioCount

namespace Moments

/-- The moments after one more number. -/
def observe (m : Moments) (x : Float) : Moments :=
  ⟨m.count + 1, m.sum + x, m.sumSquares + x * x⟩

/-- The sum of two sets of moments. -/
def merge (a b : Moments) : Moments :=
  ⟨a.count + b.count, a.sum + b.sum, a.sumSquares + b.sumSquares⟩

/-- The mean, when some number was seen. -/
def mean? (m : Moments) : Option Float :=
  if m.count > 0 then some (m.sum / countToFloat m.count) else none

/-- The population variance, never below zero, when some number was seen. -/
def variance? (m : Moments) : Option Float :=
  m.mean?.map fun mean => maxNum (m.sumSquares / countToFloat m.count - mean * mean) 0

end Moments

namespace Extrema

/-- The extremes after one more number. -/
def observe (e : Extrema) (x : Float) : Extrema :=
  ⟨e.count + 1, some ((e.min.map (minNum · x)).getD x), some ((e.max.map (maxNum · x)).getD x)⟩

/-- The extremes of two sets of numbers together. -/
def merge (a b : Extrema) : Extrema :=
  ⟨a.count + b.count, QuantileSketch.combine minNum a.min b.min,
    QuantileSketch.combine maxNum a.max b.max⟩

end Extrema

namespace CoMoments

/-- The sums after one more pair. -/
def observe (c : CoMoments) (x y : Float) : CoMoments :=
  ⟨c.count + 1, c.sumX + x, c.sumY + y, c.sumXY + x * y, c.sumXX + x * x, c.sumYY + y * y⟩

/-- The sums of two sets of pairs together. -/
def merge (a b : CoMoments) : CoMoments :=
  ⟨a.count + b.count, a.sumX + b.sumX, a.sumY + b.sumY, a.sumXY + b.sumXY, a.sumXX + b.sumXX,
    a.sumYY + b.sumYY⟩

/-- The Pearson coefficient, held in `[-1, 1]`; undefined below two pairs or when either side
does not vary. -/
def pearson? (c : CoMoments) : Option Float :=
  if c.count < 2 then none else
  let n := countToFloat c.count
  let covariance := c.sumXY - c.sumX * c.sumY / n
  let varX := c.sumXX - c.sumX * c.sumX / n
  let varY := c.sumYY - c.sumY * c.sumY / n
  if varX ≤ 0 || varY ≤ 0 then none
  else some (clampInto (covariance / (Float.sqrt varX * Float.sqrt varY)) (-1) 1)

end CoMoments

namespace Frequencies

/-- The table after one more row, with its key when no grouping value is null. -/
def observe (f : Frequencies) (key : Option String) : Frequencies :=
  ⟨f.rows + 1, match key with
    | some k => f.counts.add k 1
    | none => f.counts⟩

/-- The sum of two tables. -/
def merge (a b : Frequencies) : Frequencies := ⟨a.rows + b.rows, a.counts.merge b.counts⟩

/-- The number of distinct keys. -/
def distinct (f : Frequencies) : Nat := f.counts.size

/-- The number of keys seen exactly once. -/
def unique (f : Frequencies) : Nat := f.counts.singles

/-- The rows with a null grouping value. -/
def nullRows (f : Frequencies) : UInt64 := f.rows - f.counts.total

/-- One grouping value escaped for a key: backslashes and bars get a backslash before them. -/
def escapePart (s : String) : String :=
  String.ofList (s.toList.flatMap fun c => if c == '\\' || c == '|' then ['\\', c] else [c])

/-- The key of a row's grouping values: each escaped, joined by bars. -/
def keyOf (values : List String) : String := "|".intercalate (values.map escapePart)

/-- Reads the parts of a key: a backslash takes the next character as it is (and is dropped at
the end), a bar ends a part. -/
def splitChars : List Char → List Char → List String
  | current, [] => [String.ofList current.reverse]
  | current, '\\' :: c :: rest => splitChars (c :: current) rest
  | current, ['\\'] => [String.ofList current.reverse]
  | current, '|' :: rest => String.ofList current.reverse :: splitChars [] rest
  | current, c :: rest => splitChars (c :: current) rest

/-- The grouping values of a key; the inverse of `keyOf`. -/
def splitKey (key : String) : List String := splitChars [] key.toList

end Frequencies

namespace TypeCounts

/-- The count of a type. -/
def get (t : TypeCounts) : DataClass → UInt64
  | .unknown => t.unknown
  | .integral => t.integral
  | .fractional => t.fractional
  | .boolean => t.boolean
  | .string => t.string

/-- The counts after one more cell. -/
def observe (t : TypeCounts) (v : Value) : TypeCounts :=
  match DataClass.ofValue v with
  | .unknown => { t with unknown := t.unknown + 1 }
  | .integral => { t with integral := t.integral + 1 }
  | .fractional => { t with fractional := t.fractional + 1 }
  | .boolean => { t with boolean := t.boolean + 1 }
  | .string => { t with string := t.string + 1 }

/-- The sum of two sets of counts. -/
def merge (a b : TypeCounts) : TypeCounts :=
  ⟨a.unknown + b.unknown, a.integral + b.integral, a.fractional + b.fractional,
    a.boolean + b.boolean, a.string + b.string⟩

/-- All cells counted. -/
def total (t : TypeCounts) : UInt64 :=
  t.unknown + t.integral + t.fractional + t.boolean + t.string

end TypeCounts

namespace Aggregate

/-- The empty aggregate of a computation, the unit of its merge. -/
def empty : Computation → Aggregate
  | .rowCount => count 0
  | .nonNullCount _ | .predicateCount _ | .patternCount _ _ => ratio {}
  | .moments _ => moments {}
  | .extrema _ | .lengthExtrema _ => extrema {}
  | .correlation _ _ => correlation {}
  | .quantiles _ a => quantiles (QuantileSketch.empty a.value)
  | .distinctEstimate _ => distinct (DistinctSketch.empty DistinctSketch.defaultPrecision)
  | .frequencies _ => frequencies {}
  | .dataTypes _ => dataTypes {}

/-- The name of the kind of an aggregate. -/
def kind : Aggregate → String
  | count _ => "count"
  | ratio _ => "ratio"
  | moments _ => "moments"
  | extrema _ => "extrema"
  | correlation _ => "correlation"
  | quantiles _ => "quantiles"
  | distinct _ => "distinct"
  | frequencies _ => "frequencies"
  | dataTypes _ => "data_types"

/-- The merge of two aggregates of one kind; sketches merge only when they fit together. -/
def merge? : Aggregate → Aggregate → Option Aggregate
  | count a, count b => some (count (a + b))
  | ratio a, ratio b => some (ratio (a.merge b))
  | moments a, moments b => some (moments (a.merge b))
  | extrema a, extrema b => some (extrema (a.merge b))
  | correlation a, correlation b => some (correlation (a.merge b))
  | quantiles a, quantiles b => quantiles <$> a.merge? b
  | distinct a, distinct b => distinct <$> a.merge? b
  | frequencies a, frequencies b => some (frequencies (a.merge b))
  | dataTypes a, dataTypes b => some (dataTypes (a.merge b))
  | _, _ => none

/-- The merge of two aggregates, or the refusal naming both kinds. -/
def merge (a b : Aggregate) : Except MergeError Aggregate :=
  match merge? a b with
  | some c => .ok c
  | none => .error ⟨a.kind, b.kind⟩

/-- Merges aggregates into a first one, left to right, stopping at the first refusal. -/
def mergeAll (start : Aggregate) (rest : List Aggregate) : Except MergeError Aggregate :=
  rest.foldlM merge start

end Aggregate

end DataQuality
