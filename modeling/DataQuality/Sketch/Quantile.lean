import DataQuality.Data.Tally
import DataQuality.Decimal.Arithmetic

/-!
# Quantile sketches

A sketch of a stream of numbers that answers rank queries within a relative accuracy `a`.  With
`γ = (1 + a) / (1 - a)`, a positive number `x` lands in bucket `⌈ln x / ln γ⌉`; a negative number
in the bucket of its magnitude on a mirrored side; zeros are counted apart.  A bucket `k` stands
for the value `2 γ^k / (γ + 1)`, within `a` of every number in it.  Buckets are never folded
together, so merging two sketches of the same accuracy adds their counts and is exact and free
of order.  Numbers that are not finite are left out.
-/

namespace DataQuality

open Decimal

/-- A quantile sketch of a given relative accuracy. -/
structure QuantileSketch where
  accuracy : Float
  positive : Tally Int := {}
  negative : Tally Int := {}
  zeroCount : UInt64 := 0
  count : UInt64 := 0
  min : Option Float := none
  max : Option Float := none
  deriving Inhabited

namespace QuantileSketch

/-- The relative accuracy of sketches made without one: one percent. -/
def defaultAccuracy : Float := 0.01

/-- The empty sketch of an accuracy. -/
def empty (accuracy : Float) : QuantileSketch := { accuracy }

/-- The ratio between neighbouring bucket bounds. -/
def gamma (s : QuantileSketch) : Float := (1 + s.accuracy) / (1 - s.accuracy)

/-- The bucket of a positive magnitude, as a 32-bit index. -/
def bucket (s : QuantileSketch) (magnitude : Float) : Int :=
  toInt32 (Float.ceil (Float.log magnitude / Float.log s.gamma))

/-- The value a bucket stands for. -/
def bucketValue (s : QuantileSketch) (k : Int) : Float :=
  let g := s.gamma
  2 * powInt g k / (g + 1)

/-- Whether a sketch has seen no number. -/
def isEmpty (s : QuantileSketch) : Bool := s.count == 0

/-- The sketch with one more number; numbers that are not finite change nothing. -/
def insert (s : QuantileSketch) (x : Float) : QuantileSketch :=
  if x.isNaN || x.isInf then s else
  let s :=
    if x > 0 then { s with positive := s.positive.add (s.bucket x) 1 }
    else if x < 0 then { s with negative := s.negative.add (s.bucket (-x)) 1 }
    else { s with zeroCount := s.zeroCount + 1 }
  { s with
    count := s.count + 1
    min := some ((s.min.map (minNum · x)).getD x)
    max := some ((s.max.map (maxNum · x)).getD x) }

/-- Two optional bounds combined by `f`, an absent one giving way. -/
def combine (f : Float → Float → Float) : Option Float → Option Float → Option Float
  | some a, some b => some (f a b)
  | a, b => a.or b

/-- Whether two sketches have the same accuracy, bit for bit, and so can merge. -/
def compatible (s t : QuantileSketch) : Bool :=
  s.accuracy.toBits == t.accuracy.toBits

/-- The sum of two sketches of the same accuracy. -/
def merge? (s t : QuantileSketch) : Option QuantileSketch :=
  if compatible s t then
    some { s with
      positive := s.positive.merge t.positive
      negative := s.negative.merge t.negative
      zeroCount := s.zeroCount + t.zeroCount
      count := s.count + t.count
      min := combine minNum s.min t.min
      max := combine maxNum s.max t.max }
  else none

/-- The first bucket, walking `buckets` in order, at which the running count from `seen`
passes `rank`, with the count after each bucket. -/
def walk (rank : UInt64) : UInt64 → List (Int × UInt64) → Option Int × UInt64
  | seen, [] => (none, seen)
  | seen, (k, n) :: rest =>
    if seen + n > rank then (some k, seen + n) else walk rank (seen + n) rest

/-- The estimate of the number of rank `⌊q (count - 1)⌋`: the least and greatest numbers at the
two ends, otherwise the value of the bucket where the running count from the most negative
bucket passes the rank, held between the least and the greatest.  The product is rounded as a
double and `toCount` rounds it toward zero, which for a product that is not negative is its
floor. -/
def quantile? (s : QuantileSketch) (q : Float) : Option Float := do
  if s.count == 0 || !(0 ≤ q && q ≤ 1) then none
  let lo ← s.min
  let hi ← s.max
  let rank := UInt64.ofNat (toCount (q * countToFloat (s.count - 1)))
  if rank == 0 then return lo
  if rank + 1 ≥ s.count then return hi
  match walk rank 0 s.negative.entries.reverse with
  | (some k, _) => return clampInto (-s.bucketValue k) lo hi
  | (none, seen) =>
    let seen := seen + s.zeroCount
    if seen > rank then return clampInto 0 lo hi
    match walk rank seen s.positive.entries with
    | (some k, _) => return clampInto (s.bucketValue k) lo hi
    | (none, _) => return hi

end QuantileSketch

end DataQuality
