import DataQuality.Decimal.Layout

/-!
# Computations and scan shapes

A computation is what one pass over the rows of a partition has to produce for an analyzer:
a row count, a count of non-null cells, of rows passing a predicate or of cells matching a
pattern, moments, extremes of values or of lengths, co-moments of two columns, a quantile
sketch, a distinct-count sketch, a frequency table, or counts of inferred cell types.  A
descriptor is a computation with the row filter it runs under; analyzers with equal descriptors
share one scan and one merged state.

A scan shape says how rows are visited: single-pass aggregation, or grouping by columns for a
frequency table.  Descriptors of one shape are computed in one pass.

Probabilities (quantiles, accuracies) compare by their bits, so that equal-looking descriptors
are equal exactly when they would compute the same thing, and order by the IEEE total order.
-/

namespace DataQuality

/-- A number meant to lie in `[0, 1]`, compared by its bits. -/
structure Probability where
  value : Float
  deriving Inhabited

namespace Probability

/-- The probability of a number, negative zero made positive. -/
def ofFloat (x : Float) : Probability := ⟨if x == 0 then 0 else x⟩

/-- The place of a double in the IEEE total order: negative numbers (by magnitude, reversed)
below positive ones, negative zero just below positive zero, not-a-number at the two ends. -/
def orderKey (x : Float) : Int :=
  let bits := x.toBits.toNat
  if bits < Nat.pow 2 63 then bits else -1 - (bits - Nat.pow 2 63 : Nat)

instance : BEq Probability := ⟨fun a b => a.value.toBits == b.value.toBits⟩

instance : Ord Probability := ⟨fun a b => compare (orderKey a.value) (orderKey b.value)⟩

/-- Whether the number lies in `[0, 1]`. -/
def inUnitInterval (p : Probability) : Bool := 0 ≤ p.value && p.value ≤ 1

/-- The number as text. -/
def text (p : Probability) : String := Decimal.plain p.value

end Probability

/-- What one pass over rows has to produce. -/
inductive Computation where
  | rowCount
  | nonNullCount (column : String)
  | predicateCount (predicate : String)
  | patternCount (column pattern : String)
  | moments (column : String)
  | extrema (column : String)
  | lengthExtrema (column : String)
  | correlation (first second : String)
  | quantiles (column : String) (accuracy : Probability)
  | distinctEstimate (column : String)
  | frequencies (columns : List String)
  | dataTypes (column : String)
  deriving Inhabited

/-- How rows are visited. -/
inductive ScanStrategy where
  /-- Single-pass accumulators, any number in one pass. -/
  | aggregation
  /-- A frequency table over the grouping columns. -/
  | grouping (columns : List String)
  deriving BEq, Inhabited, Repr

/-- A way of visiting rows: a strategy under a row filter. -/
structure ScanShape where
  strategy : ScanStrategy
  filter : Option String
  deriving BEq, Inhabited, Repr

/-- A computation under a row filter. -/
structure Descriptor where
  computation : Computation
  filter : Option String := none
  deriving Inhabited

namespace Computation

/-- The position of the kind of a computation in the list of kinds. -/
def rank : Computation → Nat
  | rowCount => 0
  | nonNullCount _ => 1
  | predicateCount _ => 2
  | patternCount _ _ => 3
  | moments _ => 4
  | extrema _ => 5
  | lengthExtrema _ => 6
  | correlation _ _ => 7
  | quantiles _ _ => 8
  | distinctEstimate _ => 9
  | frequencies _ => 10
  | dataTypes _ => 11

/-- The order of computations: by kind, then by fields in turn. -/
def cmp : Computation → Computation → Ordering
  | nonNullCount a, nonNullCount b => compare a b
  | predicateCount a, predicateCount b => compare a b
  | patternCount a p, patternCount b q => (compare a b).then (compare p q)
  | moments a, moments b => compare a b
  | extrema a, extrema b => compare a b
  | lengthExtrema a, lengthExtrema b => compare a b
  | correlation a x, correlation b y => (compare a b).then (compare x y)
  | quantiles a p, quantiles b q => (compare a b).then (compare p q)
  | distinctEstimate a, distinctEstimate b => compare a b
  | frequencies a, frequencies b => compare a b
  | dataTypes a, dataTypes b => compare a b
  | a, b => compare a.rank b.rank

instance : Ord Computation := ⟨cmp⟩

instance : BEq Computation := ⟨fun a b => cmp a b == .eq⟩

/-- How a computation visits rows. -/
def strategy : Computation → ScanStrategy
  | frequencies columns => .grouping columns
  | _ => .aggregation

/-- The name of the kind of a computation. -/
def label : Computation → String
  | rowCount => "row_count"
  | nonNullCount _ => "non_null_count"
  | predicateCount _ => "predicate_count"
  | patternCount _ _ => "pattern_count"
  | moments _ => "moments"
  | extrema _ => "extrema"
  | lengthExtrema _ => "length_extrema"
  | correlation _ _ => "correlation"
  | quantiles _ _ => "quantiles"
  | distinctEstimate _ => "distinct_estimate"
  | frequencies _ => "frequencies"
  | dataTypes _ => "data_types"

/-- The arguments of a computation as written after its name, in parentheses. -/
def arguments : Computation → String
  | rowCount => ""
  | nonNullCount c | moments c | extrema c | lengthExtrema c | distinctEstimate c
  | dataTypes c => "(" ++ c ++ ")"
  | predicateCount p => "(" ++ p ++ ")"
  | patternCount c p => "(" ++ c ++ ", " ++ p ++ ")"
  | correlation a b => "(" ++ a ++ ", " ++ b ++ ")"
  | quantiles c a => "(" ++ c ++ ", " ++ a.text ++ ")"
  | frequencies cs => "(" ++ ",".intercalate cs ++ ")"

end Computation

/-- The text of a filter clause: ` where f`, or nothing. -/
def whereClause : Option String → String
  | some f => " where " ++ f
  | none => ""

namespace Descriptor

instance : Ord Descriptor :=
  ⟨fun a b => (compare a.computation b.computation).then (compare a.filter b.filter)⟩

instance : BEq Descriptor := ⟨fun a b => compare a b == .eq⟩

/-- The shape of scan that computes a descriptor. -/
def shape (d : Descriptor) : ScanShape := ⟨d.computation.strategy, d.filter⟩

/-- A descriptor as text: the computation, its arguments, and its filter. -/
def text (d : Descriptor) : String :=
  d.computation.label ++ d.computation.arguments ++ whereClause d.filter

end Descriptor

/-- A scan shape as text: the strategy, and its filter. -/
def ScanShape.text (s : ScanShape) : String :=
  let strategy := match s.strategy with
    | .aggregation => "aggregation"
    | .grouping cs => "grouping(" ++ ",".intercalate cs ++ ")"
  strategy ++ whereClause s.filter

end DataQuality
