import DataQuality.Analysis.Measure
import DataQuality.Json.Basic

/-!
# Documents of analysis values

The JSON forms in which analyzers, computations, descriptors, aggregates and metrics are stored
and exchanged.  Members are written in a fixed order, kind tags first.  Doubles in plain fields
that are not finite are written as `null`; accumulators and metric values write them as the
labels `"NaN"`, `"inf"` and `"-inf"` so that they read back.  Maps keyed by text or by bucket
become objects in key order.
-/

namespace DataQuality

namespace Json

/-- A double that reads back: finite ones as numbers, the others as labels. -/
def labelled (x : Float) : Json :=
  if x.isNaN then str "NaN"
  else if x.isInf then str (if x > 0 then "inf" else "-inf")
  else float x

/-- An optional text, `null` when absent. -/
def ofOption {α : Type} (f : α → Json) : Option α → Json
  | some x => f x
  | none => null

/-- A count. -/
def ofCount (n : UInt64) : Json := int n.toNat

/-- A list of texts. -/
def texts (xs : List String) : Json := arr (xs.map str)

end Json

open Json

/-- A computation, tagged by `kind`. -/
def Computation.toJson : Computation → Json
  | .rowCount => obj [("kind", str "row_count")]
  | .nonNullCount c => obj [("kind", str "non_null_count"), ("column", str c)]
  | .predicateCount p => obj [("kind", str "predicate_count"), ("predicate", str p)]
  | .patternCount c p => obj [("kind", str "pattern_count"), ("column", str c), ("pattern", str p)]
  | .moments c => obj [("kind", str "moments"), ("column", str c)]
  | .extrema c => obj [("kind", str "extrema"), ("column", str c)]
  | .lengthExtrema c => obj [("kind", str "length_extrema"), ("column", str c)]
  | .correlation a b => obj [("kind", str "correlation"), ("first", str a), ("second", str b)]
  | .quantiles c a =>
    obj [("kind", str "quantiles"), ("column", str c), ("relative_accuracy", float a.value)]
  | .distinctEstimate c => obj [("kind", str "distinct_estimate"), ("column", str c)]
  | .frequencies cs => obj [("kind", str "frequencies"), ("columns", texts cs)]
  | .dataTypes c => obj [("kind", str "data_types"), ("column", str c)]

/-- A descriptor; the filter is left out when there is none. -/
def Descriptor.toJson (d : Descriptor) : Json :=
  obj ([("computation", d.computation.toJson)] ++
    match d.filter with
    | some f => [("filter", str f)]
    | none => [])

/-- A scan strategy, tagged by `strategy`. -/
def ScanStrategy.toJson : ScanStrategy → Json
  | .aggregation => obj [("strategy", str "aggregation")]
  | .grouping cs => obj [("strategy", str "grouping"), ("columns", texts cs)]

/-- A scan shape. -/
def ScanShape.toJson (s : ScanShape) : Json :=
  obj [("strategy", s.strategy.toJson), ("filter", ofOption str s.filter)]

/-- A quantile sketch. -/
def QuantileSketch.toJson (s : QuantileSketch) : Json :=
  let buckets := fun (t : Tally Int) => obj (t.entries.map fun (k, n) => (toString k, ofCount n))
  obj [("relative_accuracy", float s.accuracy), ("positive", buckets s.positive),
    ("negative", buckets s.negative), ("zero_count", ofCount s.zeroCount), ("count", ofCount s.count),
    ("min", ofOption float s.min), ("max", ofOption float s.max)]

/-- A distinct-count sketch, its registers as hex text. -/
def DistinctSketch.toJson (s : DistinctSketch) : Json :=
  obj [("precision", int s.precision.toNat), ("registers", str (Digest.hexText s.registers.toList))]

/-- An aggregate, under the name of its kind. -/
def Aggregate.toJson : Aggregate → Json
  | .count rows => obj [("count", obj [("rows", ofCount rows)])]
  | .ratio r => obj [("ratio", obj [("matches", ofCount r.hits), ("total", ofCount r.total)])]
  | .moments m => obj [("moments", obj [("count", ofCount m.count), ("sum", labelled m.sum),
      ("sum_squares", labelled m.sumSquares)])]
  | .extrema e => obj [("extrema", obj [("count", ofCount e.count),
      ("min", ofOption labelled e.min), ("max", ofOption labelled e.max)])]
  | .correlation c => obj [("correlation", obj [("count", ofCount c.count),
      ("sum_x", labelled c.sumX), ("sum_y", labelled c.sumY), ("sum_xy", labelled c.sumXY),
      ("sum_xx", labelled c.sumXX), ("sum_yy", labelled c.sumYY)])]
  | .quantiles s => obj [("quantiles", s.toJson)]
  | .distinct s => obj [("distinct", s.toJson)]
  | .frequencies f => obj [("frequencies", obj [("rows", ofCount f.rows),
      ("counts", obj (f.counts.entries.map fun (k, n) => (k, ofCount n)))])]
  | .dataTypes t => obj [("data_types", obj [("unknown", ofCount t.unknown),
      ("integral", ofCount t.integral), ("fractional", ofCount t.fractional),
      ("boolean", ofCount t.boolean), ("string", ofCount t.string)])]

/-- The tag and the members of a statistic. -/
def Statistic.members : Statistic → String × List (String × Json)
  | .size => ("size", [])
  | .completeness c => ("completeness", [("column", str c)])
  | .compliance s p => ("compliance", [("instance", str s), ("predicate", str p)])
  | .patternMatch c p => ("pattern_match", [("column", str c), ("pattern", str p)])
  | .mean c => ("mean", [("column", str c)])
  | .sum c => ("sum", [("column", str c)])
  | .standardDeviation c => ("standard_deviation", [("column", str c)])
  | .minimum c => ("minimum", [("column", str c)])
  | .maximum c => ("maximum", [("column", str c)])
  | .minLength c => ("min_length", [("column", str c)])
  | .maxLength c => ("max_length", [("column", str c)])
  | .correlation a b => ("correlation", [("first", str a), ("second", str b)])
  | .approxQuantile c q e => ("approx_quantile",
      [("column", str c), ("quantile", float q.value), ("relative_error", float e.value)])
  | .approxCountDistinct c => ("approx_count_distinct", [("column", str c)])
  | .uniqueness cs => ("uniqueness", [("columns", texts cs)])
  | .distinctness cs => ("distinctness", [("columns", texts cs)])
  | .uniqueValueRatio cs => ("unique_value_ratio", [("columns", texts cs)])
  | .countDistinct cs => ("count_distinct", [("columns", texts cs)])
  | .entropy c => ("entropy", [("column", str c)])
  | .mutualInformation a b => ("mutual_information", [("first", str a), ("second", str b)])
  | .histogram c n => ("histogram", [("column", str c), ("max_bins", int n)])
  | .dataType c => ("data_type", [("column", str c)])

/-- An analyzer, tagged by `analyzer`, its filter last. -/
def Analyzer.toJson (a : Analyzer) : Json :=
  let (tag, members) := a.statistic.members
  obj ([("analyzer", str tag)] ++ members ++ [("filter", ofOption str a.filter)])

/-- An entity by its lower-case name. -/
def Entity.toJson (e : Entity) : Json := str e.key

/-- A distribution: each bin with its count and share, and the number of bins. -/
def Distribution.toJson (d : Distribution) : Json :=
  obj [("values", obj (d.values.map fun (bin, s) =>
      (bin, obj [("absolute", ofCount s.absolute), ("ratio", float s.ratio)]))),
    ("number_of_bins", ofCount d.bins)]

/-- A metric value, tagged by `type`. -/
def MetricValue.toJson : MetricValue → Json
  | .double x => obj [("type", str "double"), ("value", labelled x)]
  | .long n => obj [("type", str "long"), ("value", int n)]
  | .distribution d => obj [("type", str "distribution"), ("value", d.toJson)]

/-- The name of a kind of failure. -/
def FailureKind.key : FailureKind → String
  | .precondition => "precondition_violation"
  | .analysis => "analysis_error"
  | .insufficient => "insufficient_data"

/-- A failure. -/
def MetricFailure.toJson (f : MetricFailure) : Json :=
  obj [("kind", str f.kind.key), ("message", str f.message)]

/-- A metric, its value under `Ok` or its failure under `Err`. -/
def Metric.toJson (m : Metric) : Json :=
  obj [("entity", m.entity.toJson), ("instance", str m.subject), ("name", str m.name),
    ("value", match m.value with
      | .ok v => obj [("Ok", v.toJson)]
      | .error f => obj [("Err", f.toJson)])]

/-- A metric row. -/
def MetricRow.toJson (r : MetricRow) : Json :=
  obj [("entity", r.entity.toJson), ("instance", str r.subject), ("name", str r.name),
    ("value", labelled r.value)]

end DataQuality
