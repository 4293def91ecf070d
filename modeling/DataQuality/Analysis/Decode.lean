import DataQuality.Analysis.Encode
import DataQuality.Json.Decode
import DataQuality.Json.Form

/-!
# Reading analysis values from documents

The inverse of the documents written for analyzers, computations, descriptors, aggregates and
metrics.  Members that are not known are passed over; a missing optional member reads as
absent; counts must be whole numbers in the 64-bit range; doubles of accumulators may also be
the labels `"NaN"`, `"inf"` and `"-inf"`.

The forms of these documents (`Json.Form.analyzer` and the others) say how a text is read as
each of them, and where a text that is not one is refused.
-/

namespace DataQuality

namespace Json

/-- Reads a 64-bit count. -/
def asCount : Decoder UInt64
  | int n => if 0 ≤ n ∧ n < Int.pow 2 64 then .ok (UInt64.ofNat n.toNat) else .error "invalid value"
  | _ => .error "invalid type"

/-- Reads a signed 64-bit integer. -/
def asInt64 : Decoder Int
  | int n => if -Int.pow 2 63 ≤ n ∧ n < Int.pow 2 63 then .ok n else .error "invalid value"
  | _ => .error "invalid type"

/-- Reads a byte. -/
def asByte : Decoder UInt8
  | int n => if 0 ≤ n ∧ n < 256 then .ok (UInt8.ofNat n.toNat) else .error "invalid value"
  | _ => .error "invalid type"

/-- Reads a double written as a number or as one of the labels. -/
def asLabelled : Decoder Float
  | str "inf" => .ok Decimal.infinity
  | str "-inf" => .ok (-Decimal.infinity)
  | str "NaN" => .ok Decimal.notANumber
  | str other => .error ("invalid float '" ++ other ++ "'")
  | v => asFloat v

/-- Reads a required member, or a default when it is missing (but not when it is `null`). -/
def getOr {α : Type} (v : Json) (key : String) (d : Decoder α) (default : α) : Except String α :=
  match v.field? key with
  | some x => d x
  | none => .ok default

/-- Reads an object of counts by text key, a repeated key keeping its last count. -/
def asTally : Decoder (Tally String) := fun v => do
  let fields ← asObject v
  let pairs ← fields.mapM fun (k, x) => do return (k, ← asCount x)
  return Tally.ofPairs pairs

/-- Reads a whole number written as text, as for map keys: an optional minus sign and digits. -/
def readKey (s : String) : Option Int :=
  let value := fun (ds : List Char) =>
    if !ds.isEmpty && ds.all Char.isDigit then
      some (ds.foldl (fun (n : Nat) c => 10 * n + (c.toNat - 48)) 0)
    else none
  match s.toList with
  | '-' :: ds => (fun n => -(n : Int)) <$> value ds
  | ds => (fun n => (n : Int)) <$> value ds

/-- Reads an object of counts by bucket, the buckets 32-bit integers written as text. -/
def asBuckets : Decoder (Tally Int) := fun v => do
  let fields ← asObject v
  let pairs ← fields.mapM fun (k, x) => do
    match readKey k with
    | some n =>
      if -Int.pow 2 31 ≤ n ∧ n < Int.pow 2 31 then return (n, ← asCount x) else throw "invalid value"
    | none => throw "invalid type"
  return Tally.ofPairs pairs

/-- The value of a hex digit in either case. -/
def hexValue? (c : Char) : Option Nat :=
  if '0' ≤ c && c ≤ '9' then some (c.toNat - 48)
  else if 'a' ≤ c && c ≤ 'f' then some (c.toNat - 87)
  else if 'A' ≤ c && c ≤ 'F' then some (c.toNat - 55)
  else none

/-- The bytes of hex text, two digits a byte. -/
def hexBytes : List Char → Except String (List UInt8)
  | [] => .ok []
  | [_] => .error "Odd number of digits"
  | a :: b :: rest =>
    match hexValue? a, hexValue? b with
    | some x, some y => (UInt8.ofNat (16 * x + y) :: ·) <$> hexBytes rest
    | _, _ => .error "Invalid hex character"

end Json

open Json

/-- Reads a probability, a plain double. -/
def Probability.fromJson : Decoder Probability := fun v => do return ⟨← asFloat v⟩

/-- Reads a computation by its `kind`. -/
def Computation.fromJson : Decoder Computation := fun v => do
  let column := get v "column" asString
  match ← get v "kind" asString with
  | "row_count" => return .rowCount
  | "non_null_count" => return .nonNullCount (← column)
  | "predicate_count" => return .predicateCount (← get v "predicate" asString)
  | "pattern_count" => return .patternCount (← column) (← get v "pattern" asString)
  | "moments" => return .moments (← column)
  | "extrema" => return .extrema (← column)
  | "length_extrema" => return .lengthExtrema (← column)
  | "correlation" => return .correlation (← get v "first" asString) (← get v "second" asString)
  | "quantiles" => return .quantiles (← column) (← get v "relative_accuracy" Probability.fromJson)
  | "distinct_estimate" => return .distinctEstimate (← column)
  | "frequencies" => return .frequencies (← get v "columns" (asList asString))
  | "data_types" => return .dataTypes (← column)
  | other => throw ("unknown variant " ++ other)

/-- Reads a descriptor. -/
def Descriptor.fromJson : Decoder Descriptor := fun v => do
  return ⟨← get v "computation" Computation.fromJson, ← getOpt v "filter" asString⟩

/-- Reads a scan strategy by its `strategy`. -/
def ScanStrategy.fromJson : Decoder ScanStrategy := fun v => do
  match ← get v "strategy" asString with
  | "aggregation" => return .aggregation
  | "grouping" => return .grouping (← get v "columns" (asList asString))
  | other => throw ("unknown variant " ++ other)

/-- Reads a scan shape. -/
def ScanShape.fromJson : Decoder ScanShape := fun v => do
  return ⟨← get v "strategy" ScanStrategy.fromJson, ← getOpt v "filter" asString⟩

/-- Reads a quantile sketch. -/
def QuantileSketch.fromJson : Decoder QuantileSketch := fun v => do
  return {
    accuracy := ← get v "relative_accuracy" asFloat
    positive := ← getOr v "positive" asBuckets {}
    negative := ← getOr v "negative" asBuckets {}
    zeroCount := ← getOr v "zero_count" asCount 0
    count := ← getOr v "count" asCount 0
    min := ← getOpt v "min" asFloat
    max := ← getOpt v "max" asFloat }

/-- Reads a distinct-count sketch, its registers from hex text. -/
def DistinctSketch.fromJson : Decoder DistinctSketch := fun v => do
  let precision ← get v "precision" asByte
  let registers ← hexBytes (← get v "registers" asString).toList
  return ⟨precision, registers.toArray⟩

/-- Reads an aggregate from the one member naming its kind. -/
def Aggregate.fromJson : Decoder Aggregate := fun v => do
  match v with
  | .obj [(k, x)] =>
    match k with
    | "count" => return .count (← get x "rows" asCount)
    | "ratio" => return .ratio ⟨← get x "matches" asCount, ← get x "total" asCount⟩
    | "moments" => return .moments ⟨← get x "count" asCount, ← get x "sum" asLabelled,
        ← get x "sum_squares" asLabelled⟩
    | "extrema" => return .extrema ⟨← get x "count" asCount, ← getOpt x "min" asLabelled,
        ← getOpt x "max" asLabelled⟩
    | "correlation" => return .correlation ⟨← get x "count" asCount, ← get x "sum_x" asLabelled,
        ← get x "sum_y" asLabelled, ← get x "sum_xy" asLabelled, ← get x "sum_xx" asLabelled,
        ← get x "sum_yy" asLabelled⟩
    | "quantiles" => return .quantiles (← QuantileSketch.fromJson x)
    | "distinct" => return .distinct (← DistinctSketch.fromJson x)
    | "frequencies" => return .frequencies ⟨← get x "rows" asCount, ← getOr x "counts" asTally {}⟩
    | "data_types" => return .dataTypes ⟨← get x "unknown" asCount, ← get x "integral" asCount,
        ← get x "fractional" asCount, ← get x "boolean" asCount, ← get x "string" asCount⟩
    | other => throw ("unknown variant " ++ other)
  | .str k => throw ("invalid type: unit variant " ++ k)
  | _ => throw "expected an object with one member"

/-- Reads a statistic by its tag `analyzer`. -/
def Statistic.fromJson : Decoder Statistic := fun v => do
  let column := get v "column" asString
  let columns := get v "columns" (asList asString)
  match ← get v "analyzer" asString with
  | "size" => return .size
  | "completeness" => return .completeness (← column)
  | "compliance" => return .compliance (← get v "instance" asString) (← get v "predicate" asString)
  | "pattern_match" => return .patternMatch (← column) (← get v "pattern" asString)
  | "mean" => return .mean (← column)
  | "sum" => return .sum (← column)
  | "standard_deviation" => return .standardDeviation (← column)
  | "minimum" => return .minimum (← column)
  | "maximum" => return .maximum (← column)
  | "min_length" => return .minLength (← column)
  | "max_length" => return .maxLength (← column)
  | "correlation" => return .correlation (← get v "first" asString) (← get v "second" asString)
  | "approx_quantile" => do
    let c ← column
    let q ← get v "quantile" Probability.fromJson
    let e ← get v "relative_error" Probability.fromJson
    return .approxQuantile c q e
  | "approx_count_distinct" => return .approxCountDistinct (← column)
  | "uniqueness" => return .uniqueness (← columns)
  | "distinctness" => return .distinctness (← columns)
  | "unique_value_ratio" => return .uniqueValueRatio (← columns)
  | "count_distinct" => return .countDistinct (← columns)
  | "entropy" => return .entropy (← column)
  | "mutual_information" =>
    return .mutualInformation (← get v "first" asString) (← get v "second" asString)
  | "histogram" => do
    let bins ← get v "max_bins" asCount
    return .histogram (← column) bins.toNat
  | "data_type" => return .dataType (← column)
  | other => throw ("unknown variant " ++ other)

/-- Reads an analyzer. -/
def Analyzer.fromJson : Decoder Analyzer := fun v => do
  return ⟨← Statistic.fromJson v, ← getOpt v "filter" asString⟩

/-- Reads an entity by its lower-case name. -/
def Entity.fromJson : Decoder Entity := fun v => do
  match ← asString v with
  | "dataset" => return .dataset
  | "column" => return .column
  | "multicolumn" => return .multicolumn
  | other => throw ("unknown variant " ++ other)

/-- Reads a distribution; bins come in order of name, a repeated name keeping its last share. -/
def Distribution.fromJson : Decoder Distribution := fun v => do
  let fields ← get v "values" asObject
  let shares ← fields.mapM fun (bin, x) => do
    return (bin, BinShare.mk (← get x "absolute" asCount) (← get x "ratio" asFloat))
  let values := shares.foldl (fun acc (bin, s) => histogramOf.insertBin bin s acc) []
  return ⟨values, ← get v "number_of_bins" asCount⟩

/-- Reads a metric value by its `type`. -/
def MetricValue.fromJson : Decoder MetricValue := fun v => do
  match ← get v "type" asString with
  | "double" => return .double (← get v "value" asLabelled)
  | "long" => return .long (← get v "value" asInt64)
  | "distribution" => return .distribution (← get v "value" Distribution.fromJson)
  | other => throw ("unknown variant " ++ other)

/-- Reads a failure. -/
def MetricFailure.fromJson : Decoder MetricFailure := fun v => do
  let kind ← match ← get v "kind" asString with
    | "precondition_violation" => pure FailureKind.precondition
    | "analysis_error" => pure .analysis
    | "insufficient_data" => pure .insufficient
    | other => throw ("unknown variant " ++ other)
  return ⟨kind, ← get v "message" asString⟩

/-- Reads a metric, its value under `Ok` or its failure under `Err`. -/
def Metric.fromJson : Decoder Metric := fun v => do
  let value ← match ← member v "value" with
    | .obj [("Ok", x)] => Except.ok <$> MetricValue.fromJson x
    | .obj [("Err", x)] => Except.error <$> MetricFailure.fromJson x
    | _ => throw "expected Ok or Err"
  return ⟨← get v "entity" Entity.fromJson, ← get v "instance" asString, ← get v "name" asString,
    value⟩

namespace Json.Form

/-- A field that must be given. -/
def needs (name : String) (f : Form) : String × Form × Presence := (name, f, .required)

/-- A field with a default. -/
def mayOmit (name : String) (f : Form) : String × Form × Presence := (name, f, .defaulted)

/-- The optional filter of an analyzer. -/
def filterField : String × Form × Presence := ("filter", .option .text, .optional)

/-- The form of an analyzer: its kind under `analyzer`, its parameters beside it. -/
def analyzer : Form :=
  let column := needs "column" .text
  let columns := needs "columns" (.list .text)
  let pair := [needs "first" .text, needs "second" .text, filterField]
  .tagged "Analyzer" "analyzer" [("size", [filterField]), ("completeness", [column, filterField]),
    ("compliance", [needs "instance" .text, needs "predicate" .text, filterField]),
    ("pattern_match", [column, needs "pattern" .text, filterField]),
    ("mean", [column, filterField]), ("sum", [column, filterField]),
    ("standard_deviation", [column, filterField]), ("minimum", [column, filterField]),
    ("maximum", [column, filterField]), ("min_length", [column, filterField]),
    ("max_length", [column, filterField]), ("correlation", pair),
    ("approx_quantile", [column, needs "quantile" .number, needs "relative_error" .number,
      filterField]),
    ("approx_count_distinct", [column, filterField]), ("uniqueness", [columns, filterField]),
    ("distinctness", [columns, filterField]), ("unique_value_ratio", [columns, filterField]),
    ("count_distinct", [columns, filterField]), ("entropy", [column, filterField]),
    ("mutual_information", pair),
    ("histogram", [column, needs "max_bins" (.integer .usize), filterField]),
    ("data_type", [column, filterField])]

/-- The form of a metric value: its kind under `type`, the value under `value`. -/
def metricValue : Form :=
  let share := Form.record "DistributionValue" [needs "absolute" (.integer .u64), needs "ratio" .number]
  .adjacent "MetricValue" "type" "value" [("double", .labelledNumber), ("long", .integer .i64),
    ("distribution", .record "Distribution" [needs "values" (.dictionary share),
      needs "number_of_bins" (.integer .u64)])]

/-- The form of a metric: what it describes, and its value under `Ok` or its failure under
`Err`. -/
def metric : Form :=
  let failure := Form.record "MetricFailure" [needs "kind" (.variants "FailureKind"
    [("precondition_violation", none), ("analysis_error", none), ("insufficient_data", none)]),
    needs "message" .text]
  .record "Metric" [needs "entity" (.variants "Entity" [("dataset", none), ("column", none),
      ("multicolumn", none)]), needs "instance" .text, needs "name" .text,
    needs "value" (.variants "Result" [("Ok", some metricValue), ("Err", some failure)])]

/-- The form of a computation: its kind under `kind`, its parameters beside it. -/
def computation : Form :=
  let column := needs "column" .text
  .tagged "Computation" "kind" [("row_count", []), ("non_null_count", [column]),
    ("predicate_count", [needs "predicate" .text]),
    ("pattern_count", [column, needs "pattern" .text]), ("moments", [column]),
    ("extrema", [column]), ("length_extrema", [column]),
    ("correlation", [needs "first" .text, needs "second" .text]),
    ("quantiles", [column, needs "relative_accuracy" .number]), ("distinct_estimate", [column]),
    ("frequencies", [needs "columns" (.list .text)]), ("data_types", [column])]

/-- The form of a descriptor. -/
def descriptor : Form :=
  .record "Descriptor" [needs "computation" computation, mayOmit "filter" (.option .text)]

/-- The form of an aggregate: its kind as the one member, its content under it. -/
def aggregate : Form :=
  let count := fun (name : String) => needs name (.integer .u64)
  let labelled := fun (name : String) => needs name .labelledNumber
  let buckets := fun (name : String) => mayOmit name (.numberKeyed .i32 (.integer .u64))
  .variants "State" [
    ("count", some (.record "CountState" [count "rows"])),
    ("ratio", some (.record "RatioState" [count "matches", count "total"])),
    ("moments", some (.record "MomentsState" [count "count", labelled "sum",
      labelled "sum_squares"])),
    ("extrema", some (.record "ExtremaState" [count "count",
      mayOmit "min" (.option .labelledNumber), mayOmit "max" (.option .labelledNumber)])),
    ("correlation", some (.record "CorrelationState" [count "count", labelled "sum_x",
      labelled "sum_y", labelled "sum_xy", labelled "sum_xx", labelled "sum_yy"])),
    ("quantiles", some (.record "QuantileSketch" [needs "relative_accuracy" .number,
      buckets "positive", buckets "negative", mayOmit "zero_count" (.integer .u64),
      mayOmit "count" (.integer .u64), mayOmit "min" (.option .number),
      mayOmit "max" (.option .number)])),
    ("distinct", some (.record "DistinctSketch" [needs "precision" (.integer .u8),
      needs "registers" .hexBytes])),
    ("frequencies", some (.record "FrequencyState" [count "rows",
      mayOmit "counts" (.dictionary (.integer .u64))])),
    ("data_types", some (.record "DataTypeState" [count "unknown", count "integral",
      count "fractional", count "boolean", count "string"]))]

end Json.Form

end DataQuality
