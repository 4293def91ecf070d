import DataQuality.Analysis.Computation
import DataQuality.Analysis.Metric
import DataQuality.Data.Table
import DataQuality.Pattern.Match

/-!
# Analyzers

An analyzer names a metric, declares the descriptor it needs, and turns the merged aggregate of
that descriptor into its metric; it never reads rows itself.  The catalogue: the size of the
dataset; completeness, compliance with a predicate and matches of a pattern; mean, sum, standard
deviation, least and greatest values and lengths; correlation; approximate quantiles and
distinct counts; uniqueness, distinctness, unique-value ratio and distinct counts over column
sets; entropy, mutual information, histograms and inferred data types.  Every analyzer may
carry a row filter.

Analyzers are ordered by kind, in the order of the catalogue, then by their fields in turn,
the filter last; maps keyed by analyzers follow this order.
-/

namespace DataQuality

/-- What an analyzer measures, with its arguments. -/
inductive Statistic where
  | size
  | completeness (column : String)
  | compliance (subject predicate : String)
  | patternMatch (column pattern : String)
  | mean (column : String)
  | sum (column : String)
  | standardDeviation (column : String)
  | minimum (column : String)
  | maximum (column : String)
  | minLength (column : String)
  | maxLength (column : String)
  | correlation (first second : String)
  | approxQuantile (column : String) (quantile relativeError : Probability)
  | approxCountDistinct (column : String)
  | uniqueness (columns : List String)
  | distinctness (columns : List String)
  | uniqueValueRatio (columns : List String)
  | countDistinct (columns : List String)
  | entropy (column : String)
  | mutualInformation (first second : String)
  | histogram (column : String) (maxBins : Nat)
  | dataType (column : String)
  deriving Inhabited

/-- An analyzer: a statistic, under an optional row filter. -/
structure Analyzer where
  statistic : Statistic
  filter : Option String := none
  deriving Inhabited

/-- The label of the bin that collects null values. -/
def nullBin : String := "NullValue"

/-- The number of bins a histogram keeps unless told otherwise. -/
def defaultHistogramBins : Nat := 1000

namespace Statistic

/-- The position of a statistic in the catalogue. -/
def rank : Statistic → Nat
  | size => 0
  | completeness _ => 1
  | compliance _ _ => 2
  | patternMatch _ _ => 3
  | mean _ => 4
  | sum _ => 5
  | standardDeviation _ => 6
  | minimum _ => 7
  | maximum _ => 8
  | minLength _ => 9
  | maxLength _ => 10
  | correlation _ _ => 11
  | approxQuantile _ _ _ => 12
  | approxCountDistinct _ => 13
  | uniqueness _ => 14
  | distinctness _ => 15
  | uniqueValueRatio _ => 16
  | countDistinct _ => 17
  | entropy _ => 18
  | mutualInformation _ _ => 19
  | histogram _ _ => 20
  | dataType _ => 21

/-- The order of statistics: by place in the catalogue, then by fields in turn. -/
def cmp : Statistic → Statistic → Ordering
  | completeness a, completeness b => compare a b
  | compliance a p, compliance b q => (compare a b).then (compare p q)
  | patternMatch a p, patternMatch b q => (compare a b).then (compare p q)
  | mean a, mean b => compare a b
  | sum a, sum b => compare a b
  | standardDeviation a, standardDeviation b => compare a b
  | minimum a, minimum b => compare a b
  | maximum a, maximum b => compare a b
  | minLength a, minLength b => compare a b
  | maxLength a, maxLength b => compare a b
  | correlation a x, correlation b y => (compare a b).then (compare x y)
  | approxQuantile a p e, approxQuantile b q f =>
    (compare a b).then ((compare p q).then (compare e f))
  | approxCountDistinct a, approxCountDistinct b => compare a b
  | uniqueness a, uniqueness b => compare a b
  | distinctness a, distinctness b => compare a b
  | uniqueValueRatio a, uniqueValueRatio b => compare a b
  | countDistinct a, countDistinct b => compare a b
  | entropy a, entropy b => compare a b
  | mutualInformation a x, mutualInformation b y => (compare a b).then (compare x y)
  | histogram a m, histogram b n => (compare a b).then (compare m n)
  | dataType a, dataType b => compare a b
  | a, b => compare a.rank b.rank

/-- The name of the metric of a statistic. -/
def name : Statistic → String
  | size => "Size"
  | completeness _ => "Completeness"
  | compliance _ _ => "Compliance"
  | patternMatch _ _ => "PatternMatch"
  | mean _ => "Mean"
  | sum _ => "Sum"
  | standardDeviation _ => "StandardDeviation"
  | minimum _ => "Minimum"
  | maximum _ => "Maximum"
  | minLength _ => "MinLength"
  | maxLength _ => "MaxLength"
  | correlation _ _ => "Correlation"
  | approxQuantile _ q _ => "ApproxQuantile-" ++ q.text
  | approxCountDistinct _ => "ApproxCountDistinct"
  | uniqueness _ => "Uniqueness"
  | distinctness _ => "Distinctness"
  | uniqueValueRatio _ => "UniqueValueRatio"
  | countDistinct _ => "CountDistinct"
  | entropy _ => "Entropy"
  | mutualInformation _ _ => "MutualInformation"
  | histogram _ _ => "Histogram"
  | dataType _ => "DataType"

/-- What a statistic describes: the dataset, one column, or several. -/
def entity : Statistic → Entity
  | size => .dataset
  | correlation _ _ | mutualInformation _ _ => .multicolumn
  | uniqueness cs | distinctness cs | uniqueValueRatio cs | countDistinct cs =>
    if cs.length == 1 then .column else .multicolumn
  | _ => .column

/-- The columns a statistic describes, as text. -/
def subject : Statistic → String
  | size => "*"
  | compliance s _ => s
  | correlation a b | mutualInformation a b => a ++ "," ++ b
  | uniqueness cs | distinctness cs | uniqueValueRatio cs | countDistinct cs => ",".intercalate cs
  | completeness c | patternMatch c _ | mean c | sum c | standardDeviation c | minimum c
  | maximum c | minLength c | maxLength c | approxQuantile c _ _ | approxCountDistinct c
  | entropy c | histogram c _ | dataType c => c

/-- The computation a statistic needs. -/
def computation : Statistic → Computation
  | size => .rowCount
  | completeness c => .nonNullCount c
  | compliance _ p => .predicateCount p
  | patternMatch c p => .patternCount c p
  | mean c | sum c | standardDeviation c => .moments c
  | minimum c | maximum c => .extrema c
  | minLength c | maxLength c => .lengthExtrema c
  | correlation a b => .correlation a b
  | approxQuantile c _ e => .quantiles c e
  | approxCountDistinct c => .distinctEstimate c
  | uniqueness cs | distinctness cs | uniqueValueRatio cs | countDistinct cs => .frequencies cs
  | entropy c | histogram c _ => .frequencies [c]
  | mutualInformation a b => .frequencies [a, b]
  | dataType c => .dataTypes c

end Statistic

/-- The problem with a column that must exist. -/
def requireColumn (schema : Schema) (column : String) : List String :=
  if schema.hasColumn column then [] else ["column '" ++ column ++ "' does not exist"]

/-- The problem with a column that must exist and hold numbers. -/
def requireNumeric (schema : Schema) (column : String) : List String :=
  match schema.column? column with
  | none => ["column '" ++ column ++ "' does not exist"]
  | some c =>
    if c.columnType.isNumeric then []
    else ["column '" ++ column ++ "' has type " ++ c.columnType.label ++
      ", expected a numeric type"]

/-- The problem with a column that must exist and have a given type. -/
def requireType (schema : Schema) (column : String) (expected : ColumnType) : List String :=
  match schema.column? column with
  | none => ["column '" ++ column ++ "' does not exist"]
  | some c =>
    if c.columnType == expected then []
    else ["column '" ++ column ++ "' has type " ++ c.columnType.label ++ ", expected " ++
      expected.label]

namespace Statistic

/-- The problems of a schema that keep a statistic from running, in order. -/
def preconditions (schema : Schema) : Statistic → List String
  | size | compliance _ _ => []
  | completeness c | approxCountDistinct c | entropy c | dataType c => requireColumn schema c
  | patternMatch c p =>
    requireType schema c .string ++ match Pattern.Regex.compile p with
      | .ok _ => []
      | .error e => ["invalid pattern '" ++ p ++ "': " ++ e]
  | mean c | sum c | standardDeviation c | minimum c | maximum c => requireNumeric schema c
  | minLength c | maxLength c => requireType schema c .string
  | correlation a b => requireNumeric schema a ++ requireNumeric schema b
  | approxQuantile c q e =>
    requireNumeric schema c ++
      (if q.inUnitInterval then [] else ["quantile " ++ q.text ++ " is outside [0, 1]"]) ++
      (if e.value > 0 && e.value < 1 then []
       else ["relative error " ++ e.text ++ " is outside (0, 1)"])
  | uniqueness cs | distinctness cs | uniqueValueRatio cs | countDistinct cs =>
    (if cs.isEmpty then ["at least one column is required"] else []) ++
      cs.flatMap (requireColumn schema)
  | mutualInformation a b => requireColumn schema a ++ requireColumn schema b
  | histogram c bins =>
    requireColumn schema c ++ (if bins == 0 then ["histogram needs at least one bin"] else [])

end Statistic

namespace Analyzer

instance : Ord Analyzer :=
  ⟨fun a b => (a.statistic.cmp b.statistic).then (compare a.filter b.filter)⟩

instance : BEq Analyzer := ⟨fun a b => compare a b == .eq⟩

/-- The name of the analyzer's metric. -/
def name (a : Analyzer) : String := a.statistic.name

/-- What the analyzer's metric describes. -/
def entity (a : Analyzer) : Entity := a.statistic.entity

/-- The columns the analyzer's metric describes, as text. -/
def subject (a : Analyzer) : String := a.statistic.subject

/-- What has to be scanned for the analyzer. -/
def descriptor (a : Analyzer) : Descriptor := ⟨a.statistic.computation, a.filter⟩

/-- The problems of a schema that keep the analyzer from running. -/
def preconditions (a : Analyzer) (schema : Schema) : List String :=
  a.statistic.preconditions schema

/-- The analyzer as text: name, columns in parentheses, and its filter. -/
def text (a : Analyzer) : String := a.name ++ "(" ++ a.subject ++ ")" ++ whereClause a.filter

/-- The metric of the analyzer with a given value or failure. -/
def metric (a : Analyzer) (value : Except MetricFailure MetricValue) : Metric :=
  ⟨a.entity, a.subject, a.name, value⟩

/-- The metric of the analyzer that failed. -/
def failed (a : Analyzer) (f : MetricFailure) : Metric := a.metric (.error f)

end Analyzer

end DataQuality
