import DataQuality.Check.Basic
import DataQuality.Json.Decode

/-!
# Constraint specifications

The constraints a suite file can declare, each under a `kind` name with its own members, and
the bounds their assertions take.  A specification adds its constraints to a check through the
check's builders; most add one constraint on a standard analyzer, `is_primary_key` adds one per
key column and one more for the key as a whole.

A document form is written and read for every specification: the kind tag, then the members,
the bound as `{"at_least": x}` or `{"between": {"min": a, "max": b}}`.
-/

namespace DataQuality

open Json

/-- A bound on a number, as a suite file writes an assertion. -/
inductive Bound where
  | equals (x : Float)
  | atLeast (x : Float)
  | atMost (x : Float)
  | greaterThan (x : Float)
  | lessThan (x : Float)
  | between (min max : Float)
  deriving Inhabited

namespace Bound

/-- The assertion a bound stands for. -/
def toAssertion : Bound → Assertion
  | .equals x => .equals x
  | .atLeast x => .atLeast x
  | .atMost x => .atMost x
  | .greaterThan x => .greaterThan x
  | .lessThan x => .lessThan x
  | .between a b => .between a b

/-- The document of a bound. -/
def toJson : Bound → Json
  | .equals x => obj [("equals", float x)]
  | .atLeast x => obj [("at_least", float x)]
  | .atMost x => obj [("at_most", float x)]
  | .greaterThan x => obj [("greater_than", float x)]
  | .lessThan x => obj [("less_than", float x)]
  | .between a b => obj [("between", obj [("min", float a), ("max", float b)])]

/-- Reads a bound, its numbers by a given reader. -/
def fromJson (number : Decoder Float) : Decoder Bound
  | obj [("equals", x)] => .equals <$> number x
  | obj [("at_least", x)] => .atLeast <$> number x
  | obj [("at_most", x)] => .atMost <$> number x
  | obj [("greater_than", x)] => .greaterThan <$> number x
  | obj [("less_than", x)] => .lessThan <$> number x
  | obj [("between", r)] => do return .between (← get r "min" number) (← get r "max" number)
  | _ => .error "expected an assertion"

end Bound

/-- A constraint as a suite file declares it. -/
inductive ConstraintSpec where
  | hasSize (bound : Bound)
  | isComplete (column : String)
  | hasCompleteness (column : String) (bound : Bound)
  | isUnique (column : String)
  | isPrimaryKey (columns : List String)
  | hasUniqueness (columns : List String) (bound : Bound)
  | hasDistinctness (columns : List String) (bound : Bound)
  | hasUniqueValueRatio (columns : List String) (bound : Bound)
  | hasNumberOfDistinctValues (column : String) (bound : Bound)
  | hasHistogramBinRatio (column bin : String) (bound : Bound)
  | hasEntropy (column : String) (bound : Bound)
  | hasMutualInformation (first second : String) (bound : Bound)
  | hasApproxQuantile (column : String) (quantile : Float) (bound : Bound)
  | hasApproxCountDistinct (column : String) (bound : Bound)
  | hasMin (column : String) (bound : Bound)
  | hasMax (column : String) (bound : Bound)
  | hasMean (column : String) (bound : Bound)
  | hasSum (column : String) (bound : Bound)
  | hasStandardDeviation (column : String) (bound : Bound)
  | hasMinLength (column : String) (bound : Bound)
  | hasMaxLength (column : String) (bound : Bound)
  | hasCorrelation (first second : String) (bound : Bound)
  | satisfies (predicate name : String) (bound : Bound)
  | hasPattern (column pattern : String) (bound : Bound)
  | containsEmail (column : String) (bound : Bound)
  | containsUrl (column : String) (bound : Bound)
  | isNonNegative (column : String)
  | isPositive (column : String)
  | isContainedIn (column : String) (allowed : List String)
  | isContainedInRange (column : String) (lower upper : Float)
  | hasDataType (column : String) (kind : DataClass) (bound : Bound)
  deriving Inhabited

/-- The name of a class of cells in a suite file. -/
def DataClass.key : DataClass → String
  | .unknown => "unknown"
  | .integral => "integral"
  | .fractional => "fractional"
  | .boolean => "boolean"
  | .string => "string"

/-- The class of cells a suite file names. -/
def DataClass.ofKey? (key : String) : Option DataClass :=
  DataClass.all.find? (·.key == key)

namespace ConstraintSpec

/-- The kind names, in the order of the constructors. -/
def kinds : List String :=
  ["has_size", "is_complete", "has_completeness", "is_unique", "is_primary_key", "has_uniqueness",
    "has_distinctness", "has_unique_value_ratio", "has_number_of_distinct_values",
    "has_histogram_bin_ratio", "has_entropy", "has_mutual_information", "has_approx_quantile",
    "has_approx_count_distinct", "has_min", "has_max", "has_mean", "has_sum",
    "has_standard_deviation", "has_min_length", "has_max_length", "has_correlation", "satisfies",
    "has_pattern", "contains_email", "contains_url", "is_non_negative", "is_positive",
    "is_contained_in", "is_contained_in_range", "has_data_type"]

/-- The kind name of a specification. -/
def kind : ConstraintSpec → String
  | .hasSize _ => "has_size"
  | .isComplete _ => "is_complete"
  | .hasCompleteness _ _ => "has_completeness"
  | .isUnique _ => "is_unique"
  | .isPrimaryKey _ => "is_primary_key"
  | .hasUniqueness _ _ => "has_uniqueness"
  | .hasDistinctness _ _ => "has_distinctness"
  | .hasUniqueValueRatio _ _ => "has_unique_value_ratio"
  | .hasNumberOfDistinctValues _ _ => "has_number_of_distinct_values"
  | .hasHistogramBinRatio _ _ _ => "has_histogram_bin_ratio"
  | .hasEntropy _ _ => "has_entropy"
  | .hasMutualInformation _ _ _ => "has_mutual_information"
  | .hasApproxQuantile _ _ _ => "has_approx_quantile"
  | .hasApproxCountDistinct _ _ => "has_approx_count_distinct"
  | .hasMin _ _ => "has_min"
  | .hasMax _ _ => "has_max"
  | .hasMean _ _ => "has_mean"
  | .hasSum _ _ => "has_sum"
  | .hasStandardDeviation _ _ => "has_standard_deviation"
  | .hasMinLength _ _ => "has_min_length"
  | .hasMaxLength _ _ => "has_max_length"
  | .hasCorrelation _ _ _ => "has_correlation"
  | .satisfies _ _ _ => "satisfies"
  | .hasPattern _ _ _ => "has_pattern"
  | .containsEmail _ _ => "contains_email"
  | .containsUrl _ _ => "contains_url"
  | .isNonNegative _ => "is_non_negative"
  | .isPositive _ => "is_positive"
  | .isContainedIn _ _ => "is_contained_in"
  | .isContainedInRange _ _ _ => "is_contained_in_range"
  | .hasDataType _ _ _ => "has_data_type"

/-- The bound of a specification, if it has one. -/
def bound? : ConstraintSpec → Option Bound
  | .hasSize b | .hasCompleteness _ b | .hasUniqueness _ b | .hasDistinctness _ b
  | .hasUniqueValueRatio _ b | .hasNumberOfDistinctValues _ b | .hasHistogramBinRatio _ _ b
  | .hasEntropy _ b | .hasMutualInformation _ _ b | .hasApproxQuantile _ _ b
  | .hasApproxCountDistinct _ b | .hasMin _ b | .hasMax _ b | .hasMean _ b | .hasSum _ b
  | .hasStandardDeviation _ b | .hasMinLength _ b | .hasMaxLength _ b | .hasCorrelation _ _ b
  | .satisfies _ _ b | .hasPattern _ _ b | .containsEmail _ b | .containsUrl _ b
  | .hasDataType _ _ b => some b
  | _ => none

/-- The lists of a specification that must not be empty. -/
def lists : ConstraintSpec → List (List String)
  | .isPrimaryKey cs | .hasUniqueness cs _ | .hasDistinctness cs _ | .hasUniqueValueRatio cs _ => [cs]
  | .isContainedIn _ allowed => [allowed]
  | _ => []

/-- The members of a specification's document after its kind tag. -/
def members : ConstraintSpec → List (String × Json)
  | .hasSize b => [("assertion", b.toJson)]
  | .isComplete c | .isUnique c | .isNonNegative c | .isPositive c => [("column", str c)]
  | .isPrimaryKey cs => [("columns", texts cs)]
  | .hasUniqueness cs b | .hasDistinctness cs b | .hasUniqueValueRatio cs b =>
    [("columns", texts cs), ("assertion", b.toJson)]
  | .hasCompleteness c b | .hasNumberOfDistinctValues c b | .hasEntropy c b
  | .hasApproxCountDistinct c b | .hasMin c b | .hasMax c b | .hasMean c b | .hasSum c b
  | .hasStandardDeviation c b | .hasMinLength c b | .hasMaxLength c b | .containsEmail c b
  | .containsUrl c b => [("column", str c), ("assertion", b.toJson)]
  | .hasHistogramBinRatio c bin b => [("column", str c), ("bin", str bin), ("assertion", b.toJson)]
  | .hasMutualInformation x y b | .hasCorrelation x y b =>
    [("first", str x), ("second", str y), ("assertion", b.toJson)]
  | .hasApproxQuantile c q b => [("column", str c), ("quantile", float q), ("assertion", b.toJson)]
  | .satisfies p n b => [("predicate", str p), ("name", str n), ("assertion", b.toJson)]
  | .hasPattern c p b => [("column", str c), ("pattern", str p), ("assertion", b.toJson)]
  | .isContainedIn c allowed => [("column", str c), ("allowed", texts allowed)]
  | .isContainedInRange c lo hi => [("column", str c), ("lower", float lo), ("upper", float hi)]
  | .hasDataType c k b => [("column", str c), ("data_type", str k.key), ("assertion", b.toJson)]

/-- The document of a specification: its kind tag, then its members. -/
def toJson (s : ConstraintSpec) : List (String × Json) := ("kind", str s.kind) :: s.members

/-- Reads a list of texts. -/
def asTexts : Decoder (List String) := asList asString

/-- Reads the specification of a kind from the members of a document, numbers by a given
reader. -/
def fromJson (number : Decoder Float) (v : Json) : Except String ConstraintSpec := do
  let kindName ← get v "kind" asString
  let column := get v "column" asString
  let columns := get v "columns" asTexts
  let bound := get v "assertion" (Bound.fromJson number)
  let first := get v "first" asString
  let second := get v "second" asString
  match kindName with
  | "has_size" => return .hasSize (← bound)
  | "is_complete" => return .isComplete (← column)
  | "has_completeness" => return .hasCompleteness (← column) (← bound)
  | "is_unique" => return .isUnique (← column)
  | "is_primary_key" => return .isPrimaryKey (← columns)
  | "has_uniqueness" => return .hasUniqueness (← columns) (← bound)
  | "has_distinctness" => return .hasDistinctness (← columns) (← bound)
  | "has_unique_value_ratio" => return .hasUniqueValueRatio (← columns) (← bound)
  | "has_number_of_distinct_values" => return .hasNumberOfDistinctValues (← column) (← bound)
  | "has_histogram_bin_ratio" =>
    return .hasHistogramBinRatio (← column) (← get v "bin" asString) (← bound)
  | "has_entropy" => return .hasEntropy (← column) (← bound)
  | "has_mutual_information" => return .hasMutualInformation (← first) (← second) (← bound)
  | "has_approx_quantile" =>
    return .hasApproxQuantile (← column) (← get v "quantile" number) (← bound)
  | "has_approx_count_distinct" => return .hasApproxCountDistinct (← column) (← bound)
  | "has_min" => return .hasMin (← column) (← bound)
  | "has_max" => return .hasMax (← column) (← bound)
  | "has_mean" => return .hasMean (← column) (← bound)
  | "has_sum" => return .hasSum (← column) (← bound)
  | "has_standard_deviation" => return .hasStandardDeviation (← column) (← bound)
  | "has_min_length" => return .hasMinLength (← column) (← bound)
  | "has_max_length" => return .hasMaxLength (← column) (← bound)
  | "has_correlation" => return .hasCorrelation (← first) (← second) (← bound)
  | "satisfies" =>
    return .satisfies (← get v "predicate" asString) (← get v "name" asString) (← bound)
  | "has_pattern" => return .hasPattern (← column) (← get v "pattern" asString) (← bound)
  | "contains_email" => return .containsEmail (← column) (← bound)
  | "contains_url" => return .containsUrl (← column) (← bound)
  | "is_non_negative" => return .isNonNegative (← column)
  | "is_positive" => return .isPositive (← column)
  | "is_contained_in" => return .isContainedIn (← column) (← get v "allowed" asTexts)
  | "is_contained_in_range" =>
    return .isContainedInRange (← column) (← get v "lower" number) (← get v "upper" number)
  | "has_data_type" =>
    let key ← get v "data_type" asString
    match DataClass.ofKey? key with
    | some k => return .hasDataType (← column) k (← bound)
    | none => throw ("unknown data type " ++ key)
  | other => throw ("unknown constraint kind " ++ other)

open Check in
/-- Adds the constraints of a specification to a check. -/
def apply (c : Check) : ConstraintSpec → Check
  | .hasSize b => c.assertOn (plainAnalyzer .size) b.toAssertion
  | .isComplete col => c.assertOn (plainAnalyzer (.completeness col)) .isOne
  | .hasCompleteness col b => c.assertOn (plainAnalyzer (.completeness col)) b.toAssertion
  | .isUnique col => c.assertOn (plainAnalyzer (.uniqueness [col])) .isOne
  | .isPrimaryKey cols => c.isPrimaryKey cols
  | .hasUniqueness cols b => c.assertOn (plainAnalyzer (.uniqueness cols)) b.toAssertion
  | .hasDistinctness cols b => c.assertOn (plainAnalyzer (.distinctness cols)) b.toAssertion
  | .hasUniqueValueRatio cols b =>
    c.assertOn (plainAnalyzer (.uniqueValueRatio cols)) b.toAssertion
  | .hasNumberOfDistinctValues col b =>
    c.assertOn (plainAnalyzer (.countDistinct [col])) b.toAssertion
  | .hasHistogramBinRatio col bin b => c.hasHistogramBinRatio col bin b.toAssertion
  | .hasEntropy col b => c.assertOn (plainAnalyzer (.entropy col)) b.toAssertion
  | .hasMutualInformation x y b =>
    c.assertOn (plainAnalyzer (.mutualInformation x y)) b.toAssertion
  | .hasApproxQuantile col q b =>
    c.assertOn (plainAnalyzer (.approxQuantile col (.ofFloat q)
      (.ofFloat QuantileSketch.defaultAccuracy))) b.toAssertion
  | .hasApproxCountDistinct col b =>
    c.assertOn (plainAnalyzer (.approxCountDistinct col)) b.toAssertion
  | .hasMin col b => c.assertOn (plainAnalyzer (.minimum col)) b.toAssertion
  | .hasMax col b => c.assertOn (plainAnalyzer (.maximum col)) b.toAssertion
  | .hasMean col b => c.assertOn (plainAnalyzer (.mean col)) b.toAssertion
  | .hasSum col b => c.assertOn (plainAnalyzer (.sum col)) b.toAssertion
  | .hasStandardDeviation col b => c.assertOn (plainAnalyzer (.standardDeviation col)) b.toAssertion
  | .hasMinLength col b => c.assertOn (plainAnalyzer (.minLength col)) b.toAssertion
  | .hasMaxLength col b => c.assertOn (plainAnalyzer (.maxLength col)) b.toAssertion
  | .hasCorrelation x y b => c.assertOn (plainAnalyzer (.correlation x y)) b.toAssertion
  | .satisfies p n b => c.satisfies p n b.toAssertion
  | .hasPattern col p b => c.assertOn (plainAnalyzer (.patternMatch col p)) b.toAssertion
  | .containsEmail col b => c.assertOn (plainAnalyzer (.patternMatch col emailPattern)) b.toAssertion
  | .containsUrl col b => c.assertOn (plainAnalyzer (.patternMatch col urlPattern)) b.toAssertion
  | .isNonNegative col => c.isNonNegative col
  | .isPositive col => c.isPositive col
  | .isContainedIn col allowed => c.isContainedIn col allowed
  | .isContainedInRange col lo hi => c.isContainedInRange col lo hi
  | .hasDataType col k b => c.hasDataType col k b.toAssertion

end ConstraintSpec

/-- A declared constraint: a specification with an optional row filter and hint. -/
structure ConstraintConfig where
  spec : ConstraintSpec
  filter : Option String := none
  hint : Option String := none
  deriving Inhabited

namespace ConstraintConfig

/-- Adds the constraints of the declaration to a check, then restricts the last one to the
filter and gives it the hint. -/
def apply (c : Check) (k : ConstraintConfig) : Check :=
  let c := k.spec.apply c
  let c := match k.filter with
    | some f => c.whereFilter f
    | none => c
  match k.hint with
  | some h => c.withHint h
  | none => c

/-- The document of a declaration: the specification's members, then filter and hint. -/
def toJson (k : ConstraintConfig) : Json :=
  obj (k.spec.toJson ++ [("filter", ofOption str k.filter), ("hint", ofOption str k.hint)])

/-- Reads a declaration, numbers by a given reader. -/
def fromJson (number : Decoder Float) (v : Json) : Except String ConstraintConfig := do
  return ⟨← ConstraintSpec.fromJson number v, ← getOpt v "filter" asString,
    ← getOpt v "hint" asString⟩

end ConstraintConfig

end DataQuality
