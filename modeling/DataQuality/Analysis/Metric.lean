import DataQuality.Data.Tally
import DataQuality.Decimal.Arithmetic
import DataQuality.Decimal.Layout

/-!
# Metrics

A metric is the outcome of one analyzer: what it describes (the dataset, a column, or several
columns), the subject (which columns), its name, and either a value or a failure.  A value is
a double, a whole number, or a distribution of counts over named bins.  A failure says whether
the analyzer could not run on the schema, the scan or merge failed, or the data did not suffice.

A metric flattens into scalar rows: one row for a number, and for a distribution one row for
the number of bins and two (absolute count and ratio) for each bin.
-/

namespace DataQuality

open Decimal

/-- What a metric describes. -/
inductive Entity where
  | dataset
  | column
  | multicolumn
  deriving BEq, DecidableEq, Inhabited, Repr

/-- The name of an entity in lower case. -/
def Entity.key : Entity → String
  | .dataset => "dataset"
  | .column => "column"
  | .multicolumn => "multicolumn"

/-- The name of an entity, capitalised. -/
def Entity.label : Entity → String
  | .dataset => "Dataset"
  | .column => "Column"
  | .multicolumn => "Multicolumn"

/-- The count and share of one bin. -/
structure BinShare where
  absolute : UInt64
  ratio : Float
  deriving Inhabited

/-- Counts over named bins, in order of bin name, with the number of bins before any were
dropped. -/
structure Distribution where
  values : List (String × BinShare) := []
  bins : UInt64 := 0
  deriving Inhabited

/-- The ratio of a bin, zero when the bin is absent. -/
def Distribution.ratioOf (d : Distribution) (bin : String) : Float :=
  ((d.values.find? (·.1 == bin)).map (·.2.ratio)).getD 0

/-- The value of a metric. -/
inductive MetricValue where
  | double (x : Float)
  | long (n : Int)
  | distribution (d : Distribution)
  deriving Inhabited

namespace MetricValue

/-- The number a value stands for; distributions have none. -/
def asFloat? : MetricValue → Option Float
  | double x => some x
  | long n => some (ofInt n)
  | distribution _ => none

/-- A value as text: the number, or the number of bins of a distribution. -/
def text : MetricValue → String
  | double x => plain x
  | long n => toString n
  | distribution d => "distribution(" ++ toString d.bins.toNat ++ " bins)"

end MetricValue

/-- Why a metric has no value. -/
inductive FailureKind where
  /-- The analyzer cannot run against the schema. -/
  | precondition
  /-- The scan or the merge failed. -/
  | analysis
  /-- The metric is undefined for the data seen. -/
  | insufficient
  deriving BEq, DecidableEq, Inhabited, Repr

/-- A failure with its message. -/
structure MetricFailure where
  kind : FailureKind
  message : String
  deriving BEq, Inhabited, Repr

/-- The failure of an analyzer whose data gave nothing to compute from. -/
def MetricFailure.noRows : MetricFailure := ⟨.insufficient, "no rows to compute the metric from"⟩

/-- A failure as text: its kind, then its message. -/
def MetricFailure.text (f : MetricFailure) : String :=
  let kind := match f.kind with
    | .precondition => "precondition violation"
    | .analysis => "analysis error"
    | .insufficient => "insufficient data"
  kind ++ ": " ++ f.message

/-- A scalar line of a metrics table. -/
structure MetricRow where
  entity : Entity
  subject : String
  name : String
  value : Float
  deriving Inhabited

/-- The outcome of one analyzer. -/
structure Metric where
  entity : Entity
  subject : String
  name : String
  value : Except MetricFailure MetricValue
  deriving Inhabited

namespace Metric

/-- Whether the metric has a value. -/
def isSuccess (m : Metric) : Bool := m.value matches .ok _

/-- The number of a metric, when it has one. -/
def asFloat? (m : Metric) : Option Float :=
  match m.value with
  | .ok v => v.asFloat?
  | .error _ => none

/-- The failure of a metric, when it failed. -/
def failure? (m : Metric) : Option MetricFailure :=
  match m.value with
  | .ok _ => none
  | .error f => some f

/-- The scalar rows of a metric: none for a failure, one for a number, and for a distribution
the bin count and then each bin's absolute count and ratio. -/
def rows (m : Metric) : List MetricRow :=
  let row := fun (name : String) (value : Float) => MetricRow.mk m.entity m.subject name value
  match m.value with
  | .ok (.distribution d) =>
    row (m.name ++ ".bins") (countToFloat d.bins) ::
      d.values.flatMap fun (bin, share) =>
        [row (m.name ++ ".abs." ++ bin) (countToFloat share.absolute),
          row (m.name ++ ".ratio." ++ bin) share.ratio]
  | .ok v => match v.asFloat? with
    | some x => [row m.name x]
    | none => []
  | .error _ => []

end Metric

end DataQuality
