import DataQuality.Analysis.Decode
import DataQuality.Data.Ordered

/-!
# Analyzer contexts

The metrics of one run, keyed by analyzer in analyzer order.  Two contexts merge into their
union, the second winning on shared analyzers.  The successful metrics flatten into scalar
rows, and the failed ones list with their failures.
-/

namespace DataQuality

/-- The metrics of a run by analyzer. -/
structure AnalyzerContext where
  metrics : List (Analyzer × Metric) := []
  deriving Inhabited

namespace AnalyzerContext

/-- The context of metrics given in any order, a later one for an analyzer winning. -/
def ofList (pairs : List (Analyzer × Metric)) : AnalyzerContext := ⟨Ordered.ofList pairs⟩

/-- The metric of an analyzer. -/
def metric? (c : AnalyzerContext) (a : Analyzer) : Option Metric := Ordered.get? a c.metrics

/-- The number of metrics. -/
def size (c : AnalyzerContext) : Nat := c.metrics.length

/-- Whether there is no metric. -/
def isEmpty (c : AnalyzerContext) : Bool := c.metrics.isEmpty

/-- The union of two contexts, the second winning on shared analyzers. -/
def merge (a b : AnalyzerContext) : AnalyzerContext := ⟨Ordered.union a.metrics b.metrics⟩

/-- The scalar rows of all metrics, in analyzer order. -/
def rows (c : AnalyzerContext) : List MetricRow := c.metrics.flatMap fun (_, m) => m.rows

/-- The analyzers whose metric failed, with the failure. -/
def failures (c : AnalyzerContext) : List (Analyzer × MetricFailure) :=
  c.metrics.filterMap fun (a, m) => m.failure?.map (a, ·)

end AnalyzerContext

open Json

/-- An analyzer with its metric, as a record. -/
def metricRecord (a : Analyzer) (m : Metric) : Json :=
  obj [("analyzer", a.toJson), ("metric", m.toJson)]

/-- Metrics as a list of records in analyzer order. -/
def metricRecords (metrics : List (Analyzer × Metric)) : Json :=
  arr (metrics.map fun (a, m) => metricRecord a m)

/-- A context as a document. -/
def AnalyzerContext.toJson (c : AnalyzerContext) : Json :=
  obj [("metrics", metricRecords c.metrics)]

/-- Reads a list of analyzer-metric records. -/
def metricRecordsFromJson : Decoder (List (Analyzer × Metric)) :=
  asList fun v => do return (← get v "analyzer" Analyzer.fromJson, ← get v "metric" Metric.fromJson)

/-- Reads a context. -/
def AnalyzerContext.fromJson : Decoder AnalyzerContext := fun v => do
  return AnalyzerContext.ofList (← get v "metrics" metricRecordsFromJson)

end DataQuality
