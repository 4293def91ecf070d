import DataQuality.Run.Context
import DataQuality.Run.Options
import DataQuality.Scan.Engine

/-!
# Running analyzers

A run computes the metrics of a set of analyzers over a table with as few scans as possible.
Analyzers are taken once each, in analyzer order.  Those whose preconditions fail on the schema
get a failed metric.  The others are grouped by descriptor, so that analyzers needing the same
aggregate share it, and descriptors are grouped by scan shape, so that each shape is one pass
over the table.  The aggregate of each descriptor is the merge of its partitions; stored
aggregates under the options' keys are merged into it, except for analyzers reported from fresh
data only.  A scan that fails becomes an analysis failure of the analyzers that needed it; only
repository problems fail the run.

The scans are made by an execution engine, any function from scan requests to the partition
aggregates of each descriptor asked about; an engine that answers for another number of
descriptors fails the whole group.  `runAnalysis` is a run with the in-memory engine.

The repository is any implementation of its operations in a monad `m`; options that need one
when none is given fail the run before anything is scanned.
-/

namespace DataQuality

/-- Why a run failed. -/
inductive RunnerError where
  /-- The repository failed. -/
  | repository (e : RepositoryError)
  /-- An option needs a repository and none was given, by the option's name. -/
  | repositoryRequired (purpose : String)
  /-- Stored results to reuse lacked some requested analyzers. -/
  | missingResults (key : String) (missing : Nat)
  deriving Inhabited

/-- The wording of a run failure. -/
def RunnerError.message : RunnerError → String
  | .repository e => "repository error: " ++ e.message
  | .repositoryRequired p => p ++ " requires a metrics repository"
  | .missingResults k n =>
    "no stored results under key " ++ k ++ " for " ++ toString n ++ " analyzer(s)"

/-- The order of scan strategies: aggregation first, then groupings by their columns. -/
def ScanStrategy.cmp : ScanStrategy → ScanStrategy → Ordering
  | .aggregation, .aggregation => .eq
  | .aggregation, .grouping _ => .lt
  | .grouping _, .aggregation => .gt
  | .grouping a, .grouping b => compare a b

instance : Ord ScanShape :=
  ⟨fun a b => (a.strategy.cmp b.strategy).then (compare a.filter b.filter)⟩

section

variable {m : Type → Type} [Monad m]

/-- A step of a run: it may fail with a run failure. -/
abbrev RunStep (m : Type → Type) := ExceptT RunnerError m

/-- The repository, or the failure naming the option that needed it. -/
def needRepository (repo : Option (Repository m)) (purpose : String) : RunStep m (Repository m) :=
  match repo with
  | some r => pure r
  | none => throw (.repositoryRequired purpose)

/-- A repository operation as a step of a run. -/
def repositoryStep {α : Type} (x : m (Except RepositoryError α)) : RunStep m α :=
  ExceptT.mk ((fun r => r.mapError RunnerError.repository) <$> x)

/-- The successful metrics stored under the key to reuse, and the analyzers still to compute. -/
def reuseStored (options : AnalysisOptions) (repo : Option (Repository m))
    (requested : List Analyzer) : RunStep m (List (Analyzer × Metric) × List Analyzer) := do
  match options.reuseResultsFor with
  | none => return ([], requested)
  | some key =>
    let r ← needRepository repo "reuse_results_for"
    let entry ← repositoryStep (r.load key)
    let found := requested.filterMap fun a => (entry.bind (·.successfulMetric? a)).map (a, ·)
    let pending := requested.filter fun a => (entry.bind (·.successfulMetric? a)).isNone
    if options.failIfResultsMissing && !pending.isEmpty then
      throw (.missingResults key.text pending.length)
    return (found, pending)

/-- The stored aggregates of each descriptor under the keys to aggregate with, in key order. -/
def priorStates (options : AnalysisOptions) (repo : Option (Repository m))
    (descriptors : List Descriptor) : RunStep m (List (Descriptor × List Aggregate)) := do
  if options.aggregateWith.isEmpty then return []
  let r ← needRepository repo "aggregate_with"
  let entries ← options.aggregateWith.mapM fun k => repositoryStep (r.load k)
  return descriptors.map fun d => (d, entries.filterMap fun e => e.bind (Ordered.get? d ·.states))

/-- Saves the final aggregates and the metrics under the keys the options name, each merged
into what is stored there. -/
def persist (options : AnalysisOptions) (repo : Option (Repository m))
    (metrics : List (Analyzer × Metric)) (states : List (Descriptor × Aggregate)) :
    RunStep m Unit := do
  let updates : List (ResultKey × Entry) := match options.saveStatesWith with
    | some k => [(k, { key := k, states })]
    | none => []
  let updates := match options.saveOrAppendResultsWith with
    | some k =>
      let base := (Ordered.get? k updates).getD { key := k }
      Ordered.put k { base with metrics := Ordered.union base.metrics metrics } updates
    | none => updates
  if updates.isEmpty then return
  let r ← needRepository repo "saving results"
  for (k, update) in updates do
    let existing ← repositoryStep (r.load k)
    let entry := match existing with
      | some e => e.append update
      | none => update
    repositoryStep (r.save entry)

end

/-- The aggregate of a descriptor, its partition aggregates merged from its empty aggregate, or
the text of why it could not be scanned or merged. -/
def mergeScan (d : Descriptor) (scan : Except ScanError (List Aggregate)) :
    Except String Aggregate := do
  let parts ← scan.mapError ScanError.message
  (Aggregate.mergeAll (Aggregate.empty d.computation) parts).mapError MergeError.message

/-- The merged aggregate of each descriptor of one shape, or the text of why it failed; the
outer failure is that of the shape's filter, or of an engine that answers for another number of
descriptors than it was asked about. -/
def scanGroup (engine : Engine) (shape : ScanShape) (ds : List Descriptor) :
    Except String (List (Except String Aggregate)) :=
  match engine ⟨shape, ds⟩ with
  | .error e => .error e.message
  | .ok scans =>
    if scans.length ≠ ds.length then
      .error ("engine returned " ++ toString scans.length ++ " result(s) for " ++
        toString ds.length ++ " descriptor(s)")
    else .ok (List.zipWith mergeScan ds scans)

/-- The metric of each analyzer from a fresh aggregate and the stored ones, and the aggregate to
keep for the descriptor. -/
def settle (options : AnalysisOptions) (dependents : List Analyzer) (fresh : Aggregate)
    (stored : List Aggregate) : List (Analyzer × Metric) × Aggregate :=
  let aggregated := Aggregate.mergeAll fresh stored
  let isFresh := fun (a : Analyzer) => options.forceFresh.any (compare a · == .eq)
  let metrics := dependents.map fun a =>
    if isFresh a then (a, a.computeMetric fresh)
    else match aggregated with
      | .ok agg => (a, a.computeMetric agg)
      | .error e => (a, a.failed ⟨.analysis, e.message⟩)
  let keep := match aggregated with
    | .ok agg => if dependents.all isFresh then fresh else agg
    | .error _ => fresh
  (metrics, keep)

/-- The failed metric of an analyzer whose preconditions fail on a schema, if they do. -/
def preconditionFailure (schema : Schema) (a : Analyzer) : Option Metric :=
  match a.preconditions schema with
  | [] => none
  | problems => some (a.failed ⟨.precondition, "; ".intercalate problems⟩)

/-- The analyzers whose preconditions hold on a schema, grouped by descriptor in descriptor
order, each group in the order given. -/
def groupByDescriptor (schema : Schema) (pending : List Analyzer) :
    List (Descriptor × List Analyzer) :=
  (pending.filter fun a => (preconditionFailure schema a).isNone).foldl
    (fun acc a => Ordered.push a.descriptor a acc) []

/-- The outcome of the scan of every grouped descriptor: the descriptors are grouped by scan
shape, and each shape is one pass over the table. -/
def scanOutcomes (engine : Engine) (byDescriptor : List (Descriptor × List Analyzer)) :
    List (Descriptor × Except String Aggregate) :=
  let byShape := byDescriptor.foldl (fun acc (d, _) => Ordered.push d.shape d acc) []
  byShape.flatMap fun (shape, ds) =>
    match scanGroup engine shape ds with
    | .ok states => ds.zip states
    | .error message => ds.map (·, .error message)

/-- Records the outcome of one descriptor: a failed scan fails the analyzers that needed it; a
fresh aggregate is settled with the stored ones into their metrics and the aggregate to keep. -/
def settleOutcome (options : AnalysisOptions) (byDescriptor : List (Descriptor × List Analyzer))
    (prior : List (Descriptor × List Aggregate))
    (acc : List (Analyzer × Metric) × List (Descriptor × Aggregate))
    (outcome : Descriptor × Except String Aggregate) :
    List (Analyzer × Metric) × List (Descriptor × Aggregate) :=
  let dependents := (Ordered.get? outcome.1 byDescriptor).getD []
  match outcome.2 with
  | .error message =>
    (Ordered.union acc.1 (dependents.map fun a => (a, a.failed ⟨.analysis, message⟩)), acc.2)
  | .ok fresh =>
    let (ms, keep) := settle options dependents fresh ((Ordered.get? outcome.1 prior).getD [])
    (Ordered.union acc.1 ms, Ordered.put outcome.1 keep acc.2)

/-- The stored aggregates of the entries found, grouped by descriptor, in the order of the
entries. -/
def groupStored (entries : List (Option Entry)) : List (Descriptor × List Aggregate) :=
  entries.foldl (fun acc e => match e with
    | some e => e.states.foldl (fun acc (d, s) => Ordered.push d s acc) acc
    | none => acc) []

/-- Records the metric of one analyzer from stored aggregates alone: its precondition failure,
the lack of a stored aggregate, or the metric of the merge of the stored aggregates of its
descriptor, which is kept. -/
def storedOutcome (schema : Schema) (stored : List (Descriptor × List Aggregate))
    (acc : List (Analyzer × Metric) × List (Descriptor × Aggregate)) (a : Analyzer) :
    List (Analyzer × Metric) × List (Descriptor × Aggregate) :=
  match preconditionFailure schema a with
  | some failure => (Ordered.put a failure acc.1, acc.2)
  | none =>
    let d := a.descriptor
    match Ordered.get? d stored with
    | none => (Ordered.put a (a.failed ⟨.insufficient, "no stored state for " ++ d.text⟩) acc.1,
        acc.2)
    | some aggs =>
      match Aggregate.mergeAll (Aggregate.empty d.computation) aggs with
      | .ok agg => (Ordered.put a (a.computeMetric agg) acc.1, Ordered.put d agg acc.2)
      | .error e => (Ordered.put a (a.failed ⟨.analysis, e.message⟩) acc.1, acc.2)

section

variable {m : Type → Type} [Monad m]

/-- Runs analyzers with an engine over a dataset of a schema, with a repository if one is
given. -/
def runAnalysisWith (options : AnalysisOptions) (repo : Option (Repository m)) (engine : Engine)
    (schema : Schema) (analyzers : List Analyzer) : m (Except RunnerError AnalyzerContext) :=
  ExceptT.run do
    if let some purpose := options.repositoryUse? then
      discard (needRepository repo purpose)
    let requested := Ordered.keysOf analyzers
    let (reused, pending) ← reuseStored options repo requested
    let failed := pending.filterMap fun a => (preconditionFailure schema a).map (a, ·)
    let byDescriptor := groupByDescriptor schema pending
    let prior ← priorStates options repo (byDescriptor.map (·.1))
    let (metrics, states) := (scanOutcomes engine byDescriptor).foldl
      (settleOutcome options byDescriptor prior) (Ordered.ofList (reused ++ failed), [])
    persist options repo metrics states
    return ⟨metrics⟩

/-- Runs analyzers over a table cut into `partitions` parts, with the in-memory engine. -/
def runAnalysis (options : AnalysisOptions) (repo : Option (Repository m)) (partitions : Nat)
    (table : Table) (analyzers : List Analyzer) : m (Except RunnerError AnalyzerContext) :=
  runAnalysisWith options repo (scanPartitions table partitions) table.schema analyzers

/-- Computes metrics from the aggregates stored under some keys alone, without a table; needs a
repository. -/
def runOnStoredStates (options : AnalysisOptions) (repo : Option (Repository m)) (schema : Schema)
    (analyzers : List Analyzer) (keys : List ResultKey) : m (Except RunnerError AnalyzerContext) :=
  ExceptT.run do
    let r ← needRepository repo "run_on_aggregated_states"
    let entries ← keys.mapM fun k => repositoryStep (r.load k)
    let (metrics, states) :=
      (Ordered.keysOf analyzers).foldl (storedOutcome schema (groupStored entries)) ([], [])
    persist options repo metrics states
    return ⟨metrics⟩

end

end DataQuality
