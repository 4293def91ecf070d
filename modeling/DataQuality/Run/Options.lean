import DataQuality.Repository.Entry

/-!
# Run options

How a run uses a metrics repository: stored aggregates to merge into the fresh ones, keys under
which to save the final aggregates or the metrics, a key whose successful metrics to reuse
instead of scanning, whether missing reused metrics fail the run, and the analyzers reported
from fresh data only.
-/

namespace DataQuality

/-- How a run uses a repository. -/
structure AnalysisOptions where
  /-- Stored aggregates under these keys are merged into the fresh ones. -/
  aggregateWith : List ResultKey := []
  /-- The final aggregates are saved under this key. -/
  saveStatesWith : Option ResultKey := none
  /-- The metrics are saved under this key, merged with what is stored there. -/
  saveOrAppendResultsWith : Option ResultKey := none
  /-- Successful metrics stored under this key are taken instead of scanning. -/
  reuseResultsFor : Option ResultKey := none
  /-- Whether a reused key missing some requested analyzer fails the run. -/
  failIfResultsMissing : Bool := false
  /-- Analyzers reported from fresh data only, in order, each once. -/
  forceFresh : List Analyzer := []
  deriving Inhabited

/-- The first option that needs a repository, by its name. -/
def AnalysisOptions.repositoryUse? (o : AnalysisOptions) : Option String :=
  if !o.aggregateWith.isEmpty then some "aggregate_with"
  else if o.saveStatesWith.isSome then some "save_states_with"
  else if o.saveOrAppendResultsWith.isSome then some "save_or_append_results_with"
  else if o.reuseResultsFor.isSome then some "reuse_results_for"
  else none

open Json

/-- Reads run options. -/
def AnalysisOptions.fromJson : Decoder AnalysisOptions := fun v => do
  let fresh ← getOr v "force_fresh" (asList Analyzer.fromJson) []
  return {
    aggregateWith := ← getOr v "aggregate_with" (asList ResultKey.fromJson) []
    saveStatesWith := ← getOpt v "save_states_with" ResultKey.fromJson
    saveOrAppendResultsWith := ← getOpt v "save_or_append_results_with" ResultKey.fromJson
    reuseResultsFor := ← getOpt v "reuse_results_for" ResultKey.fromJson
    failIfResultsMissing := ← getOr v "fail_if_results_missing" asBool false
    forceFresh := fresh.foldl (fun acc a => placeAnalyzer a acc) [] }

/-- Run options as a document. -/
def AnalysisOptions.toJson (o : AnalysisOptions) : Json :=
  obj [("aggregate_with", arr (o.aggregateWith.map ResultKey.toJson)),
    ("save_states_with", ofOption ResultKey.toJson o.saveStatesWith),
    ("save_or_append_results_with", ofOption ResultKey.toJson o.saveOrAppendResultsWith),
    ("reuse_results_for", ofOption ResultKey.toJson o.reuseResultsFor),
    ("fail_if_results_missing", bool o.failIfResultsMissing),
    ("force_fresh", arr (o.forceFresh.map Analyzer.toJson))]

end DataQuality
