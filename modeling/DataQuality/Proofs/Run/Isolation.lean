import Mathlib
import DataQuality.Proofs.Run.Coverage

/-!
# Analyzers run together do not interfere

A run against a repository kept in a state reports for each analyzer a metric that depends on the
analyzer, the options, the repository and the state it starts from, and on nothing else it is run
with (`metric?_runAnalysisWith`, `loadedMetric`): the metric it reuses is looked up by the
analyzer alone, and the metric it computes is settled from the outcome of the analyzer's own
descriptor, which an engine that answers each descriptor alone (`Engine.Answers`) gives whatever
the other descriptors of its scan, and from the aggregates stored for that descriptor.

So a run of many analyzers and a run of one of them alone, from the same state, report the same
metric for it (`runAnalysis_metric_independent`): a failed precondition, a filter or predicate
that does not compile, or a scan that fails for another analyzer leaves it as it is.
-/

namespace DataQuality

open Ordered

variable {σ : Type}

/-- The metric a run against a repository reports for an analyzer, from the state it starts in:
the successful metric of the entry it reuses, or else the metric settled from the analyzer's own
outcome and the aggregates stored for its descriptor under the keys it aggregates with. -/
def loadedMetric (options : AnalysisOptions) (repo : Option (Repository (StateM σ)))
    (schema : Schema) (out : Descriptor → Except String Aggregate) (s : σ) (a : Analyzer) :
    Metric :=
  match reusedMetric (reuseEntry options repo s) a with
  | some metric => metric
  | none => reportedMetric options schema
      (storedStates (priorEntries options repo (afterReuse options repo s))) out a

/-- The metric reported for an analyzer reads the stored aggregates only at its descriptor, and
only when its preconditions hold. -/
lemma reportedMetric_congr_stored {options : AnalysisOptions} {schema : Schema}
    {out : Descriptor → Except String Aggregate} {a : Analyzer}
    {stored stored' : Descriptor → List Aggregate}
    (h : preconditionFailure schema a = none → stored a.descriptor = stored' a.descriptor) :
    reportedMetric options schema stored out a = reportedMetric options schema stored' out a := by
  unfold reportedMetric
  cases hpre : preconditionFailure schema a with
  | some failure => rfl
  | none => rw [h hpre]

variable {options : AnalysisOptions} {repo : Option (Repository (StateM σ))} {engine : Engine}
  {schema : Schema} {analyzers : List Analyzer}

/-- With an engine that answers each descriptor alone, a run that succeeds reports for each
analyzer given the metric `loadedMetric` says, whatever the other analyzers. -/
theorem metric?_runAnalysisWith {out : Descriptor → Except String Aggregate}
    (hengine : Engine.Answers engine out) {s s' : σ} {ctx : AnalyzerContext}
    (h : (runAnalysisWith options repo engine schema analyzers).run s = (.ok ctx, s'))
    {a : Analyzer} (ha : a ∈ analyzers) :
    ctx.metric? a = some (loadedMetric options repo schema out s a) := by
  obtain ⟨reused, pending, prior, s₁, s₂, hreuse, hprior, rfl⟩ := runAnalysisWith_eq_ok h
  obtain ⟨rfl, rfl, rfl⟩ := reuseStored_eq_ok hreuse
  have hreq : a ∈ keysOf analyzers := mem_keysOf_iff.mpr ha
  rw [AnalyzerContext.metric?, loadedMetric]
  cases hfound : reusedMetric (reuseEntry options repo s) a with
  | some metric =>
    -- the metric reused is reported
    have hnot : a ∉ (keysOf analyzers).filter
        fun b => (reusedMetric (reuseEntry options repo s) b).isNone := by
      simp [hfound]
    rw [get?_runSettled_of_not_mem hnot, get?_ofList_filterMap_of_mem _ hreq, hfound]
  | none =>
    -- the analyzer is computed, against the aggregates stored for its own descriptor
    have hmem : a ∈ (keysOf analyzers).filter
        fun b => (reusedMetric (reuseEntry options repo s) b).isNone :=
      List.mem_filter.mpr ⟨hreq, by simp [hfound]⟩
    rw [get?_runSettled_of_mem hengine hmem]
    congr 1
    refine reportedMetric_congr_stored fun hpre => ?_
    obtain ⟨x, hx, hxd⟩ := exists_mem_groupByDescriptor hmem hpre
    exact priorStates_eq_ok hprior _ (List.mem_map.mpr ⟨x, hx, hxd⟩)

/-- A run of many analyzers over a table and a run of one of them alone, from the same state of
the repository and with the same options, report the same metric for it when both succeed. -/
theorem runAnalysis_metric_independent {k : Nat} {T : Table} {a : Analyzer} {s s₁ s₂ : σ}
    {ctx ctx₁ : AnalyzerContext} (ha : a ∈ analyzers)
    (h : (runAnalysis options repo k T analyzers).run s = (.ok ctx, s₁))
    (h₁ : (runAnalysis options repo k T [a]).run s = (.ok ctx₁, s₂)) :
    ∃ metric, ctx.metric? a = some metric ∧ ctx₁.metric? a = some metric :=
  ⟨_, metric?_runAnalysisWith (scanPartitions_answers T k) h ha,
    metric?_runAnalysisWith (scanPartitions_answers T k) h₁ (List.mem_singleton.mpr rfl)⟩

/-- Over `countsTable` cut in two, the size reported next to an analyzer of a missing column is the
size reported alone. -/
theorem runAnalysis_metric_independent_countsTable :
    ∃ ctx ctx₁, (runAnalysis {} (none : Option (Repository (StateM Unit))) 2 countsTable
          [{ statistic := .completeness "m" }, { statistic := .size }]).run () = (.ok ctx, ()) ∧
      (runAnalysis {} (none : Option (Repository (StateM Unit))) 2 countsTable
          [{ statistic := .size }]).run () = (.ok ctx₁, ()) ∧
      ∃ metric, ctx.metric? { statistic := .size } = some metric ∧
        ctx₁.metric? { statistic := .size } = some metric :=
  ⟨_, _, rfl, rfl, @runAnalysis_metric_independent Unit {} none
    [{ statistic := .completeness "m" }, { statistic := .size }] 2 countsTable
    { statistic := .size } () () () _ _ (by simp) rfl rfl⟩

end DataQuality
