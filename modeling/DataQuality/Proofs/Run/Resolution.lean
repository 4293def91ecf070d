import Mathlib
import DataQuality.Proofs.Metrics.Exact
import DataQuality.Proofs.Analysis.Kinds
import DataQuality.Proofs.Run.Filtering

/-!
# Preconditions that hold are all the engine needs

A run checks an analyzer's preconditions against the schema before it scans, and the engine
resolves the analyzer's columns, and compiles its pattern, again when it scans.  On a valid schema
the two agree: every analyzer but a compliance check whose preconditions hold resolves to a probe
(`Statistic.exists_probe`), since a column a precondition finds is found by the engine under its
lower-case name, and a pattern the precondition compiled compiles again.  A compliance check has
no preconditions: its predicate is read by the engine alone.

So in a run without a repository such an analyzer fails with an analysis error exactly when its
filter does not compile, and with the message of that failure (`analysisFailure_iff_filter`):
the probe of its descriptor resolves, the merge of its partitions succeeds
(`partitionOutcome_eq_error`), and a value computed from what the scan built never fails with
that kind (`Analyzer.valueFrom_not_analysis`).
-/

namespace DataQuality

open Ordered

/-! ## Resolution against a valid schema -/

section Probe

variable {s : Schema} (hv : s.validate = .ok ())

include hv

/-- On a valid schema, every statistic but a compliance check whose preconditions hold resolves
to a probe of the engine. -/
theorem Statistic.exists_probe {statistic : Statistic}
    (hnc : ∀ subject p, statistic ≠ .compliance subject p) (hpre : statistic.preconditions s = []) :
    ∃ probe, statistic.computation.probe (RowView.index s.names) = .ok probe := by
  -- each precondition that holds is a conjunction of the checks of the statistic's columns
  cases statistic <;>
    simp only [Statistic.preconditions, List.append_eq_nil_iff, List.flatMap_eq_nil_iff] at hpre
  case size => exact ⟨.rows, rfl⟩
  case compliance subject p => exact absurd rfl (hnc subject p)
  case completeness c | approxCountDistinct c | entropy c | dataType c =>
    obtain ⟨j, -, hres⟩ := Schema.exists_resolve hv (hasColumn_of_requireColumn hpre)
    simp [Statistic.computation, Computation.probe, hres]
  case histogram c bins =>
    obtain ⟨j, -, hres⟩ := Schema.exists_resolve hv (hasColumn_of_requireColumn hpre.1)
    simp [Statistic.computation, Computation.probe, hres]
  case mean c | sum c | standardDeviation c | minimum c | maximum c =>
    obtain ⟨j, -, hres⟩ := Schema.exists_resolve hv (hasColumn_of_requireNumeric hpre)
    simp [Statistic.computation, Computation.probe, hres]
  case approxQuantile c q e =>
    obtain ⟨j, -, hres⟩ := Schema.exists_resolve hv (hasColumn_of_requireNumeric hpre.1.1)
    simp [Statistic.computation, Computation.probe, hres]
  case minLength c | maxLength c =>
    obtain ⟨j, -, hres⟩ := Schema.exists_resolve hv (hasColumn_of_requireType hpre)
    simp [Statistic.computation, Computation.probe, hres]
  case correlation a b =>
    obtain ⟨i, -, hi⟩ := Schema.exists_resolve hv (hasColumn_of_requireNumeric hpre.1)
    obtain ⟨j, -, hj⟩ := Schema.exists_resolve hv (hasColumn_of_requireNumeric hpre.2)
    simp [Statistic.computation, Computation.probe, hi, hj, bind, Except.bind, pure, Except.pure]
  case mutualInformation a b =>
    obtain ⟨i, -, hi⟩ := Schema.exists_resolve hv (hasColumn_of_requireColumn hpre.1)
    obtain ⟨j, -, hj⟩ := Schema.exists_resolve hv (hasColumn_of_requireColumn hpre.2)
    simp [Statistic.computation, Computation.probe, hi, hj, bind, Except.bind, pure, Except.pure]
  case patternMatch c p =>
    -- the pattern the precondition compiled is the one the engine compiles
    obtain ⟨j, -, hres⟩ := Schema.exists_resolve hv (hasColumn_of_requireType hpre.1)
    cases hre : Pattern.Regex.compile p with
    | error e => simp [hre] at hpre
    | ok re => simp [Statistic.computation, Computation.probe, hre, hres]
  case uniqueness cs | distinctness cs | uniqueValueRatio cs | countDistinct cs =>
    obtain ⟨js, hjs, -⟩ := Schema.exists_resolveColumns hv fun c hc =>
      hasColumn_of_requireColumn (hpre.2 c hc)
    simp [Statistic.computation, Computation.probe, hjs]

end Probe

/-! ## The outcome of a descriptor that resolves -/

/-- A descriptor whose computation resolves fails in the in-memory engine only through its
filter, with the message of the filter's failure: the scans of its partitions always merge. -/
lemma partitionOutcome_eq_error {T : Table} {k : Nat} {d : Descriptor} {message : String}
    {probe : Probe} (hp : d.computation.probe (RowView.index T.schema.names) = .ok probe)
    (h : partitionOutcome T k d = .error message) :
    ∃ filter e, d.filter = some filter ∧
      compilePredicate (RowView.index T.schema.names) filter = .error e ∧ e.message = message := by
  unfold partitionOutcome at h
  dsimp only at h
  split at h
  · -- the filter does not compile
    rename_i e hf
    cases hfd : d.filter with
    | none => simp [hfd, Option.mapM, pure, Except.pure] at hf
    | some filter =>
      cases he : compilePredicate (RowView.index T.schema.names) filter with
      | ok P => simp [hfd, he, Option.mapM, Functor.map, Except.map] at hf
      | error e' =>
        simp only [hfd, he, Option.mapM_some, Functor.map, Except.map, Except.error.injEq] at hf
        cases h
        exact ⟨filter, e', rfl, he, congrArg ScanError.message hf⟩
  · -- the scans of the partitions are built through the probe, so their merge succeeds
    rename_i filter _
    have hparts : ∀ x ∈ (T.partitions (max k 1)).map (scanRows (RowView.index T.schema.names)
        filter probe (Aggregate.empty d.computation)), ∃ n, Aggregate.Accumulates d.computation n x :=
      fun x hx => by
        obtain ⟨part, -, rfl⟩ := List.mem_map.mp hx
        exact Aggregate.accumulates_scanRows hp filter .empty part
    obtain ⟨w, n, hw, -⟩ := Aggregate.mergeAll_accumulates .empty hparts
    simp [hp, mergeScan, Except.map, Except.mapError, bind, Except.bind, hw] at h

/-! ## Analysis failures in a run -/

section Run

variable {σ : Type} {options : AnalysisOptions}

/-- Without a repository a run reuses no metric and merges no stored aggregate: the metric of an
analyzer is the one reported from its outcome alone. -/
lemma loadedMetric_none (schema : Schema) (out : Descriptor → Except String Aggregate) (s : σ)
    (a : Analyzer) :
    loadedMetric options (none : Option (Repository (StateM σ))) schema out s a =
      reportedMetric options schema (fun _ => []) out a := by
  have hreuse : reuseEntry options (none : Option (Repository (StateM σ))) s = none := by
    unfold reuseEntry
    split <;> simp_all
  simp only [loadedMetric, hreuse, reusedMetric, Option.bind_none, priorEntries]
  rfl

/-- The metric settled from an aggregate with nothing stored is the metric computed from it,
whether or not the analyzer is reported from fresh data only. -/
lemma settledMetric_nil_ok (a : Analyzer) (fresh : Aggregate) :
    settledMetric options [] a (.ok fresh) = a.computeMetric fresh := by
  simp only [settledMetric]
  split <;> rfl

/-- In a run without a repository over a table of a valid schema, an analyzer other than a
compliance check whose preconditions hold fails with an analysis error exactly when its filter
does not compile, and with the message of that failure. -/
theorem analysisFailure_iff_filter {k : Nat} {T : Table} {analyzers : List Analyzer} {s s' : σ}
    {ctx : AnalyzerContext} (hv : T.schema.validate = .ok ())
    (hrun : (runAnalysis options (none : Option (Repository (StateM σ))) k T analyzers).run s =
      (.ok ctx, s'))
    {a : Analyzer} (ha : a ∈ analyzers) (hnc : ∀ subject p, a.statistic ≠ .compliance subject p)
    (hpre : a.preconditions T.schema = []) (message : String) :
    (ctx.metric? a).map Metric.value = some (.error ⟨.analysis, message⟩) ↔
      ∃ filter e, a.filter = some filter ∧
        compilePredicate (RowView.index T.schema.names) filter = .error e ∧ e.message = message := by
  obtain ⟨probe, hp⟩ := Statistic.exists_probe hv hnc hpre
  have hmetric : ctx.metric? a =
      some (settledMetric options [] a (partitionOutcome T k a.descriptor)) := by
    rw [metric?_runAnalysisWith (scanPartitions_answers T k) hrun ha, loadedMetric_none,
      reportedMetric, preconditionFailure, show a.preconditions T.schema = [] from hpre]
  rw [hmetric, Option.map_some, Option.some.injEq]
  cases hout : partitionOutcome T k a.descriptor with
  | error failure =>
    -- the outcome failed, through the filter and with its message
    obtain ⟨filter, e, hf, he, rfl⟩ := partitionOutcome_eq_error hp hout
    change a.filter = some filter at hf
    constructor
    · intro h
      simp only [settledMetric, Analyzer.failed, Analyzer.metric, Except.error.injEq,
        MetricFailure.mk.injEq, true_and] at h
      exact ⟨filter, e, hf, he, h⟩
    · rintro ⟨filter', e', hf', he', rfl⟩
      rw [hf, Option.some.injEq] at hf'
      subst hf'
      rw [he, Except.error.injEq] at he'
      subst he'
      rfl
  | ok fresh =>
    -- the outcome is an aggregate the scan built, whose value fails with no analysis error
    obtain ⟨n, hn⟩ := partitionOutcome_accumulates hout
    constructor
    · intro h
      rw [settledMetric_nil_ok, Analyzer.computeMetric, Analyzer.metric] at h
      exact absurd rfl (Analyzer.valueFrom_not_analysis hn h)
    · rintro ⟨filter, e, hf, he, -⟩
      have hfail : partitionOutcome T k a.descriptor = .error e.message := by
        rw [Analyzer.descriptor, hf]
        exact partitionOutcome_of_error he
      rw [hout] at hfail
      cases hfail

end Run

/-- The preconditions of an analyzer other than a compliance check are all the in-memory engine
needs on a valid schema: when they hold, the engine resolves the analyzer's descriptor, and in a
run without a repository the analyzer then fails with an analysis error exactly when its filter
does not compile, with the message of that failure. -/
theorem preconditions_suffice_for_engine :
    (∀ (S : Schema) (a : Analyzer), S.validate = .ok () →
      (∀ subject p, a.statistic ≠ .compliance subject p) → a.preconditions S = [] →
        ∃ probe, a.descriptor.computation.probe (RowView.index S.names) = .ok probe) ∧
    ∀ (σ : Type) (options : AnalysisOptions) (k : Nat) (T : Table) (analyzers : List Analyzer)
      (s s' : σ) (ctx : AnalyzerContext), T.schema.validate = .ok () →
      (runAnalysis options (none : Option (Repository (StateM σ))) k T analyzers).run s =
        (.ok ctx, s') →
      ∀ a ∈ analyzers, (∀ subject p, a.statistic ≠ .compliance subject p) →
        a.preconditions T.schema = [] → ∀ message : String,
          ((ctx.metric? a).map Metric.value = some (.error ⟨.analysis, message⟩) ↔
            ∃ filter e, a.filter = some filter ∧
              compilePredicate (RowView.index T.schema.names) filter = .error e ∧
                e.message = message) :=
  ⟨fun _ _ hv hnc hpre => Statistic.exists_probe hv hnc hpre,
    fun _ _ _ _ _ _ _ _ hv hrun _ ha hnc hpre message =>
      analysisFailure_iff_filter hv hrun ha hnc hpre message⟩

/-- Over `countsTable`, a completeness check of its column with an empty filter resolves, and a run
of it fails with the analysis error of its filter. -/
theorem preconditions_suffice_for_engine_countsTable :
    countsTable.schema.validate = .ok () ∧
      Analyzer.preconditions ⟨.completeness "n", some ""⟩ countsTable.schema = [] ∧
      (∃ probe, (Analyzer.descriptor ⟨.completeness "n", some ""⟩).computation.probe
        (RowView.index countsTable.schema.names) = .ok probe) ∧
      ∃ ctx, (runAnalysis {} (none : Option (Repository (StateM Unit))) 2 countsTable
          [⟨.completeness "n", some ""⟩]).run () = (.ok ctx, ()) ∧
        (ctx.metric? ⟨.completeness "n", some ""⟩).map Metric.value =
          some (.error ⟨.analysis, (ScanError.unsupportedExpression "").message⟩) := by
  have hv : countsTable.schema.validate = .ok () := rfl
  have hpre : Analyzer.preconditions ⟨.completeness "n", some ""⟩ countsTable.schema = [] :=
    rfl
  have hnc : ∀ subject p, Statistic.completeness "n" ≠ .compliance subject p :=
    fun _ _ h => nomatch h
  have hsuffice := preconditions_suffice_for_engine
  refine ⟨hv, hpre, hsuffice.1 _ _ hv hnc hpre, _, rfl, ?_⟩
  exact (hsuffice.2 Unit {} 2 countsTable _ () () _ hv rfl _ (List.mem_singleton.mpr rfl) hnc hpre
    _).mpr ⟨"", .unsupportedExpression "", rfl, rfl, rfl⟩

end DataQuality
