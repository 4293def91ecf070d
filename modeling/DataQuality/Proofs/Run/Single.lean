import DataQuality.Proofs.Scan.Merge
import DataQuality.Proofs.Analysis.Order
import DataQuality.Proofs.Run.Engine

/-!
# A run of one analyzer

A run with default options and no repository, over one analyzer whose preconditions hold, scans
the table once for the analyzer's descriptor and reports the metric the analyzer reads off the
merged aggregate (`runAnalysis_single`).  When the descriptor's filter and probe resolve and its
aggregate merges exactly, the merged aggregate is the scan of all the rows of the table from the
empty aggregate, however many partitions the table was cut into (`scanGroup_single`).
-/

namespace DataQuality

/-- The scan of one descriptor whose filter and probe resolve and whose kind merges exactly is the
scan of all the rows, for any number of partitions. -/
theorem scanGroup_single {T : Table} {k : Nat} {d : Descriptor} {filter : Option Predicate}
    {probe : Probe}
    (hfilter : d.filter.mapM (compilePredicate (RowView.index T.schema.names)) = .ok filter)
    (hprobe : d.computation.probe (RowView.index T.schema.names) = .ok probe)
    (hk : (Aggregate.empty d.computation).IsExact) :
    scanGroup (scanPartitions T k) d.shape [d] =
      .ok [.ok (scanRows (RowView.index T.schema.names) filter probe
        (Aggregate.empty d.computation) T.rows)] := by
  have hmerge := Aggregate.mergeAll_scans hk (Aggregate.conforms_empty d.computation)
    (RowView.index T.schema.names) filter probe (T.partitions (max k 1))
  rw [Table.flatten_partitions] at hmerge
  rw [scanGroup_scanPartitions]
  -- the filter either is absent or reads as a predicate
  cases hf : d.filter with
  | none =>
    obtain rfl : filter = none := by simpa [hf, pure, Except.pure] using hfilter.symm
    simp [mergeScan, scanPartitions_eq, Descriptor.shape, hf, hprobe, hmerge, pure, Except.pure,
      bind, Except.bind, Except.map, Except.mapError]
  | some f =>
    cases hP : compilePredicate (RowView.index T.schema.names) f with
    | error e => simp [hf, hP] at hfilter
    | ok P =>
      obtain rfl : filter = some P := by simpa [hf, hP] using hfilter.symm
      simp [mergeScan, scanPartitions_eq, Descriptor.shape, hf, hP, hprobe, hmerge, bind,
        Except.bind, Except.map, Except.mapError]

/-- A run of one analyzer whose preconditions hold reports the metric of the merged aggregate of
its descriptor. -/
theorem runAnalysis_single {T : Table} {k : Nat} {a : Analyzer} {fresh : Aggregate}
    (hpre : a.preconditions T.schema = [])
    (hscan : scanGroup (scanPartitions T k) a.descriptor.shape [a.descriptor] = .ok [.ok fresh]) :
    runAnalysis (m := Id) {} none k T [a] = .ok ⟨[(a, a.computeMetric fresh)]⟩ := by
  simp [runAnalysis, runAnalysisWith, preconditionFailure, hpre, Ordered.keysOf, Ordered.ofList, Ordered.put,
    Ordered.push, Ordered.get?, reuseStored, priorStates, AnalysisOptions.repositoryUse?, hscan,
    settle, Aggregate.mergeAll, Std.ReflCmp.compare_self, persist, Ordered.union, groupByDescriptor,
    scanOutcomes, settleOutcome]
  rfl

end DataQuality
