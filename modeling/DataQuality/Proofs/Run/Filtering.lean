import Mathlib
import DataQuality.Proofs.Partitions
import DataQuality.Proofs.Run.Isolation

/-!
# A filter is a run over the rows it passes

An analyzer's filter is compiled once for its scan and then decides, row by row, which rows the
scan observes (`scanRows_some`).  So a run of an analyzer filtered by a text reports what the
filter means (`FilteredMetric`, `runAnalysis_withFilter_eq_filterRows`): when the text compiles
to a predicate, what the same analyzer without a filter reports over the table of the rows the
predicate passes (`Table.filterRows`), and otherwise the failure of the filter.  This holds over
one partition always, the empty scan of a table that no row passes merging into the empty
aggregate (`Aggregate.merge_empty_empty`), and over any number of partitions when the numbers of
the table are whole and the sums the analyzer takes fit (`Table.WholeSums`).  The filter set on
an analyzer replaces any filter it had: it is the analyzer without a filter that is run over the
rows passed.

With default options and no repository a run of one analyzer is the metric settled from the
analyzer's own outcome (`runAnalysisWith_default_single`), and that metric depends on the
analyzer's statistic and its outcome alone (`reportedMetric_default_congr`).
-/

namespace DataQuality

open Ordered

/-- The rows of a table, in order, that a predicate passes, under the same schema. -/
def Table.filterRows (T : Table) (P : Predicate) : Table :=
  ⟨T.schema, T.rows.filter (passesFilter (RowView.index T.schema.names) (some P))⟩

@[simp] lemma Table.schema_filterRows (T : Table) (P : Predicate) :
    (T.filterRows P).schema = T.schema := rfl

/-! ## Runs with default options -/

section Default

/-- A run with default options and no repository reuses nothing, aggregates with nothing and
computes every analyzer given. -/
lemma runAnalysisWith_default (engine : Engine) (schema : Schema) (analyzers : List Analyzer) :
    runAnalysisWith (m := Id) {} none engine schema analyzers =
      .ok ⟨(runSettled {} engine schema [] (keysOf analyzers) []).1⟩ := rfl

/-- With an engine that answers each descriptor alone, a run of one analyzer with default options
and no repository reports the metric settled from the analyzer's own outcome. -/
theorem runAnalysisWith_default_single {engine : Engine} {out : Descriptor → Except String Aggregate}
    (hengine : Engine.Answers engine out) (schema : Schema) (a : Analyzer) :
    runAnalysisWith (m := Id) {} none engine schema [a] =
      .ok ⟨[(a, reportedMetric {} schema (fun _ => []) out a)]⟩ := by
  have ha : a ∈ keysOf [a] := mem_keysOf_iff.mpr (List.mem_singleton.mpr rfl)
  -- the metrics hold one analyzer, the one given
  have hsingle : keysOf [a] = [a] := rfl
  have hkeys : (runSettled {} engine schema [] (keysOf [a]) []).1.map Prod.fst = [a] := by
    refine (map_fst_eq_keysOf sorted_runSettled fun b => ?_).trans hsingle
    rw [isSome_get?_runSettled, mem_keysOf_iff]
    simp [ofList]
  obtain ⟨⟨b, v⟩, hp, hb⟩ := List.map_eq_singleton_iff.mp hkeys
  rw [show b = a from hb] at hp
  -- under it they hold the metric settled from its outcome
  have hget : get? a (runSettled {} engine schema [] (keysOf [a]) []).1 =
      some (reportedMetric {} schema (fun _ => []) out a) := get?_runSettled_of_mem hengine ha
  rw [hp, get?_cons, if_pos Std.ReflCmp.compare_self] at hget
  have hv : v = reportedMetric {} schema (fun _ => []) out a := Option.some.inj hget
  rw [runAnalysisWith_default, hp, hv]

/-- An analyzer's preconditions read its statistic, not its filter. -/
lemma preconditionFailure_filter (schema : Schema) (a : Analyzer) (filter : Option String) :
    preconditionFailure schema { a with filter } = preconditionFailure schema a := rfl

/-- Two analyzers of one statistic report the same metric, with default options, from the same
outcome, whatever their filters. -/
lemma reportedMetric_default_congr {schema : Schema} {out out' : Descriptor → Except String Aggregate}
    {a b : Analyzer} (hs : a.statistic = b.statistic) (hout : out a.descriptor = out' b.descriptor) :
    reportedMetric {} schema (fun _ => []) out a = reportedMetric {} schema (fun _ => []) out' b := by
  obtain ⟨s, fa⟩ := a
  obtain ⟨s', fb⟩ := b
  cases hs
  unfold reportedMetric
  rw [hout]
  cases out' (Analyzer.descriptor ⟨s, fb⟩) <;> rfl

/-- An analyzer whose outcome is a failure reports the failure of its preconditions, or else that
failure, whatever the options and the stored aggregates. -/
lemma reportedMetric_of_error {options : AnalysisOptions} {schema : Schema}
    {stored : Descriptor → List Aggregate}
    {out : Descriptor → Except String Aggregate} {a : Analyzer} {message : String}
    (h : out a.descriptor = .error message) :
    reportedMetric options schema stored out a =
      (preconditionFailure schema a).getD (a.failed ⟨.analysis, message⟩) := by
  unfold reportedMetric
  rw [h]
  cases preconditionFailure schema a <;> rfl

end Default

/-! ## Scans through a filter -/

section Filter

variable {T : Table} {P : Predicate}

/-- A scan through a filter is the scan, with no filter, of the rows the filter passes. -/
lemma scanRows_some (index : List (String × Nat)) (P : Predicate) (probe : Probe)
    (start : Aggregate) (rows : List Row) :
    scanRows index (some P) probe start rows =
      scanRows index none probe start (rows.filter (passesFilter index (some P))) := by
  have hnone : passesFilter index none = fun _ => true := rfl
  rw [scanRows_eq_foldl, scanRows_eq_foldl, hnone, List.filter_true]

/-- Merging the empty aggregate of a computation into itself leaves it. -/
lemma Aggregate.merge_empty_empty (c : Computation) :
    Aggregate.merge (Aggregate.empty c) (Aggregate.empty c) = .ok (Aggregate.empty c) := by
  by_cases hk : (Aggregate.empty c).IsExact
  · simp only [Aggregate.merge, Aggregate.merge?_empty hk (Aggregate.conforms_empty c)]
  · -- the sums of doubles: zero and zero make zero
    cases c <;> simp only [Aggregate.empty, Aggregate.IsExact, not_true_eq_false] at hk <;> rfl

/-- Over one partition, the merged scan through a filter is the merged scan, with no filter, of
the rows the filter passes. -/
lemma mergeAll_filter_one (c : Computation) (probe : Probe) :
    Aggregate.mergeAll (Aggregate.empty c) ((T.partitions 1).map
        (scanRows (RowView.index T.schema.names) (some P) probe (Aggregate.empty c))) =
      Aggregate.mergeAll (Aggregate.empty c) (((T.filterRows P).partitions 1).map
        (scanRows (RowView.index T.schema.names) none probe (Aggregate.empty c))) := by
  rw [Table.partitions_one, Table.partitions_one]
  by_cases hT : T.rows = []
  · -- no rows, so none passes
    have hf : (T.filterRows P).rows = [] := by simp [Table.filterRows, hT]
    rw [if_pos hT, if_pos hf]
    rfl
  · rw [if_neg hT, List.map_singleton, scanRows_some]
    by_cases hf : (T.filterRows P).rows = []
    · -- no row passes: the scan is the empty aggregate, merged into itself
      have hscan : scanRows (RowView.index T.schema.names) none probe (Aggregate.empty c)
          (T.filterRows P).rows = Aggregate.empty c := by
        rw [hf]
        rfl
      rw [if_pos hf, List.map_nil]
      change Aggregate.mergeAll _ [scanRows _ none probe _ (T.filterRows P).rows] = _
      rw [hscan, Aggregate.mergeAll, List.foldlM_cons, Aggregate.merge_empty_empty]
      rfl
    · rw [if_neg hf, List.map_singleton]
      rfl

/-- The sums a computation takes over the rows a filter passes fit when they fit over the whole
table. -/
lemma Computation.ExactSums.filterRows {w : Row → Nat → Int} {c : Computation}
    (h : c.ExactSums T w) : c.ExactSums (T.filterRows P) w :=
  h.sublist rfl List.filter_sublist

/-- Over a table of whole numbers whose sums fit, the merged scans through a filter of any number
of partitions are the merged scans, with no filter, of the rows the filter passes. -/
lemma mergeAll_filter_of_exactSums {w : Row → Nat → Int} (hcells : WholeCells w T.rows)
    {c : Computation} (hc : c.ExactSums T w) {probe : Probe}
    (hp : c.probe (RowView.index T.schema.names) = .ok probe) (n : Nat) :
    Aggregate.mergeAll (Aggregate.empty c) ((T.partitions n).map
        (scanRows (RowView.index T.schema.names) (some P) probe (Aggregate.empty c))) =
      Aggregate.mergeAll (Aggregate.empty c) (((T.filterRows P).partitions n).map
        (scanRows (RowView.index T.schema.names) none probe (Aggregate.empty c))) := by
  have hcells' : WholeCells w (T.filterRows P).rows := fun r hr => hcells r (List.mem_of_mem_filter hr)
  have hfiltered := mergeAll_partitions_eq_scan (T := T.filterRows P) hcells' hc.filterRows hp none n
  rw [Table.schema_filterRows] at hfiltered
  rw [mergeAll_partitions_eq_scan hcells hc hp, hfiltered, scanRows_some]
  rfl

/-- The in-memory engine gives a descriptor filtered by a predicate that compiles the outcome it
gives the descriptor with no filter over the rows the predicate passes: over one partition, or
over any number when the numbers are whole and the sums fit. -/
lemma partitionOutcome_filterRows {k : Nat} {c : Computation} {f : String}
    (hP : compilePredicate (RowView.index T.schema.names) f = .ok P)
    (hk : k ≤ 1 ∨ ∃ w, WholeCells w T.rows ∧ c.ExactSums T w) :
    partitionOutcome T k ⟨c, some f⟩ = partitionOutcome (T.filterRows P) k ⟨c, none⟩ := by
  have hfilter : (some f).mapM (compilePredicate (RowView.index T.schema.names)) = .ok (some P) := by
    simp [Option.mapM, hP]
  unfold partitionOutcome
  simp only [Table.schema_filterRows, hfilter]
  cases hp : c.probe (RowView.index T.schema.names) with
  | error e => rfl
  | ok probe =>
    -- the merged scans of the partitions, through the filter and over the rows it passes
    have hmerge : Aggregate.mergeAll (Aggregate.empty c) ((T.partitions (max k 1)).map
          (scanRows (RowView.index T.schema.names) (some P) probe (Aggregate.empty c))) =
        Aggregate.mergeAll (Aggregate.empty c) (((T.filterRows P).partitions (max k 1)).map
          (scanRows (RowView.index T.schema.names) none probe (Aggregate.empty c))) := by
      rcases hk with hk | ⟨w, hcells, hc⟩
      · rw [show max k 1 = 1 by omega]
        exact mergeAll_filter_one c probe
      · exact mergeAll_filter_of_exactSums hcells hc hp _
    simp only [Except.map, mergeScan, Except.mapError, bind, Except.bind, hmerge]
    rfl

/-- The in-memory engine fails a descriptor whose filter does not compile, with the reason. -/
lemma partitionOutcome_of_error {k : Nat} {c : Computation} {f : String} {e : ScanError}
    (he : compilePredicate (RowView.index T.schema.names) f = .error e) :
    partitionOutcome T k ⟨c, some f⟩ = .error e.message := by
  simp [partitionOutcome, Option.mapM, he]

end Filter

/-- What a run of an analyzer filtered by a text reports, `metric`, when a filter is a run over
the rows it passes: when the text compiles to a predicate, the metric a run of the analyzer with
no filter reports over the rows of the table the predicate passes; when it does not, the failure
of the filter, unless the analyzer's preconditions fail first. -/
def FilteredMetric (k : Nat) (T : Table) (a : Analyzer) (f : String) (metric : Metric) : Prop :=
  match compilePredicate (RowView.index T.schema.names) f with
  | .ok P => runAnalysis (m := Id) {} none k (T.filterRows P) [{ a with filter := none }] =
      .ok ⟨[({ a with filter := none }, metric)]⟩
  | .error e => metric = (preconditionFailure T.schema a).getD (a.failed ⟨.analysis, e.message⟩)

/-- A run of an analyzer filtered by a text reports what a filter means (`FilteredMetric`): over
one partition always, and over any number of partitions when the numbers of the table are whole
and the sums the analyzer takes fit.  The filter replaces any the analyzer had. -/
theorem runAnalysis_withFilter_eq_filterRows {k : Nat} {T : Table} {a : Analyzer} {f : String}
    (hk : k ≤ 1 ∨ ∃ w, T.WholeSums w [a]) :
    ∃ metric, runAnalysis (m := Id) {} none k T [{ a with filter := some f }] =
        .ok ⟨[({ a with filter := some f }, metric)]⟩ ∧ FilteredMetric k T a f metric := by
  refine ⟨_, runAnalysisWith_default_single (scanPartitions_answers T k) _ _, ?_⟩
  unfold FilteredMetric
  cases hP : compilePredicate (RowView.index T.schema.names) f with
  | ok P =>
    -- the sums of the analyzer's computation fit whenever the table's do
    have hk' : k ≤ 1 ∨ ∃ w, WholeCells w T.rows ∧ a.statistic.computation.ExactSums T w := by
      rcases hk with hk | ⟨w, hw⟩
      · exact .inl hk
      · exact .inr ⟨w, hw.cells, hw.sums a (List.mem_singleton.mpr rfl)⟩
    have hmetric : reportedMetric {} T.schema (fun _ => []) (partitionOutcome (T.filterRows P) k)
          { a with filter := none } =
        reportedMetric {} T.schema (fun _ => []) (partitionOutcome T k) { a with filter := some f } :=
      reportedMetric_default_congr rfl (partitionOutcome_filterRows hP hk').symm
    show runAnalysisWith (m := Id) {} none (scanPartitions (T.filterRows P) k) T.schema
      [{ a with filter := none }] = _
    rw [runAnalysisWith_default_single (scanPartitions_answers _ k), hmetric]
  | error e =>
    -- the outcome is the failure of the filter
    show reportedMetric {} T.schema (fun _ => []) (partitionOutcome T k) { a with filter := some f } = _
    rw [@reportedMetric_of_error {} T.schema (fun _ => []) (partitionOutcome T k)
      { a with filter := some f } e.message (partitionOutcome_of_error hP), preconditionFailure_filter]
    rfl

/-- Over `countsTable`, its size filtered by `n > 1` is what the filter means. -/
theorem runAnalysis_withFilter_eq_filterRows_countsTable :
    (1 ≤ 1 ∨ ∃ w, countsTable.WholeSums w [{ statistic := .size }]) ∧
      ∃ metric, runAnalysis (m := Id) {} none 1 countsTable
          [{ statistic := .size, filter := some "n > 1" }] =
          .ok ⟨[({ statistic := .size, filter := some "n > 1" }, metric)]⟩ ∧
        FilteredMetric 1 countsTable { statistic := .size } "n > 1" metric :=
  ⟨.inl le_rfl, @runAnalysis_withFilter_eq_filterRows 1 countsTable { statistic := .size } "n > 1"
    (.inl le_rfl)⟩

end DataQuality
