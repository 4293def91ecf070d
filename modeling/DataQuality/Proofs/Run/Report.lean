import Mathlib
import DataQuality.Proofs.Ordered
import DataQuality.Proofs.Analysis.Order
import DataQuality.Proofs.Run.WholeScan

/-!
# What a run reports

A run groups the analyzers to compute that pass their preconditions by descriptor
(`groupByDescriptor`), hands the descriptors to its engine one scan shape at a time
(`scanOutcomes`) and settles every outcome into the metrics of the analyzers of its group
(`settleOutcome`), over the metrics it reuses and the precondition failures (`runSettled`).

Whatever the engine answers, every grouped descriptor gets an outcome (`exists_mem_scanOutcomes`),
so the metrics a run reports cover exactly the analyzers it was to compute and those it reused
(`isSome_get?_runSettled`).  An engine that answers each descriptor alone (`Engine.Answers`),
as the in-memory engine does (`scanPartitions_answers`), gives each analyzer to compute the
metric settled from its own descriptor's outcome (`get?_runSettled_of_mem`, `reportedMetric`).
-/

namespace DataQuality

open Ordered

/-! ## Analyzers grouped by descriptor -/

section Grouping

variable {schema : Schema} {pending : List Analyzer}

lemma sorted_groupByDescriptor : Sorted (groupByDescriptor schema pending) :=
  sorted_foldl_push _ _ List.Pairwise.nil _

/-- The group of a descriptor holds the analyzers given that pass their preconditions and need
it. -/
lemma mem_getD_get?_groupByDescriptor {d : Descriptor} {a : Analyzer} :
    a ∈ (get? d (groupByDescriptor schema pending)).getD [] ↔
      a ∈ pending ∧ preconditionFailure schema a = none ∧ a.descriptor = d := by
  rw [groupByDescriptor, getD_get?_foldl_push]
  simp only [get?_nil, Option.getD_none, List.nil_append, List.map_id', List.mem_filter,
    beq_iff_eq, Std.LawfulEqCmp.compare_eq_iff_eq, Option.isNone_iff_eq_none]
  constructor
  · rintro ⟨⟨ha, hpre⟩, hd⟩
    exact ⟨ha, hpre, hd.symm⟩
  · rintro ⟨ha, hpre, hd⟩
    exact ⟨⟨ha, hpre⟩, hd.symm⟩

/-- The analyzers of each group are those given that pass their preconditions and need its
descriptor. -/
lemma mem_groupByDescriptor {x : Descriptor × List Analyzer} (hx : x ∈ groupByDescriptor schema pending)
    {a : Analyzer} :
    a ∈ x.2 ↔ a ∈ pending ∧ preconditionFailure schema a = none ∧ a.descriptor = x.1 := by
  rw [← mem_getD_get?_groupByDescriptor, get?_of_mem sorted_groupByDescriptor hx]
  rfl

/-- The descriptor of an analyzer that passes its preconditions has a group. -/
lemma exists_mem_groupByDescriptor {a : Analyzer} (ha : a ∈ pending)
    (hpre : preconditionFailure schema a = none) :
    ∃ x ∈ groupByDescriptor schema pending, x.1 = a.descriptor := by
  obtain ⟨x, hx, hax⟩ := exists_mem_foldl_push (fun a : Analyzer => a.descriptor) id
    (pending.filter fun a => (preconditionFailure schema a).isNone) []
    (List.mem_filter.mpr ⟨ha, by simp [hpre]⟩)
  exact ⟨x, hx, ((mem_groupByDescriptor hx).mp hax).2.2.symm⟩

end Grouping

/-! ## Outcomes of the scans -/

section Outcomes

/-- The grouped descriptors by scan shape, as a run groups them. -/
def shapeGroups (B : List (Descriptor × List Analyzer)) : List (ScanShape × List Descriptor) :=
  B.foldl (fun acc (d, _) => push d.shape d acc) []

/-- The grouped descriptors in the order a run scans them. -/
def scanOrder (B : List (Descriptor × List Analyzer)) : List Descriptor :=
  (shapeGroups B).flatMap (·.2)

/-- The outcome of each descriptor of one scan group: its merged aggregate, or the failure of the
whole group. -/
def groupOutcomes (engine : Engine) (shape : ScanShape) (ds : List Descriptor) :
    List (Descriptor × Except String Aggregate) :=
  match scanGroup engine shape ds with
  | .ok states => ds.zip states
  | .error message => ds.map (·, .error message)

variable {B : List (Descriptor × List Analyzer)} {engine : Engine}

lemma scanOutcomes_eq_flatMap (engine : Engine) (B : List (Descriptor × List Analyzer)) :
    scanOutcomes engine B = (shapeGroups B).flatMap fun g => groupOutcomes engine g.1 g.2 :=
  rfl

/-- A shape's group holds grouped descriptors of that shape. -/
lemma mem_shapeGroups {g : ScanShape × List Descriptor} (hg : g ∈ shapeGroups B) {d : Descriptor}
    (hd : d ∈ g.2) : d.shape = g.1 ∧ ∃ x ∈ B, x.1 = d := by
  have hds := eq_filter_of_mem_foldl_push (fun x : Descriptor × List Analyzer => x.1.shape)
    (fun x => x.1) B hg
  rw [hds] at hd
  obtain ⟨x, hx, rfl⟩ := List.mem_map.mp hd
  obtain ⟨hxB, hshape⟩ := List.mem_filter.mp hx
  rw [beq_iff_eq, Std.LawfulEqCmp.compare_eq_iff_eq] at hshape
  exact ⟨hshape.symm, x, hxB, rfl⟩

/-- A run scans exactly the grouped descriptors. -/
lemma mem_scanOrder {d : Descriptor} : d ∈ scanOrder B ↔ ∃ x ∈ B, x.1 = d := by
  constructor
  · intro hd
    obtain ⟨g, hg, hdg⟩ := List.mem_flatMap.mp hd
    exact (mem_shapeGroups hg hdg).2
  · rintro ⟨x, hx, rfl⟩
    obtain ⟨g, hg, hxg⟩ := exists_mem_foldl_push (fun x : Descriptor × List Analyzer => x.1.shape)
      (fun x => x.1) B [] hx
    exact List.mem_flatMap.mpr ⟨g, hg, hxg⟩

/-- Whatever the engine answers, every descriptor of a scan group has an outcome. -/
lemma exists_mem_groupOutcomes (engine : Engine) (shape : ScanShape) {ds : List Descriptor}
    {d : Descriptor} (hd : d ∈ ds) : ∃ o ∈ groupOutcomes engine shape ds, o.1 = d := by
  unfold groupOutcomes
  split
  · -- a group that succeeds has one outcome per descriptor
    rename_i states hstates
    have hfst : (ds.zip states).map Prod.fst = ds :=
      List.map_fst_zip (length_of_scanGroup_eq_ok hstates).ge
    rw [← hfst] at hd
    exact List.mem_map.mp hd
  · exact ⟨_, List.mem_map_of_mem hd, rfl⟩

/-- Every outcome of a scan group is that of a descriptor of the group. -/
lemma fst_mem_of_mem_groupOutcomes {shape : ScanShape} {ds : List Descriptor}
    {o : Descriptor × Except String Aggregate} (ho : o ∈ groupOutcomes engine shape ds) :
    o.1 ∈ ds := by
  unfold groupOutcomes at ho
  split at ho
  · exact (List.of_mem_zip ho).1
  · obtain ⟨d, hd, rfl⟩ := List.mem_map.mp ho
    exact hd

/-- Whatever the engine answers, every grouped descriptor has an outcome. -/
lemma exists_mem_scanOutcomes (engine : Engine) {x : Descriptor × List Analyzer} (hx : x ∈ B) :
    ∃ o ∈ scanOutcomes engine B, o.1 = x.1 := by
  obtain ⟨g, hg, hxg⟩ := exists_mem_foldl_push (fun x : Descriptor × List Analyzer => x.1.shape)
    (fun x => x.1) B [] hx
  obtain ⟨o, ho, hod⟩ := exists_mem_groupOutcomes engine g.1 hxg
  exact ⟨o, List.mem_flatMap.mpr ⟨g, hg, ho⟩, hod⟩

/-- Every outcome of a run's scans is that of a grouped descriptor. -/
lemma exists_of_mem_scanOutcomes {o : Descriptor × Except String Aggregate}
    (ho : o ∈ scanOutcomes engine B) : ∃ x ∈ B, x.1 = o.1 := by
  obtain ⟨g, hg, hog⟩ := List.mem_flatMap.mp ho
  exact (mem_shapeGroups hg (fst_mem_of_mem_groupOutcomes hog)).2

/-- An engine answers each descriptor by `out` when every scan group of descriptors of one shape
gives each of them the outcome `out` gives it, whatever the other descriptors of the group. -/
def Engine.Answers (engine : Engine) (out : Descriptor → Except String Aggregate) : Prop :=
  ∀ shape ds, (∀ d ∈ ds, d.shape = shape) →
    groupOutcomes engine shape ds = ds.map fun d => (d, out d)

/-- The scans of an engine that answers each descriptor by `out` give every grouped descriptor
its outcome, in scan order. -/
theorem scanOutcomes_of_answers {out : Descriptor → Except String Aggregate}
    (h : Engine.Answers engine out) (B : List (Descriptor × List Analyzer)) :
    scanOutcomes engine B = (scanOrder B).map fun d => (d, out d) := by
  rw [scanOutcomes_eq_flatMap, scanOrder, List.map_flatMap]
  exact List.flatMap_congr fun g hg => h g.1 g.2 fun d hd => (mem_shapeGroups hg hd).1

/-- The outcome the in-memory engine gives a descriptor over a table cut into `k` parts: the
failure of its filter, or the merge of its scans of the parts, or why they could not be made or
merged. -/
def partitionOutcome (T : Table) (k : Nat) (d : Descriptor) : Except String Aggregate :=
  let index := RowView.index T.schema.names
  match d.filter.mapM (compilePredicate index) with
  | .error e => .error e.message
  | .ok filter => mergeScan d ((d.computation.probe index).map fun probe =>
      (T.partitions (max k 1)).map (scanRows index filter probe (Aggregate.empty d.computation)))

/-- The in-memory engine answers each descriptor alone: a filter is shared by the whole group,
and every other step is the descriptor's own. -/
theorem scanPartitions_answers (T : Table) (k : Nat) :
    Engine.Answers (scanPartitions T k) (partitionOutcome T k) := by
  intro shape ds hds
  have hfilter : ∀ d ∈ ds, d.filter = shape.filter := fun d hd => by rw [← hds d hd]; rfl
  unfold groupOutcomes
  rw [scanGroup_scanPartitions, scanPartitions_eq]
  cases hf : shape.filter.mapM (compilePredicate (RowView.index T.schema.names)) with
  | error e =>
    refine List.map_congr_left fun d hd => ?_
    simp [partitionOutcome, hfilter d hd, hf]
  | ok filter =>
    simp only [Except.map, List.zipWith_map_right, List.zipWith_self]
    rw [← List.map_prod_left_eq_zip]
    refine List.map_congr_left fun d hd => ?_
    simp only [partitionOutcome, hfilter d hd, hf]
    rfl

end Outcomes

/-! ## Settled metrics -/

section Settling

/-- The metric an analyzer gets from the outcome of its descriptor's scan and the aggregates
stored for the descriptor: the failure of the scan; the metric of the fresh aggregate when the
analyzer is reported from fresh data only; else the metric of the merge of the fresh aggregate
with the stored ones, or the failure of the merge. -/
def settledMetric (options : AnalysisOptions) (stored : List Aggregate) (a : Analyzer) :
    Except String Aggregate → Metric
  | .error message => a.failed ⟨.analysis, message⟩
  | .ok fresh =>
    if options.forceFresh.any (compare a · == .eq) then a.computeMetric fresh
    else match Aggregate.mergeAll fresh stored with
      | .ok agg => a.computeMetric agg
      | .error e => a.failed ⟨.analysis, e.message⟩

variable {options : AnalysisOptions} {B : List (Descriptor × List Analyzer)}
  {prior : List (Descriptor × List Aggregate)}

/-- The metrics settling one outcome writes: those of the analyzers grouped under its
descriptor. -/
def settledMetrics (options : AnalysisOptions) (B : List (Descriptor × List Analyzer))
    (prior : List (Descriptor × List Aggregate)) (o : Descriptor × Except String Aggregate) :
    List (Analyzer × Metric) :=
  ((get? o.1 B).getD []).map fun a => (a, settledMetric options ((get? o.1 prior).getD []) a o.2)

lemma fst_settleOutcome (acc : List (Analyzer × Metric) × List (Descriptor × Aggregate))
    (o : Descriptor × Except String Aggregate) :
    (settleOutcome options B prior acc o).1 = union acc.1 (settledMetrics options B prior o) := by
  obtain ⟨d, _ | fresh⟩ := o
  · rfl
  · simp only [settleOutcome, settle, settledMetrics, settledMetric]
    congr 1
    refine List.map_congr_left fun a _ => ?_
    -- the analyzer is reported from fresh data, or from the merge, which may fail
    by_cases hf : options.forceFresh.any (compare a · == .eq)
    · simp [hf]
    · cases Aggregate.mergeAll fresh ((get? d prior).getD []) <;> simp [hf]

/-- Settling outcomes in turn writes their settled metrics into the metrics, in order. -/
lemma fst_foldl_settleOutcome (l : List (Descriptor × Except String Aggregate))
    (acc : List (Analyzer × Metric) × List (Descriptor × Aggregate)) :
    (l.foldl (settleOutcome options B prior) acc).1 =
      union acc.1 (l.flatMap (settledMetrics options B prior)) := by
  induction l generalizing acc with
  | nil => rfl
  | cons o l ih => rw [List.foldl_cons, ih, fst_settleOutcome, union, union, union,
      List.flatMap_cons, List.foldl_append]

end Settling

/-! ## The metrics of a run -/

section Metrics

/-- The metric a run reports for an analyzer it was to compute: the failure of its
preconditions, or the metric settled from the outcome of its descriptor's scan and the aggregates
stored for the descriptor. -/
def reportedMetric (options : AnalysisOptions) (schema : Schema)
    (stored : Descriptor → List Aggregate) (out : Descriptor → Except String Aggregate)
    (a : Analyzer) : Metric :=
  match preconditionFailure schema a with
  | some failure => failure
  | none => settledMetric options (stored a.descriptor) a (out a.descriptor)

/-- The failures of the analyzers whose preconditions fail. -/
def preconditionFailures (schema : Schema) (pending : List Analyzer) : List (Analyzer × Metric) :=
  pending.filterMap fun a => (preconditionFailure schema a).map (a, ·)

/-- What a run computes once it knows the metrics it reuses, the analyzers still to compute and
the stored aggregates: the metrics and the aggregates to keep. -/
def runSettled (options : AnalysisOptions) (engine : Engine) (schema : Schema)
    (reused : List (Analyzer × Metric)) (pending : List Analyzer)
    (prior : List (Descriptor × List Aggregate)) :
    List (Analyzer × Metric) × List (Descriptor × Aggregate) :=
  (scanOutcomes engine (groupByDescriptor schema pending)).foldl
    (settleOutcome options (groupByDescriptor schema pending) prior)
    (ofList (reused ++ preconditionFailures schema pending), [])

variable {options : AnalysisOptions} {schema : Schema} {pending : List Analyzer}
  {prior : List (Descriptor × List Aggregate)} {engine : Engine}
  {outcomes : List (Descriptor × Except String Aggregate)} {reused : List (Analyzer × Metric)}

/-- Every metric settled from outcomes is that of an analyzer to compute that passes its
preconditions, settled from the outcome of its own descriptor. -/
lemma mem_settledMetrics {p : Analyzer × Metric}
    (hp : p ∈ outcomes.flatMap (settledMetrics options (groupByDescriptor schema pending) prior)) :
    ∃ o ∈ outcomes, p.1 ∈ pending ∧ preconditionFailure schema p.1 = none ∧
      p.1.descriptor = o.1 ∧ p.2 = settledMetric options ((get? o.1 prior).getD []) p.1 o.2 := by
  obtain ⟨o, ho, hpo⟩ := List.mem_flatMap.mp hp
  obtain ⟨a, ha, rfl⟩ := List.mem_map.mp hpo
  obtain ⟨hpend, hpre, hd⟩ := mem_getD_get?_groupByDescriptor.mp ha
  exact ⟨o, ho, hpend, hpre, hd, rfl⟩

/-- A failure recorded for a precondition is that of an analyzer to compute. -/
lemma mem_preconditionFailures {p : Analyzer × Metric}
    (hp : p ∈ preconditionFailures schema pending) :
    p.1 ∈ pending ∧ preconditionFailure schema p.1 = some p.2 := by
  obtain ⟨a, ha, hap⟩ := List.mem_filterMap.mp hp
  obtain ⟨f, hf, rfl⟩ := Option.map_eq_some_iff.mp hap
  exact ⟨ha, hf⟩

/-- The metrics a run settles: those it reuses and the precondition failures, then the metrics
settled from each outcome in turn. -/
lemma fst_runSettled : (runSettled options engine schema reused pending prior).1 =
    union (ofList (reused ++ preconditionFailures schema pending))
      ((scanOutcomes engine (groupByDescriptor schema pending)).flatMap
        (settledMetrics options (groupByDescriptor schema pending) prior)) := by
  rw [runSettled, fst_foldl_settleOutcome]

/-- The metrics of a run are sorted by analyzer. -/
lemma sorted_runSettled : Sorted (runSettled options engine schema reused pending prior).1 := by
  rw [fst_runSettled]
  exact sorted_union (sorted_ofList _) _

/-- The lookup of an analyzer in the metrics a run settles: the metrics settled from the scans
first, then the precondition failures, then the metrics reused. -/
lemma get?_runSettled (a : Analyzer) :
    get? a (runSettled options engine schema reused pending prior).1 =
      ((get? a ((scanOutcomes engine (groupByDescriptor schema pending)).flatMap
        (settledMetrics options (groupByDescriptor schema pending) prior)).reverse).or
        (get? a (preconditionFailures schema pending).reverse)).or (get? a reused.reverse) := by
  rw [fst_runSettled, get?_union, get?_ofList, List.reverse_append, get?_append, Option.or_assoc]

/-- Neither the scans nor the precondition failures settle an analyzer that was not to be
computed. -/
lemma get?_settled_of_not_mem {a : Analyzer} (ha : a ∉ pending) :
    (get? a ((scanOutcomes engine (groupByDescriptor schema pending)).flatMap
        (settledMetrics options (groupByDescriptor schema pending) prior)).reverse).or
      (get? a (preconditionFailures schema pending).reverse) = none := by
  have hsettled : get? a ((scanOutcomes engine (groupByDescriptor schema pending)).flatMap
      (settledMetrics options (groupByDescriptor schema pending) prior)).reverse = none := by
    refine get?_eq_none fun p hp heq => ha ?_
    rw [Std.LawfulEqCmp.compare_eq_iff_eq.mp heq]
    obtain ⟨o, -, hpend, -⟩ := mem_settledMetrics (List.mem_reverse.mp hp)
    exact hpend
  have hfailed : get? a (preconditionFailures schema pending).reverse = none := by
    refine get?_eq_none fun p hp heq => ha ?_
    rw [Std.LawfulEqCmp.compare_eq_iff_eq.mp heq]
    exact (mem_preconditionFailures (List.mem_reverse.mp hp)).1
  rw [hsettled, hfailed]
  rfl

/-- A run reports the metric it reuses for an analyzer it was not to compute. -/
theorem get?_runSettled_of_not_mem {a : Analyzer} (ha : a ∉ pending) :
    get? a (runSettled options engine schema reused pending prior).1 = get? a (ofList reused) := by
  rw [get?_runSettled, get?_settled_of_not_mem ha, Option.none_or, get?_ofList]

/-- Whatever the engine answers, a run reports a metric for every analyzer it was to compute. -/
lemma isSome_get?_runSettled_of_mem {a : Analyzer} (ha : a ∈ pending) :
    (get? a (runSettled options engine schema reused pending prior).1).isSome := by
  rw [get?_runSettled]
  cases hpre : preconditionFailure schema a with
  | some failure =>
    -- the failure of its preconditions is recorded
    have hfailed : (a, failure) ∈ (preconditionFailures schema pending).reverse :=
      List.mem_reverse.mpr (List.mem_filterMap.mpr ⟨a, ha, by simp [hpre]⟩)
    have := isSome_get? hfailed Std.ReflCmp.compare_self
    simp only [Option.isSome_or, this, Bool.or_true, Bool.true_or]
  | none =>
    -- the outcome of its descriptor settles it
    obtain ⟨x, hx, hxd⟩ := exists_mem_groupByDescriptor ha hpre
    obtain ⟨o, ho, hox⟩ := exists_mem_scanOutcomes engine hx
    have hwritten : (a, settledMetric options ((get? o.1 prior).getD []) a o.2) ∈
        ((scanOutcomes engine (groupByDescriptor schema pending)).flatMap
          (settledMetrics options (groupByDescriptor schema pending) prior)).reverse :=
      List.mem_reverse.mpr (List.mem_flatMap.mpr ⟨o, ho, List.mem_map.mpr ⟨a,
        mem_getD_get?_groupByDescriptor.mpr ⟨ha, hpre, (hox.trans hxd).symm⟩, rfl⟩⟩)
    have := isSome_get? hwritten Std.ReflCmp.compare_self
    simp only [Option.isSome_or, this, Bool.true_or]

/-- Whatever the engine answers, a run reports a metric for every analyzer it was to compute and
every analyzer it reuses, and for no other. -/
theorem isSome_get?_runSettled (a : Analyzer) :
    (get? a (runSettled options engine schema reused pending prior).1).isSome ↔
      a ∈ pending ∨ (get? a (ofList reused)).isSome := by
  by_cases ha : a ∈ pending
  · exact iff_of_true (isSome_get?_runSettled_of_mem ha) (.inl ha)
  · rw [get?_runSettled_of_not_mem ha]
    simp [ha]

/-- With an engine that answers each descriptor by `out`, a run reports for every analyzer it was
to compute the metric `reportedMetric` says. -/
theorem get?_runSettled_of_mem {out : Descriptor → Except String Aggregate}
    (hengine : Engine.Answers engine out) {a : Analyzer} (ha : a ∈ pending) :
    get? a (runSettled options engine schema reused pending prior).1 =
      some (reportedMetric options schema (fun d => (get? d prior).getD []) out a) := by
  rw [get?_runSettled]
  cases hpre : preconditionFailure schema a with
  | some failure =>
    -- no outcome settles the analyzer: only its failure is recorded
    have hnone : get? a ((scanOutcomes engine (groupByDescriptor schema pending)).flatMap
        (settledMetrics options (groupByDescriptor schema pending) prior)).reverse = none := by
      refine get?_eq_none fun p hp heq => ?_
      rw [Std.LawfulEqCmp.compare_eq_iff_eq] at heq
      obtain ⟨o, -, -, hnone, -⟩ := mem_settledMetrics (List.mem_reverse.mp hp)
      rw [← heq, hpre] at hnone
      cases hnone
    have hfailed : get? a (preconditionFailures schema pending).reverse = some failure := by
      refine get?_of_forall_eq (fun p hp heq => ?_)
        ⟨(a, failure), ?_, Std.ReflCmp.compare_self⟩
      · rw [Std.LawfulEqCmp.compare_eq_iff_eq] at heq
        have := (mem_preconditionFailures (List.mem_reverse.mp hp)).2
        rw [← heq, hpre] at this
        exact (Option.some.inj this).symm
      · exact List.mem_reverse.mpr (List.mem_filterMap.mpr ⟨a, ha, by simp [hpre]⟩)
    rw [hnone, hfailed, reportedMetric, hpre]
    rfl
  | none =>
    -- the outcome of the analyzer's descriptor settles it, and every outcome is `out`'s
    have hout : ∀ o ∈ scanOutcomes engine (groupByDescriptor schema pending), o.2 = out o.1 := by
      intro o ho
      rw [scanOutcomes_of_answers hengine] at ho
      obtain ⟨d, -, rfl⟩ := List.mem_map.mp ho
      rfl
    obtain ⟨x, hx, hxd⟩ := exists_mem_groupByDescriptor ha hpre
    obtain ⟨o, ho, hox⟩ := exists_mem_scanOutcomes engine hx
    have hwritten : (a, settledMetric options ((get? o.1 prior).getD []) a o.2) ∈
        ((scanOutcomes engine (groupByDescriptor schema pending)).flatMap
          (settledMetrics options (groupByDescriptor schema pending) prior)).reverse :=
      List.mem_reverse.mpr (List.mem_flatMap.mpr ⟨o, ho, List.mem_map.mpr ⟨a,
        mem_getD_get?_groupByDescriptor.mpr ⟨ha, hpre, (hox.trans hxd).symm⟩, rfl⟩⟩)
    rw [get?_of_forall_eq (k := a)
      (v := reportedMetric options schema (fun d => (get? d prior).getD []) out a)
      (fun p hp heq => ?_) ⟨_, hwritten, Std.ReflCmp.compare_self⟩]
    · rfl
    · have hpa : p.1 = a := (Std.LawfulEqCmp.compare_eq_iff_eq.mp heq).symm
      obtain ⟨o', ho', -, hpre', hd', hp2⟩ := mem_settledMetrics (List.mem_reverse.mp hp)
      rw [hp2, hout o' ho', ← hd', hpa, reportedMetric, hpre]

end Metrics

end DataQuality
