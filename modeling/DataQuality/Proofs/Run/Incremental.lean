import Mathlib
import DataQuality.Proofs.Run.Store
import DataQuality.Proofs.Run.Filtering

/-!
# Tables analysed in batches

A table that arrives in batches, tables of one schema, can be analysed one batch at a time: each
batch is run with its aggregates saved under a key of its own (`saveEach`).  Against a store that
held nothing under the keys, each key then holds the aggregates its batch's run kept
(`get?_saveEach`), so the aggregates stored for a descriptor across the keys are the scans of the
batches, in key order (`get?_groupStored_savedEntry`).

When the numbers of the rows are whole and the sums fit (`Table.WholeSums`), merging the scans of
consecutive batches is scanning all their rows (`mergeAll_chunks_eq_scan`).  So the metrics
computed from the stored aggregates alone are those of a run over the union of the batches
(`runOnStoredStates_saveEach_eq_runAnalysis`), when every analyzer whose preconditions hold can be
scanned at all (`Descriptor.Resolves`): an analyzer whose filter or columns do not resolve saves
no aggregate, and the run on stored aggregates reports it as lacking one, where the run over the
union reports the failure of its scan.

A run over one more table of the schema that aggregates with the batches' keys merges its own scan
with the stored ones, in the order of the keys it is given.  Scans of whole numbers do not see the
order of the rows (`scanRows_perm`), so in any order of the keys it reports what a run over the
table and the batches together reports (`runAnalysis_aggregateWith_eq_union`); here a descriptor
that does not resolve fails alike on both sides, since its scan reads only the schema
(`partitionOutcome_of_not_resolves`).
-/

namespace DataQuality

open Ordered

variable {σ : Type}

/-- A descriptor resolves against a schema when its filter reads as a predicate over the schema's
columns and its computation's columns and pattern are found: its scan of a table of the schema
can then fail only in merging. -/
def Descriptor.Resolves (d : Descriptor) (schema : Schema) : Prop :=
  ∃ filter probe, d.filter.mapM (compilePredicate (RowView.index schema.names)) = .ok filter ∧
    d.computation.probe (RowView.index schema.names) = .ok probe

/-! ## Scans that resolve -/

section Outcome

variable {T : Table} {w : Row → Nat → Int} {d : Descriptor} {filter : Option Predicate}
  {probe : Probe}

/-- Over a table of whole numbers whose sums fit, the in-memory engine gives a descriptor that
resolves the scan of all the rows, however many partitions. -/
lemma partitionOutcome_of_resolves (hcells : WholeCells w T.rows)
    (hc : d.computation.ExactSums T w)
    (hf : d.filter.mapM (compilePredicate (RowView.index T.schema.names)) = .ok filter)
    (hp : d.computation.probe (RowView.index T.schema.names) = .ok probe) (k : Nat) :
    partitionOutcome T k d = .ok (scanRows (RowView.index T.schema.names) filter probe
      (Aggregate.empty d.computation) T.rows) := by
  simp only [partitionOutcome, hf, hp, Except.map, mergeScan, Except.mapError, bind, Except.bind,
    mergeAll_partitions_eq_scan hcells hc hp]

/-- Over tables of one schema, a descriptor that does not resolve fails alike on every table, however
many partitions each is cut into: its filter or its columns are looked up in the schema only. -/
lemma partitionOutcome_of_not_resolves {S : Schema} (hd : ¬ d.Resolves S) (T' : Table)
    (hT : T.schema = S) (hT' : T'.schema = S) (k k' : Nat) :
    ∃ message, partitionOutcome T k d = .error message ∧ partitionOutcome T' k' d = .error message := by
  subst hT
  unfold partitionOutcome
  rw [hT']
  cases hf : d.filter.mapM (compilePredicate (RowView.index T.schema.names)) with
  | error e => exact ⟨e.message, by simp only [hf], by simp only [hf]⟩
  | ok filter =>
    cases hp : d.computation.probe (RowView.index T.schema.names) with
    | error e =>
      refine ⟨e.message, ?_, ?_⟩ <;>
        simp only [hf, hp, Except.map, mergeScan, Except.mapError, bind, Except.bind]
    | ok probe => exact absurd ⟨filter, probe, hf, hp⟩ hd

/-- With no analyzer read fresh, the metric reported for an analyzer whose preconditions hold and
whose scan gives `fresh` is that of the merge of `fresh` with the aggregates stored for it. -/
lemma reportedMetric_of_merge {options : AnalysisOptions} (hfresh : options.forceFresh = [])
    {schema : Schema} {stored : Descriptor → List Aggregate}
    {out : Descriptor → Except String Aggregate} {a : Analyzer}
    (hpre : preconditionFailure schema a = none) {fresh agg : Aggregate}
    (hout : out a.descriptor = .ok fresh)
    (hmerge : Aggregate.mergeAll fresh (stored a.descriptor) = .ok agg) :
    reportedMetric options schema stored out a = a.computeMetric agg := by
  simp [reportedMetric, settledMetric, hpre, hout, hfresh, hmerge]

end Outcome

/-! ## Saving batch by batch -/

section Saving

/-- The state after running analyzers over each batch in turn, a table under a key, against a
repository: each run cuts its table into `k` partitions and saves its aggregates under the
batch's key. -/
def saveEach (r : Repository (StateM σ)) (k : Nat) (analyzers : List Analyzer) (s : σ)
    (batches : List (ResultKey × Table)) : σ :=
  batches.foldl (fun s b =>
    ((runAnalysis { saveStatesWith := some b.1 } (some r) k b.2 analyzers).run s).2) s

/-- The entry the run of a batch saves under its key where nothing was stored: the aggregates the
run keeps. -/
def savedEntry (k : Nat) (analyzers : List Analyzer) (b : ResultKey × Table) : Entry :=
  { key := b.1
    states := (runSettled { saveStatesWith := some b.1 } (scanPartitions b.2 k) b.2.schema []
      (keysOf analyzers) []).2 }

variable {r : Repository (StateM σ)} {view : σ → List (ResultKey × Entry)} {k : Nat}
  {analyzers : List Analyzer} {batches : List (ResultKey × Table)}

variable (k analyzers) in
/-- The run of a batch against a store with nothing under its key stores the batch's entry
there. -/
lemma view_saveStep (hr : r.IsStore view) (b : ResultKey × Table) {s : σ}
    (hb : get? b.1 (view s) = none) :
    view ((runAnalysis { saveStatesWith := some b.1 } (some r) k b.2 analyzers).run s).2 =
      put b.1 (savedEntry k analyzers b) (view s) := by
  obtain ⟨s', hrun, hview⟩ := runAnalysisWith_saveStates { saveStatesWith := some b.1 }
    (scanPartitions b.2 k) b.2.schema analyzers hr rfl rfl rfl rfl s
  rw [runAnalysis, hrun]
  rw [hview, hb]
  rfl

/-- Saving batches of distinct keys against a store with nothing under them puts the entry of each
batch under its key, in turn. -/
lemma view_saveEach (hr : r.IsStore view) (hkeys : (batches.map (·.1)).Nodup) {s : σ}
    (hs : ∀ b ∈ batches, get? b.1 (view s) = none) :
    view (saveEach r k analyzers s batches) =
      batches.foldl (fun v b => put b.1 (savedEntry k analyzers b) v) (view s) := by
  induction batches generalizing s with
  | nil => rfl
  | cons b batches ih =>
    rw [List.map_cons, List.nodup_cons] at hkeys
    have hstep := view_saveStep k analyzers hr b (hs b List.mem_cons_self)
    -- the keys of the later batches differ from the first one's, so they still hold nothing
    have hrest : ∀ b' ∈ batches, get? b'.1 (view
        ((runAnalysis { saveStatesWith := some b.1 } (some r) k b.2 analyzers).run s).2) = none := by
      intro b' hb'
      rw [hstep, get?_put, if_neg, hs b' (List.mem_cons_of_mem _ hb')]
      intro heq
      exact hkeys.1 (List.mem_map.mpr ⟨b', hb', Std.LawfulEqOrd.eq_of_compare heq⟩)
    have hfold := ih hkeys.2 hrest
    rw [hstep] at hfold
    exact hfold

/-- After saving batches of distinct keys against a store with nothing under them, each key finds
the entry of its batch. -/
lemma get?_saveEach (hr : r.IsStore view) (hkeys : (batches.map (·.1)).Nodup) {s : σ}
    (hs : ∀ b ∈ batches, get? b.1 (view s) = none) {b : ResultKey × Table} (hb : b ∈ batches) :
    get? b.1 (view (saveEach r k analyzers s batches)) = some (savedEntry k analyzers b) := by
  rw [view_saveEach hr hkeys hs, get?_foldl_put]
  -- every entry put under the key is the batch's own, the keys being distinct
  have hput : get? b.1 (batches.reverse.map fun b => (b.1, savedEntry k analyzers b)) =
      some (savedEntry k analyzers b) := by
    refine get?_of_forall_eq (fun x hx heq => ?_)
      ⟨(b.1, savedEntry k analyzers b), List.mem_map.mpr ⟨b, List.mem_reverse.mpr hb, rfl⟩,
        Std.ReflCmp.compare_self⟩
    obtain ⟨b', hb', rfl⟩ := List.mem_map.mp hx
    have hkey : b'.1 = b.1 := (Std.LawfulEqOrd.eq_of_compare heq).symm
    rw [List.inj_on_of_nodup_map hkeys (List.mem_reverse.mp hb') hb hkey]
  rw [hput, Option.some_or]

/-- Whole numbers whose sums fit, over a table that holds the rows of batches of its schema, hold
over each batch. -/
lemma Table.WholeSums.of_mem_batches {U : Table} {w : Row → Nat → Int}
    (hw : U.WholeSums w analyzers) (hrows : (batches.flatMap (·.2.rows)).Sublist U.rows)
    (hschema : ∀ b ∈ batches, b.2.schema = U.schema) : ∀ b ∈ batches, b.2.WholeSums w analyzers := by
  intro b hb
  have hsub : b.2.rows.Sublist (batches.flatMap (·.2.rows)) := by
    rw [List.flatMap_def]
    exact List.sublist_flatten_of_mem (List.mem_map_of_mem hb)
  exact hw.sublist (hschema b hb) (hsub.trans hrows)

/-- Over batches of one schema and of whole numbers whose sums fit, the aggregates the saved entries
hold for the descriptor of an analyzer whose preconditions hold and which resolves are the scans
of the batches, in order. -/
lemma storedStates_savedEntry {S : Schema} (hschema : ∀ b ∈ batches, b.2.schema = S)
    {w : Row → Nat → Int} (hw : ∀ b ∈ batches, b.2.WholeSums w analyzers) {a : Analyzer}
    (ha : a ∈ analyzers) (hpre : preconditionFailure S a = none) {filter : Option Predicate}
    {probe : Probe} (hf : a.descriptor.filter.mapM (compilePredicate (RowView.index S.names)) = .ok filter)
    (hp : a.descriptor.computation.probe (RowView.index S.names) = .ok probe) :
    storedStates (batches.map fun b => some (savedEntry k analyzers b)) a.descriptor =
      batches.map fun b => scanRows (RowView.index S.names) filter probe
        (Aggregate.empty a.descriptor.computation) b.2.rows := by
  -- each batch's entry keeps the scan of the batch under the descriptor
  have hkept : ∀ b ∈ batches, get? a.descriptor (savedEntry k analyzers b).states =
      some (scanRows (RowView.index S.names) filter probe (Aggregate.empty a.descriptor.computation)
        b.2.rows) := by
    rintro ⟨key, ⟨S', rows⟩⟩ hb
    obtain rfl : S' = S := hschema _ hb
    exact get?_snd_runSettled_nil (scanPartitions_answers _ k) (mem_keysOf_iff.mpr ha) hpre
      (partitionOutcome_of_resolves (hw _ hb).cells ((hw _ hb).sums a ha) hf hp k)
  rw [storedStates, List.filterMap_map, ← List.filterMap_eq_map]
  exact List.filterMap_congr fun b hb => hkept b hb

variable (k analyzers) in
/-- The entries saved for batches keep their aggregates sorted by descriptor. -/
lemma sorted_savedEntry (batches : List (ResultKey × Table)) :
    ∀ e ∈ batches.map (fun b => some (savedEntry k analyzers b)), ∀ e' ∈ e, Sorted e'.states := by
  intro e he e' he'
  obtain ⟨b, -, rfl⟩ := List.mem_map.mp he
  obtain rfl := Option.mem_some_iff.mp he'
  exact sorted_snd_runSettled_nil

/-- Over batches of one schema and of whole numbers whose sums fit, the aggregates stored for the
descriptor of an analyzer whose preconditions hold and which resolves, across the saved entries,
are the scans of the batches, in key order. -/
lemma get?_groupStored_savedEntry {S : Schema} (hne : batches ≠ [])
    (hschema : ∀ b ∈ batches, b.2.schema = S) {w : Row → Nat → Int}
    (hw : ∀ b ∈ batches, b.2.WholeSums w analyzers) {a : Analyzer} (ha : a ∈ analyzers)
    (hpre : preconditionFailure S a = none) {filter : Option Predicate}
    {probe : Probe} (hf : a.descriptor.filter.mapM (compilePredicate (RowView.index S.names)) = .ok filter)
    (hp : a.descriptor.computation.probe (RowView.index S.names) = .ok probe) :
    get? a.descriptor (groupStored (batches.map fun b => some (savedEntry k analyzers b))) =
      some (batches.map fun b => scanRows (RowView.index S.names) filter probe
        (Aggregate.empty a.descriptor.computation) b.2.rows) := by
  have hstored := getD_get?_groupStored (sorted_savedEntry k analyzers batches) a.descriptor
  rw [storedStates_savedEntry hschema hw ha hpre hf hp] at hstored
  -- the lookup finds a list, since there is a batch
  cases hget : get? a.descriptor (groupStored (batches.map fun b => some (savedEntry k analyzers b)))
  with
  | none =>
    rw [hget, Option.getD_none] at hstored
    exact absurd (List.map_eq_nil_iff.mp hstored.symm) hne
  | some l =>
    rw [hget, Option.getD_some] at hstored
    rw [hstored]

end Saving

/-! ## Metrics from the stored aggregates -/

section Stored

variable {r : Repository (StateM σ)} {view : σ → List (ResultKey × Entry)} {k : Nat}
  {analyzers : List Analyzer}

/-- Batches of distinct keys and of one schema, whose union has whole numbers whose sums fit, are
run with their aggregates saved under their keys against a store with nothing under them.  Then
the metrics computed from the aggregates stored under the keys alone are those of a run over the
union of the batches, however many partitions each run cuts its table into, provided every
analyzer whose preconditions hold resolves against the schema. -/
theorem runOnStoredStates_saveEach_eq_runAnalysis (hr : r.IsStore view) {s : σ}
    {batches : List (ResultKey × Table)} (hs : ∀ b ∈ batches, get? b.1 (view s) = none)
    (hne : batches ≠ []) (hkeys : (batches.map (·.1)).Nodup) {S : Schema}
    (hschema : ∀ b ∈ batches, b.2.schema = S) {w : Row → Nat → Int}
    (hw : Table.WholeSums ⟨S, batches.flatMap (·.2.rows)⟩ w analyzers)
    (hscan : ∀ a ∈ analyzers, preconditionFailure S a = none → a.descriptor.Resolves S)
    (m : Nat) :
    ((runOnStoredStates {} (some r) S analyzers (batches.map (·.1))).run
        (saveEach r k analyzers s batches)).1 =
      runAnalysis (m := Id) {} none m ⟨S, batches.flatMap (·.2.rows)⟩ analyzers := by
  obtain ⟨s', hrun, -⟩ := runOnStoredStates_of_store {} S analyzers hr rfl rfl (batches.map (·.1))
    (saveEach r k analyzers s batches)
  rw [hrun, runAnalysis, runAnalysisWith_default]
  -- the entries loaded are the batches' own
  have hentries : ((batches.map (·.1)).map fun key => get? key (view (saveEach r k analyzers s batches))) =
      batches.map fun b => some (savedEntry k analyzers b) := by
    rw [List.map_map]
    exact List.map_congr_left fun b hb => get?_saveEach hr hkeys hs hb
  rw [hentries]
  refine congrArg (fun M => (Except.ok ⟨M⟩ : Except RunnerError AnalyzerContext)) ?_
  have hsorted : Sorted ((keysOf analyzers).foldl (storedOutcome S
      (groupStored (batches.map fun b => some (savedEntry k analyzers b)))) ([], [])).1 := by
    rw [fst_foldl_storedOutcome]
    exact sorted_foldl_put _ _ List.Pairwise.nil _
  refine eq_of_get? hsorted sorted_runSettled fun a => ?_
  rw [fst_foldl_storedOutcome, get?_foldl_put, get?_nil, Option.or_none]
  by_cases ha : a ∈ analyzers
  case neg =>
    -- neither run reports an analyzer it was not given
    rw [get?_map_self_of_not_mem _ fun hr => ha (mem_keysOf_iff.mp (List.mem_reverse.mp hr)),
      get?_runSettled_of_not_mem fun hk => ha (mem_keysOf_iff.mp hk)]
    rfl
  case pos =>
    rw [get?_map_self_of_mem _ (List.mem_reverse.mpr (mem_keysOf_iff.mpr ha)),
      get?_runSettled_of_mem (scanPartitions_answers _ m) (mem_keysOf_iff.mpr ha)]
    congr 1
    cases hpre : preconditionFailure S a with
    | some failure =>
      -- both report the failure of the preconditions
      simp only [storedMetric, reportedMetric, hpre]
    | none =>
      -- both report the metric of the scan of the union
      obtain ⟨filter, probe, hf, hp⟩ := hscan a ha hpre
      have hflat : (batches.map (·.2.rows)).flatten = batches.flatMap (·.2.rows) :=
        List.flatMap_def.symm
      have hunion := mergeAll_chunks_eq_scan (T := ⟨S, batches.flatMap (·.2.rows)⟩) hw.cells
        (hw.sums a ha) hp filter hflat
      simp only [List.map_map, Function.comp_def] at hunion
      rw [storedMetric, hpre, get?_groupStored_savedEntry hne hschema
        (hw.of_mem_batches (List.Sublist.refl _) hschema) ha hpre hf hp]
      simp only
      rw [hunion]
      exact (reportedMetric_of_merge rfl hpre
        (partitionOutcome_of_resolves hw.cells (hw.sums a ha) hf hp m) rfl).symm

/-- Two batches of the schema of `countsTable`, the table itself and one more row. -/
def countsBatches : List (ResultKey × Table) :=
  [(⟨1, []⟩, countsTable), (⟨2, []⟩, ⟨countsTable.schema, [[.int 3]]⟩)]

/-- The two batches are of the schema of `countsTable`. -/
lemma schema_countsBatches : ∀ b ∈ countsBatches, b.2.schema = countsTable.schema := by
  intro b hb
  simp only [countsBatches, List.mem_cons, List.not_mem_nil, or_false] at hb
  rcases hb with rfl | rfl <;> rfl

/-- One more row and the rows of the two batches hold integers only, so their numbers are whole
and the size takes no sums. -/
lemma wholeSums_countsBatches :
    Table.WholeSums ⟨countsTable.schema, [[.int 5]] ++ countsBatches.flatMap (·.2.rows)⟩
      (fun r j => (cellAt r j).asInt?.getD 0) [{ statistic := .size }] := by
  have hcells : ∀ r ∈ [[.int 5]] ++ countsBatches.flatMap (·.2.rows), ∀ j y,
      cellAt r j ≠ .float y := by
    intro r hr j y
    simp only [countsBatches, countsTable, List.flatMap_cons, List.flatMap_nil, List.append_nil,
      List.cons_append, List.nil_append, List.mem_cons, List.not_mem_nil, or_false] at hr
    rcases hr with rfl | rfl | rfl | rfl <;> rcases j with _ | j <;> simp [cellAt]
  refine ⟨wholeCells_of_integers hcells, fun a ha => ?_⟩
  obtain rfl := List.mem_singleton.mp ha
  trivial

/-- Saved in memory batch by batch, the two batches give the size of their union from the stored
aggregates alone. -/
theorem runOnStoredStates_saveEach_countsBatches :
    ((runOnStoredStates {} (some (MemoryStore.repository (get : StateM MemoryStore MemoryStore) set))
        countsTable.schema [{ statistic := .size }] (countsBatches.map (·.1))).run
        (saveEach (MemoryStore.repository get set) 2 [{ statistic := .size }] [] countsBatches)).1 =
      runAnalysis (m := Id) {} none 1 ⟨countsTable.schema, countsBatches.flatMap (·.2.rows)⟩
        [{ statistic := .size }] := by
  refine runOnStoredStates_saveEach_eq_runAnalysis MemoryStore.isStore (fun _ _ => rfl)
    (by simp [countsBatches]) (by simp [countsBatches]) schema_countsBatches
    (wholeSums_countsBatches.sublist rfl (List.sublist_append_right _ _)) (fun a ha _ => ?_) 1
  -- the size reads no column and has no filter
  obtain rfl := List.mem_singleton.mp ha
  exact ⟨none, .rows, rfl, rfl⟩

/-- Batches of distinct keys and of the schema of a table, whose union with the table has whole
numbers whose sums fit, are run with their aggregates saved under their keys against a store with
nothing under them.  Then a run over the table that aggregates with the batches' keys, in any
order, reports what a run over the table and the batches together reports, however many
partitions each run cuts its table into. -/
theorem runAnalysis_aggregateWith_eq_union (hr : r.IsStore view) {s : σ}
    {batches : List (ResultKey × Table)} (hs : ∀ b ∈ batches, get? b.1 (view s) = none)
    (hne : batches ≠ []) (hkeys : (batches.map (·.1)).Nodup) {T : Table}
    (hschema : ∀ b ∈ batches, b.2.schema = T.schema) {order : List (ResultKey × Table)}
    (horder : order.Perm batches) {w : Row → Nat → Int}
    (hw : Table.WholeSums ⟨T.schema, T.rows ++ batches.flatMap (·.2.rows)⟩ w analyzers)
    (m m' : Nat) :
    ((runAnalysis { aggregateWith := order.map (·.1) } (some r) m T analyzers).run
        (saveEach r k analyzers s batches)).1 =
      runAnalysis (m := Id) {} none m' ⟨T.schema, T.rows ++ batches.flatMap (·.2.rows)⟩
        analyzers := by
  have hmem : ∀ {b}, b ∈ order → b ∈ batches := fun hb => horder.mem_iff.mp hb
  have hagg : order.map (·.1) ≠ [] := fun h =>
    hne (List.nil_perm.mp (List.map_eq_nil_iff.mp h ▸ horder))
  obtain ⟨s', hrun, -⟩ := runAnalysisWith_aggregate { aggregateWith := order.map (·.1) }
    (scanPartitions T m) T.schema analyzers hr rfl hagg rfl rfl (saveEach r k analyzers s batches)
  unfold runAnalysis
  rw [hrun, runAnalysisWith_default]
  -- the entries loaded are the batches' own, in the order aggregated
  have hentries : ((order.map (·.1)).map fun key => get? key (view (saveEach r k analyzers s batches))) =
      order.map fun b => some (savedEntry k analyzers b) := by
    rw [List.map_map]
    exact List.map_congr_left fun b hb => get?_saveEach hr hkeys hs (hmem hb)
  simp only [hentries]
  refine congrArg (fun M => (Except.ok ⟨M⟩ : Except RunnerError AnalyzerContext)) ?_
  refine eq_of_get? sorted_runSettled sorted_runSettled fun a => ?_
  by_cases ha : a ∈ analyzers
  case neg =>
    -- neither run reports an analyzer it was not given
    rw [get?_runSettled_of_not_mem fun hk => ha (mem_keysOf_iff.mp hk),
      get?_runSettled_of_not_mem fun hk => ha (mem_keysOf_iff.mp hk)]
  case pos =>
    rw [get?_runSettled_of_mem (scanPartitions_answers T m) (mem_keysOf_iff.mpr ha),
      get?_runSettled_of_mem (scanPartitions_answers _ m') (mem_keysOf_iff.mpr ha)]
    congr 1
    cases hpre : preconditionFailure T.schema a with
    | some failure =>
      -- both report the failure of the preconditions
      simp only [reportedMetric, hpre]
    | none =>
      by_cases hres : a.descriptor.Resolves T.schema
      case neg =>
        -- both report the failure of the scan, which reads only the schema
        obtain ⟨message, hT, hU⟩ := partitionOutcome_of_not_resolves hres
          ⟨T.schema, T.rows ++ batches.flatMap (·.2.rows)⟩ rfl rfl m m'
        rw [reportedMetric_of_error hT, reportedMetric_of_error hU]
      case pos =>
        -- both report the metric of the scan of the table and the batches: on the left merged
        -- from the table's scan and the batches' stored scans, in the order aggregated
        obtain ⟨filter, probe, hf, hp⟩ := hres
        have hwT : T.WholeSums w analyzers := hw.sublist rfl (List.sublist_append_left _ _)
        have hwb := hw.of_mem_batches (List.sublist_append_right _ _) hschema
        have hstored := storedStates_savedEntry (k := k) (fun b hb => hschema b (hmem hb))
          (fun b hb => hwb b (hmem hb)) ha hpre hf hp
        have hflat : T.rows ++ (batches.map (·.2.rows)).flatten =
            T.rows ++ batches.flatMap (·.2.rows) := by
          rw [List.flatMap_def]
        have hmerge := mergeAll_scan_chunks_perm hw.cells (hw.sums a ha) hp filter hflat
          (horder.map _)
        simp only [List.map_map, Function.comp_def] at hmerge
        obtain ⟨x, hx, hxd⟩ := exists_mem_groupByDescriptor (mem_keysOf_iff.mpr ha) hpre
        calc _ = a.computeMetric (scanRows (RowView.index T.schema.names) filter probe
                (Aggregate.empty a.descriptor.computation) (T.rows ++ batches.flatMap (·.2.rows))) :=
              reportedMetric_of_merge rfl hpre
                (partitionOutcome_of_resolves hwT.cells (hwT.sums a ha) hf hp m) ?_
          _ = _ := (reportedMetric_of_merge rfl hpre
                (partitionOutcome_of_resolves hw.cells (hw.sums a ha) hf hp m') rfl).symm
        rw [get?_map_self_of_mem _ (List.mem_map.mpr ⟨x, hx, hxd⟩), Option.getD_some, hstored]
        exact hmerge

/-- The two batches saved in memory, aggregated in the other order with a third table of their
schema, give the size of all three together. -/
theorem runAnalysis_aggregateWith_countsBatches :
    ((runAnalysis { aggregateWith := countsBatches.reverse.map (·.1) }
        (some (MemoryStore.repository (get : StateM MemoryStore MemoryStore) set)) 2
        ⟨countsTable.schema, [[.int 5]]⟩ [{ statistic := .size }]).run
        (saveEach (MemoryStore.repository get set) 2 [{ statistic := .size }] [] countsBatches)).1 =
      runAnalysis (m := Id) {} none 1
        ⟨countsTable.schema, [[.int 5]] ++ countsBatches.flatMap (·.2.rows)⟩
        [{ statistic := .size }] :=
  runAnalysis_aggregateWith_eq_union (T := ⟨countsTable.schema, [[.int 5]]⟩)
    MemoryStore.isStore (fun _ _ => rfl) (by simp [countsBatches]) (by simp [countsBatches])
    schema_countsBatches (List.reverse_perm _) wholeSums_countsBatches 2 1

end Stored

end DataQuality
