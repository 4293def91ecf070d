import Mathlib
import DataQuality.Proofs.Scan.Accumulate
import DataQuality.Proofs.Frequencies.Key
import DataQuality.Proofs.Run.Coverage

/-!
# Analyzers read aggregates of their own kind

Four tables route an analyzer to the aggregate it reads: the computation each statistic needs,
the empty aggregate of each computation, the probe each computation resolves to and the arm of
`Analyzer.valueFrom` each pair of statistic and aggregate takes.  They agree:

* every aggregate scans and merges build for a computation has the shape of its empty aggregate:
  its kind, its quantile accuracy bit for bit, and the precision 12 with 4096 registers of its
  distinct-count sketch (`Aggregate.Accumulates.shaped`);
* the partition aggregates the in-memory engine returns are built that way, and merge without a
  refusal into one that is (`scanPartitions_accumulates`, `mergeAll_accumulates`);
* on an aggregate of the kind of its computation, an analyzer never falls through to the arm
  that reports the wrong kind (`Analyzer.valueFrom_ne_wrongKind`);
* on an aggregate scans and merges build, an analyzer fails only for want of data, never with an
  analysis error (`Analyzer.valueFrom_not_analysis`): the one analysis failure of a well-kinded
  aggregate, a mutual-information key that does not hold two values, cannot happen because the
  keys of a two-column table each join two rendered values.
-/

namespace DataQuality

open Aggregate

namespace Aggregate

/-- The shape of the empty aggregate of a computation: its kind, the accuracy of its quantile
sketch, bit for bit, and the precision 12 and 4096 registers of its distinct-count sketch. -/
structure Shaped (c : Computation) (x : Aggregate) : Prop where
  kind : x.kind = (empty c).kind
  accuracy : ∀ s, x = .quantiles s → ∃ column a, c = .quantiles column a ∧ s.accuracy = a.value
  registers : ∀ s, x = .distinct s → s.precision = 12 ∧ s.registers.size = 4096

/-- The empty distinct-count sketch of the library has precision 12 and 4096 registers. -/
lemma distinct_empty_shape :
    (DistinctSketch.empty DistinctSketch.defaultPrecision).precision = 12 ∧
      (DistinctSketch.empty DistinctSketch.defaultPrecision).registers.size = 4096 := by
  simp [DistinctSketch.empty, DistinctSketch.defaultPrecision]

/-- An aggregate of the representation of the empty aggregate has its shape. -/
lemma shaped_of_conforms {c : Computation} {x : Aggregate} (h : Conforms (empty c) x) :
    Shaped c x := by
  cases c <;> cases x <;> simp only [empty, Conforms] at h
  case quantiles.quantiles column a s =>
    refine ⟨rfl, fun t ht => ⟨column, a, rfl, ?_⟩, (fun _ ht => by cases ht)⟩
    cases ht
    exact h.1
  case distinctEstimate.distinct s =>
    refine ⟨rfl, (fun _ ht => by cases ht), fun t ht => ?_⟩
    cases ht
    rw [h.1, h.2]
    exact distinct_empty_shape
  all_goals exact ⟨rfl, (fun _ ht => by cases ht), (fun _ ht => by cases ht)⟩

/-- Every aggregate scans and merges build has the shape of the empty aggregate of its
computation. -/
theorem Accumulates.shaped {c : Computation} {n : Nat} {x : Aggregate} (h : Accumulates c n x) :
    Shaped c x :=
  shaped_of_conforms h.conforms

end Aggregate

/-! ## Mutual information of keys that join two values -/

/-- Splitting the keys of a two-column table fails only on a key that does not hold two values,
and says so. -/
lemma pairsOf_error {l : List (String × UInt64)} {e : MetricFailure} (h : pairsOf l = .error e) :
    ∃ key, e = ⟨.analysis, "frequency key '" ++ key ++ "' does not hold two values"⟩ := by
  induction l generalizing e with
  | nil => cases h
  | cons head rest ih =>
    obtain ⟨key, n⟩ := head
    unfold pairsOf at h
    split at h
    · -- the key splits: the failure is that of the rest
      cases hrest : pairsOf rest with
      | error e' =>
        simp only [hrest, Functor.map, Except.map, Except.error.injEq] at h
        exact h ▸ ih hrest
      | ok r => simp [hrest, Functor.map, Except.map] at h
    · cases h
      exact ⟨key, rfl⟩

/-- The keys of a two-column table that each join two values split into pairs. -/
lemma pairsOf_ok {l : List (String × UInt64)}
    (h : ∀ e ∈ l, ∃ vs : List String, vs.length = 2 ∧ e.1 = Frequencies.keyOf vs) :
    ∃ r, pairsOf l = .ok r := by
  induction l with
  | nil => exact ⟨[], rfl⟩
  | cons head rest ih =>
    obtain ⟨key, n⟩ := head
    obtain ⟨r, hr⟩ := ih fun e he => h e (List.mem_cons_of_mem _ he)
    obtain ⟨vs, hlen, hkey⟩ := h (key, n) List.mem_cons_self
    -- a key of two values splits back into them
    match vs, hlen with
    | [x, y], _ =>
      have hsplit : Frequencies.splitKey key = [x, y] := by
        rw [show key = Frequencies.keyOf [x, y] from hkey]
        exact Frequencies.splitKey_keyOf [x, y] (List.cons_ne_nil _ _)
      refine ⟨(x, y, n) :: r, ?_⟩
      simp [pairsOf, hsplit, hr, Functor.map, Except.map]

/-- Mutual information fails for want of rows, or on a key that does not hold two values. -/
lemma mutualInformationOf_error {f : Frequencies} {e : MetricFailure}
    (h : mutualInformationOf f = .error e) :
    e = .noRows ∨ ∃ key, e = ⟨.analysis, "frequency key '" ++ key ++ "' does not hold two values"⟩ := by
  unfold mutualInformationOf at h
  by_cases htotal : (f.counts.total == 0) = true
  · simp only [htotal, if_true, throw, throwThe, MonadExceptOf.throw, bind, Except.bind,
      Except.error.injEq] at h
    exact .inl h.symm
  · cases hpairs : pairsOf f.counts.entries with
    | error e' =>
      simp only [htotal, Bool.false_eq_true, if_false, hpairs, bind, Except.bind,
        Except.error.injEq] at h
      exact .inr (h ▸ pairsOf_error hpairs)
    | ok r => simp [htotal, hpairs, pure, Except.pure, bind, Except.bind] at h

/-- A failure over a table whose keys each join two values is the lack of rows. -/
lemma mutualInformationOf_error_of_pairs {f : Frequencies} {e : MetricFailure}
    (hkeys : ∀ e ∈ f.counts.entries, ∃ vs : List String, vs.length = 2 ∧ e.1 = Frequencies.keyOf vs)
    (h : mutualInformationOf f = .error e) : e = .noRows := by
  rcases mutualInformationOf_error h with he | ⟨key, rfl⟩
  · exact he
  · -- splitting the keys succeeds, so the failure cannot be theirs
    obtain ⟨r, hr⟩ := pairsOf_ok hkeys
    unfold mutualInformationOf at h
    by_cases htotal : (f.counts.total == 0) = true
    · simp [htotal, throw, throwThe, MonadExceptOf.throw, bind, Except.bind, MetricFailure.noRows] at h
    · simp [htotal, hr, pure, Except.pure, bind, Except.bind] at h

/-- The failure of a key that does not split is not the wrong-kind failure of mutual
information. -/
lemma keyFailure_ne_wrongKind (key : String) :
    "frequency key '" ++ key ++ "' does not hold two values" ≠
      "MutualInformation cannot be computed from a frequencies state" := by
  intro h
  have hfirst := congrArg (fun s => s.toList.head?) h
  simp [String.toList_append] at hfirst

namespace Analyzer

/-- The failure an analyzer reports when its aggregate has another kind. -/
def wrongKind (a : Analyzer) (agg : Aggregate) : MetricFailure :=
  ⟨.analysis, a.name ++ " cannot be computed from a " ++ agg.kind ++ " state"⟩

/-- On an aggregate of the kind of its computation, an analyzer never reports the wrong kind. -/
theorem valueFrom_ne_wrongKind {a : Analyzer} {s : Aggregate}
    (h : s.kind = (empty a.descriptor.computation).kind) :
    a.valueFrom s ≠ .error (a.wrongKind s) := by
  obtain ⟨statistic, filter⟩ := a
  -- kinds that differ are told apart by their names; the arm of a matching kind fails, if at
  -- all, for want of data, or (mutual information) on a key
  cases statistic <;> cases s <;>
    simp [Analyzer.descriptor, Statistic.computation, empty, kind] at h <;>
    simp only [valueFrom, wrongKind, ne_eq, fraction, entropyOf, typeDistribution]
  case mutualInformation.frequencies x y f =>
    intro hmi
    rcases mutualInformationOf_error hmi with he | ⟨key, he⟩
    · simp [MetricFailure.noRows] at he
    · simp only [MetricFailure.mk.injEq, true_and] at he
      exact keyFailure_ne_wrongKind key (by rw [← he]; rfl)
  all_goals
    repeat' split
    all_goals simp_all [MetricFailure.noRows]

/-- On an aggregate scans and merges build for its computation, an analyzer fails, if at all, for
want of data: never with an analysis error. -/
theorem valueFrom_not_analysis {a : Analyzer} {n : Nat} {s : Aggregate} {f : MetricFailure}
    (hs : Accumulates a.descriptor.computation n s) (h : a.valueFrom s = .error f) :
    f.kind ≠ .analysis := by
  have hconf := hs.conforms
  have hkeys := hs.keysJoin
  obtain ⟨statistic, filter⟩ := a
  -- an aggregate of another kind does not conform; the arm of the matching kind fails for want of
  -- data, except mutual information, whose keys here each join two values
  cases statistic <;> cases s <;>
    simp only [Analyzer.descriptor, Statistic.computation, empty, Conforms] at hconf <;>
    simp only [valueFrom, fraction, entropyOf, typeDistribution] at h
  case mutualInformation.frequencies x y g =>
    have hpairs : ∀ e ∈ g.counts.entries,
        ∃ vs : List String, vs.length = 2 ∧ e.1 = Frequencies.keyOf vs := by
      simpa [Analyzer.descriptor, Statistic.computation, KeysJoin] using hkeys
    rw [mutualInformationOf_error_of_pairs hpairs h]
    simp [MetricFailure.noRows]
  all_goals
    repeat' split at h
    all_goals simp only [reduceCtorEq, Except.error.injEq, MetricFailure.noRows] at h <;> subst h <;>
      simp

end Analyzer

/-- Descriptors, scans, merges and metrics agree on the kind of aggregate.  Every aggregate scans
and merges build has the shape of the empty aggregate of its computation; the partition
aggregates the in-memory engine returns for a descriptor are built that way and merge, with no
refusal, into one that is; on an aggregate of the kind of its computation an analyzer never
reports the wrong kind; and on an aggregate scans and merges build it never reports an analysis
failure. -/
theorem aggregates_agree_with_descriptors :
    (∀ (c : Computation) (n : Nat) (x : Aggregate), Accumulates c n x → Shaped c x) ∧
    (∀ (T : Table) (k : Nat) (request : ScanRequest)
        (scans : List (Except ScanError (List Aggregate))),
      scanPartitions T k request = .ok scans →
      ∀ (d : Descriptor) (parts : List Aggregate), (d, .ok parts) ∈ request.descriptors.zip scans →
        (∀ x ∈ parts, ∃ n, Accumulates d.computation n x) ∧
        ∃ agg n, mergeAll (empty d.computation) parts = .ok agg ∧ Accumulates d.computation n agg) ∧
    (∀ (a : Analyzer) (s : Aggregate), s.kind = (empty a.descriptor.computation).kind →
      a.valueFrom s ≠ .error (a.wrongKind s)) ∧
    (∀ (a : Analyzer) (n : Nat) (s : Aggregate) (f : MetricFailure),
      Accumulates a.descriptor.computation n s → a.valueFrom s = .error f → f.kind ≠ .analysis) := by
  refine ⟨fun c n x h => h.shaped, fun T k request scans h d parts hd => ?_,
    fun a s h => Analyzer.valueFrom_ne_wrongKind h,
    fun a n s f hs h => Analyzer.valueFrom_not_analysis hs h⟩
  have hparts := scanPartitions_accumulates h hd
  exact ⟨hparts, mergeAll_accumulates .empty hparts⟩

/-- The agreement at small inputs: the empty quantile sketch has its own shape; `countsTable` cut
in two is counted in two parts that merge; the size analyzer reads a count; mutual information of
the empty table fails for want of rows. -/
theorem aggregates_agree_with_descriptors_countsTable :
    Shaped (.quantiles "n" ⟨0.01⟩) (empty (.quantiles "n" ⟨0.01⟩)) ∧
    (scanPartitions countsTable 2 ⟨⟨.aggregation, none⟩, [⟨.rowCount, none⟩]⟩ =
        .ok [.ok [.count 1, .count 1]] ∧
      ∃ agg n, mergeAll (empty .rowCount) [.count 1, .count 1] = .ok agg ∧
        Accumulates .rowCount n agg) ∧
    ({ statistic := .size } : Analyzer).valueFrom (.count 2) ≠
      .error (Analyzer.wrongKind { statistic := .size } (.count 2)) ∧
    ({ statistic := .mutualInformation "n" "n" } : Analyzer).valueFrom
        (empty (.frequencies ["n", "n"])) = .error .noRows ∧
      MetricFailure.noRows.kind ≠ .analysis := by
  have hagree := aggregates_agree_with_descriptors
  have hscan : scanPartitions countsTable 2 ⟨⟨.aggregation, none⟩, [⟨.rowCount, none⟩]⟩ =
      .ok [.ok [.count 1, .count 1]] := rfl
  have hmi : ({ statistic := .mutualInformation "n" "n" } : Analyzer).valueFrom
      (empty (.frequencies ["n", "n"])) = .error .noRows := rfl
  exact ⟨hagree.1 _ 0 _ .empty, ⟨hscan, (hagree.2.1 _ _ _ _ hscan ⟨.rowCount, none⟩ [.count 1, .count 1] (by simp)).2⟩,
    hagree.2.2.1 _ _ rfl, hmi, hagree.2.2.2 _ 0 _ _ .empty hmi⟩

end DataQuality
