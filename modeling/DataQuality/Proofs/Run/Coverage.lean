import Mathlib
import DataQuality.Proofs.Run.Effects
import DataQuality.Check.Verification

/-!
# Every analyzer asked for gets one metric

Whatever its engine answers, a run that succeeds reports exactly one metric for each distinct
analyzer it is asked for, in analyzer order (`keys_runAnalysisWith`): the analyzers whose metrics
it reuses and those it computes split the analyzers asked for between them
(`isSome_get?_ofList_filterMap`), and every analyzer it computes gets a metric
(`isSome_get?_runSettled`).  A run on stored aggregates puts one metric for each analyzer in turn
(`fst_foldl_storedOutcome`), so it too reports exactly the analyzers given
(`keys_runOnStoredStates`).

So a verification never misses a metric: every analyzer a constraint depends on is among the
analyzers it derives (`mem_of_deriveAnalyzers`), and once they all have a metric its checks are
judged (`missingMetric?_eq_none`).  A verification fails only where it cannot derive its analyzers
or its run fails (`verifyWith_error`, `verifyStoredStates_error`).
-/

namespace DataQuality

open Ordered

variable {σ : Type}

/-! ## Runs that scan -/

section Scanning

variable (found : Analyzer → Option Metric) {requested : List Analyzer} {a : Analyzer}

/-- The metric reused for an analyzer requested is the one its entry holds, if any. -/
lemma get?_ofList_filterMap_of_mem (ha : a ∈ requested) :
    get? a (ofList (requested.filterMap fun b => (found b).map (b, ·))) = found a := by
  rw [get?_ofList]
  -- every entry under the analyzer is the one reused for it
  have hentry : ∀ x ∈ (requested.filterMap fun b => (found b).map (b, ·)).reverse,
      compare a x.1 = .eq → found a = some x.2 := by
    intro x hx hax
    obtain ⟨b, -, hb⟩ := List.mem_filterMap.mp (List.mem_reverse.mp hx)
    obtain ⟨v, hv, rfl⟩ := Option.map_eq_some_iff.mp hb
    rw [Std.LawfulEqCmp.compare_eq_iff_eq] at hax
    subst hax
    exact hv
  cases hfound : found a with
  | none =>
    refine get?_eq_none fun x hx hax => ?_
    simpa [hfound] using hentry x hx hax
  | some v =>
    refine get?_of_forall_eq (fun x hx hax => ?_) ⟨(a, v), ?_, Std.ReflCmp.compare_self⟩
    · exact (Option.some.inj (hfound.symm.trans (hentry x hx hax))).symm
    · exact List.mem_reverse.mpr (List.mem_filterMap.mpr ⟨a, ha, by simp [hfound]⟩)

/-- No metric is reused for an analyzer not requested. -/
lemma get?_ofList_filterMap_of_not_mem (ha : a ∉ requested) :
    get? a (ofList (requested.filterMap fun b => (found b).map (b, ·))) = none := by
  rw [get?_ofList]
  refine get?_eq_none fun x hx hax => ha ?_
  obtain ⟨b, hb, hbx⟩ := List.mem_filterMap.mp (List.mem_reverse.mp hx)
  obtain ⟨v, -, rfl⟩ := Option.map_eq_some_iff.mp hbx
  rw [Std.LawfulEqCmp.compare_eq_iff_eq] at hax
  rwa [hax]

/-- The metrics reused from an entry are found for exactly the analyzers requested that it holds a
metric for. -/
lemma isSome_get?_ofList_filterMap :
    (get? a (ofList (requested.filterMap fun b => (found b).map (b, ·)))).isSome ↔
      a ∈ requested ∧ (found a).isSome := by
  by_cases ha : a ∈ requested
  · simp [get?_ofList_filterMap_of_mem found ha, ha]
  · simp [get?_ofList_filterMap_of_not_mem found ha, ha]

variable {options : AnalysisOptions} {repo : Option (Repository (StateM σ))} {engine : Engine}
  {schema : Schema} {analyzers : List Analyzer}

/-- Whatever the engine answers, a run that succeeds finds a metric for exactly the analyzers
asked for. -/
lemma isSome_metric?_of_runAnalysisWith {s s' : σ} {ctx : AnalyzerContext}
    (h : (runAnalysisWith options repo engine schema analyzers).run s = (.ok ctx, s'))
    (a : Analyzer) : (ctx.metric? a).isSome ↔ a ∈ analyzers := by
  obtain ⟨reused, pending, prior, s₁, s₂, hreuse, -, rfl⟩ := runAnalysisWith_eq_ok h
  obtain ⟨rfl, rfl, -⟩ := reuseStored_eq_ok hreuse
  rw [AnalyzerContext.metric?, isSome_get?_runSettled, isSome_get?_ofList_filterMap,
    List.mem_filter, mem_keysOf_iff]
  -- an analyzer asked for is either reused or computed
  cases reusedMetric (reuseEntry options repo s) a <;> simp

/-- Whatever the engine answers, a run that succeeds reports one metric for each distinct
analyzer asked for, in analyzer order, and no other. -/
theorem keys_runAnalysisWith {s s' : σ} {ctx : AnalyzerContext}
    (h : (runAnalysisWith options repo engine schema analyzers).run s = (.ok ctx, s')) :
    ctx.metrics.map Prod.fst = keysOf analyzers := by
  refine map_fst_eq_keysOf ?_ (isSome_metric?_of_runAnalysisWith h)
  obtain ⟨reused, pending, prior, -, -, -, -, rfl⟩ := runAnalysisWith_eq_ok h
  exact sorted_runSettled

end Scanning

/-! ## Runs on stored aggregates -/

section Stored

/-- The metric a run on stored aggregates reports for an analyzer: the failure of its
preconditions, the lack of a stored aggregate for its descriptor, or the metric of the merge of the
stored aggregates, or the failure of the merge. -/
def storedMetric (schema : Schema) (stored : List (Descriptor × List Aggregate)) (a : Analyzer) :
    Metric :=
  match preconditionFailure schema a with
  | some failure => failure
  | none =>
    match get? a.descriptor stored with
    | none => a.failed ⟨.insufficient, "no stored state for " ++ a.descriptor.text⟩
    | some aggs =>
      match Aggregate.mergeAll (Aggregate.empty a.descriptor.computation) aggs with
      | .ok agg => a.computeMetric agg
      | .error e => a.failed ⟨.analysis, e.message⟩

variable {schema : Schema} {stored : List (Descriptor × List Aggregate)}

lemma fst_storedOutcome (acc : List (Analyzer × Metric) × List (Descriptor × Aggregate))
    (a : Analyzer) :
    (storedOutcome schema stored acc a).1 = put a (storedMetric schema stored a) acc.1 := by
  unfold storedOutcome storedMetric
  cases preconditionFailure schema a with
  | some failure => rfl
  | none =>
    dsimp only
    cases get? a.descriptor stored with
    | none => rfl
    | some aggs =>
      dsimp only
      cases Aggregate.mergeAll (Aggregate.empty a.descriptor.computation) aggs <;> rfl

/-- A run on stored aggregates puts the metric of each analyzer in turn. -/
lemma fst_foldl_storedOutcome (l : List Analyzer)
    (acc : List (Analyzer × Metric) × List (Descriptor × Aggregate)) :
    (l.foldl (storedOutcome schema stored) acc).1 =
      l.foldl (fun m a => put a (storedMetric schema stored a) m) acc.1 := by
  induction l generalizing acc with
  | nil => rfl
  | cons a l ih => rw [List.foldl_cons, List.foldl_cons, ih, fst_storedOutcome]

variable {options : AnalysisOptions} {repo : Option (Repository (StateM σ))}
  {analyzers : List Analyzer} {keys : List ResultKey}

/-- A run on stored aggregates that succeeds reports, for each analyzer given, the metric of the
aggregates stored for it under the keys, and nothing for any other analyzer. -/
theorem metric?_of_runOnStoredStates {s s' : σ} {ctx : AnalyzerContext}
    (h : (runOnStoredStates options repo schema analyzers keys).run s = (.ok ctx, s')) :
    ∃ stored, (∀ a ∈ analyzers, ctx.metric? a = some (storedMetric schema stored a)) ∧
      ∀ a ∉ analyzers, ctx.metric? a = none := by
  obtain ⟨r, entries, s₁, -, -, rfl⟩ := runOnStoredStates_eq_ok h
  refine ⟨groupStored entries, fun a ha => ?_, fun a ha => ?_⟩ <;>
    rw [AnalyzerContext.metric?, fst_foldl_storedOutcome, get?_foldl_put, get?_nil, Option.or_none]
  · exact get?_map_self_of_mem _ (List.mem_reverse.mpr (mem_keysOf_iff.mpr ha))
  · exact get?_map_self_of_not_mem _ fun hr => ha (mem_keysOf_iff.mp (List.mem_reverse.mp hr))

/-- A run on stored aggregates that succeeds finds a metric for exactly the analyzers given. -/
lemma isSome_metric?_of_runOnStoredStates {s s' : σ} {ctx : AnalyzerContext}
    (h : (runOnStoredStates options repo schema analyzers keys).run s = (.ok ctx, s'))
    (a : Analyzer) : (ctx.metric? a).isSome ↔ a ∈ analyzers := by
  obtain ⟨stored, hmem, hnot⟩ := metric?_of_runOnStoredStates h
  by_cases ha : a ∈ analyzers
  · simp [hmem a ha, ha]
  · simp [hnot a ha, ha]

/-- A run on stored aggregates that succeeds reports one metric for each distinct analyzer given,
in analyzer order, and no other. -/
theorem keys_runOnStoredStates {s s' : σ} {ctx : AnalyzerContext}
    (h : (runOnStoredStates options repo schema analyzers keys).run s = (.ok ctx, s')) :
    ctx.metrics.map Prod.fst = keysOf analyzers := by
  refine map_fst_eq_keysOf ?_ (isSome_metric?_of_runOnStoredStates h)
  obtain ⟨r, entries, s₁, -, -, rfl⟩ := runOnStoredStates_eq_ok h
  rw [fst_foldl_storedOutcome]
  exact sorted_foldl_put _ _ List.Pairwise.nil _

end Stored

/-! ## Verifications -/

section Verification

/-- Analyzers are derived only when every constraint depends on some, and then every analyzer a
constraint depends on is among them. -/
lemma mem_of_deriveAnalyzers {checks : List Check} {required analyzers : List Analyzer}
    (h : deriveAnalyzers checks required = .ok analyzers) :
    ∀ c ∈ checks, ∀ k ∈ c.constraints, k.analyzers ≠ [] ∧ ∀ a ∈ k.analyzers, a ∈ analyzers := by
  unfold deriveAnalyzers at h
  cases he : emptyConstraint? checks with
  | some e =>
    rw [he] at h
    cases h
  | none =>
    rw [he] at h
    cases h
    intro c hc k hk
    -- no constraint of the checks is without analyzers
    have hnone := Option.map_eq_none_iff.mp (List.findSome?_eq_none_iff.mp he c hc)
    have hne : k.analyzers ≠ [] := by
      simpa using List.find?_eq_none.mp hnone k hk
    refine ⟨hne, fun a ha => mem_keysOf_iff.mpr (List.mem_append_right _ ?_)⟩
    exact List.mem_flatMap.mpr ⟨c, hc, List.mem_flatMap.mpr ⟨k, hk, ha⟩⟩

/-- Checks whose constraints each depend on some analyzer, all with a metric in a context, miss
no metric in it. -/
lemma missingMetric?_eq_none {checks : List Check} {context : AnalyzerContext}
    (h : ∀ c ∈ checks, ∀ k ∈ c.constraints,
      k.analyzers ≠ [] ∧ ∀ a ∈ k.analyzers, (context.metric? a).isSome) :
    missingMetric? checks context = none := by
  refine List.findSome?_eq_none_iff.mpr fun c hc =>
    List.findSome?_eq_none_iff.mpr fun k hk => ?_
  obtain ⟨hne, hall⟩ := h c hc k hk
  rw [if_neg (by simpa using hne), Option.map_eq_none_iff, List.find?_eq_none]
  intro a ha
  simpa [Option.isSome_iff_ne_none] using hall a ha

/-- The checks miss no metric in the context of a run of the analyzers derived from them that
finds a metric for each analyzer it is given. -/
lemma missingMetric?_of_deriveAnalyzers {checks : List Check} {required analyzers : List Analyzer}
    {context : AnalyzerContext} (h : deriveAnalyzers checks required = .ok analyzers)
    (hcontext : ∀ a, (context.metric? a).isSome ↔ a ∈ analyzers) :
    missingMetric? checks context = none :=
  missingMetric?_eq_none fun c hc k hk =>
    have ⟨hne, hall⟩ := mem_of_deriveAnalyzers h c hc k hk
    ⟨hne, fun a ha => (hcontext a).mpr (hall a ha)⟩

variable {options : VerificationOptions} {repo : Option (Repository (StateM σ))}
  {schema : Schema} {checks : List Check} {e : VerificationError}

/-- Whatever the engine answers, a verification fails only where it cannot derive its analyzers
or its run fails: its checks are never judged against a missing metric. -/
theorem verifyWith_error {engine : Engine} {s s' : σ}
    (h : (verifyWith options repo engine schema checks).run s = (.error e, s')) :
    deriveAnalyzers checks options.required = .error e ∨ ∃ r, e = .runner r := by
  unfold verifyWith at h
  cases hd : deriveAnalyzers checks options.required with
  | error e' =>
    rw [hd] at h
    cases h
    exact .inl rfl
  | ok analyzers =>
    rw [hd, StateT.run_bind] at h
    rcases hrun : (runAnalysisWith options.analysis repo engine schema analyzers).run s with
      ⟨_ | ctx, s₁⟩
    · rw [hrun] at h
      cases h
      exact .inr ⟨_, rfl⟩
    · -- the run succeeded with a metric for every analyzer derived, so the checks are judged
      rw [hrun] at h
      change (pure (evaluateChecks checks ctx) : StateM σ _).run s₁ = _ at h
      rw [evaluateChecks,
        missingMetric?_of_deriveAnalyzers hd (isSome_metric?_of_runAnalysisWith hrun)] at h
      cases h

/-- A verification on stored aggregates fails only where it cannot derive its analyzers or its
run fails. -/
theorem verifyStoredStates_error {keys : List ResultKey} {s s' : σ}
    (h : (verifyStoredStates options repo schema checks keys).run s = (.error e, s')) :
    deriveAnalyzers checks options.required = .error e ∨ ∃ r, e = .runner r := by
  unfold verifyStoredStates at h
  cases hd : deriveAnalyzers checks options.required with
  | error e' =>
    rw [hd] at h
    cases h
    exact .inl rfl
  | ok analyzers =>
    rw [hd, StateT.run_bind] at h
    rcases hrun : (runOnStoredStates options.analysis repo schema analyzers keys).run s with
      ⟨_ | ctx, s₁⟩
    · rw [hrun] at h
      cases h
      exact .inr ⟨_, rfl⟩
    · -- the run succeeded with a metric for every analyzer derived, so the checks are judged
      rw [hrun] at h
      change (pure (evaluateChecks checks ctx) : StateM σ _).run s₁ = _ at h
      rw [evaluateChecks,
        missingMetric?_of_deriveAnalyzers hd (isSome_metric?_of_runOnStoredStates hrun)] at h
      cases h

end Verification

/-! ## One metric for each analyzer -/

/-- Whatever its engine answers, a run that succeeds reports one metric for each distinct analyzer
it is given, in analyzer order, whether it scans or reads stored aggregates; so a verification of
either kind fails only where it cannot derive its analyzers or its run fails, never on a metric
that was not computed. -/
theorem runs_report_each_analyzer_once :
    (∀ (options : AnalysisOptions) (repo : Option (Repository (StateM σ))) (engine : Engine)
        (schema : Schema) (analyzers : List Analyzer) (s s' : σ) (ctx : AnalyzerContext),
      (runAnalysisWith options repo engine schema analyzers).run s = (.ok ctx, s') →
        ctx.metrics.map Prod.fst = keysOf analyzers) ∧
    (∀ (options : AnalysisOptions) (repo : Option (Repository (StateM σ))) (schema : Schema)
        (analyzers : List Analyzer) (keys : List ResultKey) (s s' : σ) (ctx : AnalyzerContext),
      (runOnStoredStates options repo schema analyzers keys).run s = (.ok ctx, s') →
        ctx.metrics.map Prod.fst = keysOf analyzers) ∧
    (∀ (options : VerificationOptions) (repo : Option (Repository (StateM σ))) (engine : Engine)
        (schema : Schema) (checks : List Check) (s s' : σ) (e : VerificationError),
      (verifyWith options repo engine schema checks).run s = (.error e, s') →
        deriveAnalyzers checks options.required = .error e ∨ ∃ r, e = .runner r) ∧
    (∀ (options : VerificationOptions) (repo : Option (Repository (StateM σ))) (schema : Schema)
        (checks : List Check) (keys : List ResultKey) (s s' : σ) (e : VerificationError),
      (verifyStoredStates options repo schema checks keys).run s = (.error e, s') →
        deriveAnalyzers checks options.required = .error e ∨ ∃ r, e = .runner r) :=
  ⟨fun _ _ _ _ _ _ _ _ h => keys_runAnalysisWith h, fun _ _ _ _ _ _ _ _ h => keys_runOnStoredStates h,
    fun _ _ _ _ _ _ _ _ h => verifyWith_error h, fun _ _ _ _ _ _ _ _ h => verifyStoredStates_error h⟩

/-- One integer column, two rows. -/
def countsTable : Table := ⟨⟨[{ name := "n", columnType := .integral }]⟩, [[.int 1], [.int 2]]⟩

/-- A run over `countsTable` of an analyzer given twice and one whose precondition fails succeeds,
with one metric for each of the two analyzers. -/
theorem runs_report_each_analyzer_once_countsTable :
    ∃ ctx, (runAnalysis {} (none : Option (Repository (StateM Unit))) 1 countsTable
        [{ statistic := .size }, { statistic := .completeness "m" }, { statistic := .size }]).run () =
        (.ok ctx, ()) ∧
      ctx.metrics.map Prod.fst =
        keysOf [{ statistic := .size }, { statistic := .completeness "m" }, { statistic := .size }] :=
  ⟨_, rfl, runs_report_each_analyzer_once.1 {} none (scanPartitions countsTable 1) countsTable.schema
    _ () () _ rfl⟩

end DataQuality
