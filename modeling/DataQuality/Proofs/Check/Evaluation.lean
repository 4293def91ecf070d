import Mathlib
import DataQuality.Proofs.Run.Coverage

/-!
# How checks are judged

A constraint is judged on the metric of its first analyzer once every analyzer it depends on has
a successful metric.  It is skipped when it has no analyzer, when a dependency has no metric or a
failed one, or when its projection does not apply to the first value
(`Constraint.status_evaluate_eq_skipped_iff`); otherwise it reports the projected number and
succeeds exactly when its assertion holds of it, a test that fails to evaluate counting as a
failure (`Constraint.evaluate_of_projected`).

A check judges its constraints in order.  One that stops on failure keeps the results up to and
including the first failure and reports every later constraint as skipped
(`Check.constraintResults_evaluate`); its status rises to its level exactly when a reported
constraint failed (`Check.status_evaluate`).  Skipped constraints never raise it.

Judging a list of checks on a context refuses a constraint without analyzers, even though such a
constraint misses no metric (`evaluateChecks_of_analyzers_eq_nil`).  When every constraint has
analyzers and all of them have a metric in the context, it reports every check in order under
the worst of their statuses, success when there is none (`evaluateChecks_of_available`).
-/

namespace DataQuality

/-! ## Dependencies -/

/-- The successful value of an analyzer's metric among some metrics. -/
def availableValue? (metrics : List (Analyzer × Metric)) (a : Analyzer) : Option MetricValue :=
  (Ordered.get? a metrics).bind fun m => m.value.toOption

variable {M : List (Analyzer × Metric)}

lemma exists_of_availableValue? {a : Analyzer} {v : MetricValue} (h : availableValue? M a = some v) :
    ∃ m, Ordered.get? a M = some m ∧ m.value = .ok v := by
  obtain ⟨m, hm, hv⟩ := Option.bind_eq_some_iff.mp h
  refine ⟨m, hm, ?_⟩
  cases hval : m.value with
  | error f => rw [hval] at hv; cases hv
  | ok w => rw [hval] at hv; cases hv; rfl

namespace Constraint

/-- With every dependency available, the dependency values are their successful values. -/
lemma dependencyValues_of_available {as : List Analyzer}
    (h : ∀ a ∈ as, (availableValue? M a).isSome) :
    dependencyValues M as = .ok (as.filterMap (availableValue? M)) := by
  induction as with
  | nil => rfl
  | cons a rest ih =>
    obtain ⟨v, hv⟩ := Option.isSome_iff_exists.mp (h a List.mem_cons_self)
    obtain ⟨m, hm, hmv⟩ := exists_of_availableValue? hv
    have hrest := ih fun b hb => h b (List.mem_cons_of_mem a hb)
    rw [dependencyValues, hm]
    simp only [hmv, hrest, List.filterMap_cons, hv]
    rfl

/-- A dependency without a successful metric makes the dependency values an error. -/
lemma dependencyValues_of_unavailable {as : List Analyzer}
    (h : ∃ a ∈ as, availableValue? M a = none) :
    ∃ message, dependencyValues M as = .error message := by
  induction as with
  | nil => simp at h
  | cons a rest ih =>
    cases hm : Ordered.get? a M with
    | none => exact ⟨_, by simp only [dependencyValues, hm]; rfl⟩
    | some m =>
      cases hv : m.value with
      | error f => exact ⟨_, by simp only [dependencyValues, hm, hv]; rfl⟩
      | ok v =>
        have ha : availableValue? M a = some v := by
          simp [availableValue?, hm, hv, Except.toOption]
        obtain ⟨b, hb, hbv⟩ := h
        rcases List.mem_cons.mp hb with rfl | hb'
        · rw [ha] at hbv; cases hbv
        · obtain ⟨message, he⟩ := ih ⟨b, hb', hbv⟩
          exact ⟨message, by simp only [dependencyValues, hm, hv, he]; rfl⟩

/-! ## One constraint -/

variable {k : Constraint}

/-- A constraint is always described by its description. -/
lemma constraint_evaluate (k : Constraint) (M : List (Analyzer × Metric)) :
    (k.evaluate M).constraint = k.description := by
  unfold evaluate
  rcases dependencyValues M k.analyzers with _ | _ | ⟨first, _⟩
  · rfl
  · rfl
  · dsimp only
    rcases k.projection.apply first with _ | x
    · rfl
    · dsimp only
      rcases k.assertion.holds x with _ | _ | _ <;> rfl

/-- A dependency without a successful metric skips the constraint. -/
lemma evaluate_of_unavailable (h : ∃ a ∈ k.analyzers, availableValue? M a = none) :
    (k.evaluate M).status = .skipped ∧ (k.evaluate M).metricValue = none := by
  obtain ⟨message, he⟩ := dependencyValues_of_unavailable h
  unfold evaluate
  rw [he]
  exact ⟨rfl, rfl⟩

/-- A constraint without analyzers is skipped. -/
lemma evaluate_of_analyzers_eq_nil (h : k.analyzers = []) :
    (k.evaluate M).status = .skipped ∧ (k.evaluate M).metricValue = none := by
  unfold evaluate
  rw [h]
  exact ⟨rfl, rfl⟩

/-- The dependency values of a constraint whose dependencies are all available, the first
being `v`. -/
lemma dependencyValues_of_first {a : Analyzer} {rest : List Analyzer} {v : MetricValue}
    (hk : k.analyzers = a :: rest) (hrest : ∀ b ∈ rest, (availableValue? M b).isSome)
    (ha : availableValue? M a = some v) :
    dependencyValues M k.analyzers = .ok (v :: rest.filterMap (availableValue? M)) := by
  have hall : ∀ b ∈ k.analyzers, (availableValue? M b).isSome := by
    rw [hk]
    intro b hb
    rcases List.mem_cons.mp hb with rfl | hb'
    · simp [ha]
    · exact hrest b hb'
  rw [dependencyValues_of_available hall, hk, List.filterMap_cons, ha]

/-- A projection that does not apply to the first value skips the constraint. -/
lemma evaluate_of_unprojectable {a : Analyzer} {rest : List Analyzer} {v : MetricValue}
    (hk : k.analyzers = a :: rest) (hrest : ∀ b ∈ rest, (availableValue? M b).isSome)
    (ha : availableValue? M a = some v) (hv : k.projection.apply v = none) :
    (k.evaluate M).status = .skipped ∧ (k.evaluate M).metricValue = none := by
  unfold evaluate
  rw [dependencyValues_of_first hk hrest ha]
  simp [hv]

/-- A constraint whose first value projects to `x` reports `x`, and succeeds exactly when its
assertion holds of `x`; an assertion that is false or fails to evaluate is a failure. -/
lemma evaluate_of_projected {a : Analyzer} {rest : List Analyzer} {v : MetricValue} {x : Float}
    (hk : k.analyzers = a :: rest) (hrest : ∀ b ∈ rest, (availableValue? M b).isSome)
    (ha : availableValue? M a = some v) (hx : k.projection.apply v = some x) :
    (k.evaluate M).metricValue = some x ∧
      ((k.evaluate M).status = .success ↔ k.assertion.holds x = .ok true) ∧
      ((k.evaluate M).status = .failure ↔ k.assertion.holds x ≠ .ok true) := by
  unfold evaluate
  rw [dependencyValues_of_first hk hrest ha]
  simp only [hx]
  -- the three outcomes of the assertion: it holds, it does not, or its test fails
  cases hholds : k.assertion.holds x with
  | ok b => cases b <;> simp
  | error message => simp

/-- A constraint is skipped exactly when it has no analyzers, when some dependency has no
successful metric, or when its projection does not apply to the value of the first. -/
theorem status_evaluate_eq_skipped_iff :
    (k.evaluate M).status = .skipped ↔
      k.analyzers = [] ∨ (∃ a ∈ k.analyzers, availableValue? M a = none) ∨
        ∃ a rest v, k.analyzers = a :: rest ∧ availableValue? M a = some v ∧
          k.projection.apply v = none := by
  constructor
  · intro hskip
    by_contra hnot
    simp only [not_or, not_exists, not_and] at hnot
    obtain ⟨hne, hall, hproj⟩ := hnot
    obtain ⟨a, rest, hk⟩ := List.exists_cons_of_ne_nil hne
    have havail : ∀ b ∈ k.analyzers, (availableValue? M b).isSome := fun b hb =>
      Option.isSome_iff_ne_none.mpr (hall b hb)
    obtain ⟨v, hv⟩ := Option.isSome_iff_exists.mp (havail a (hk ▸ List.mem_cons_self))
    obtain ⟨x, hx⟩ := Option.ne_none_iff_exists'.mp (hproj a rest v hk hv)
    have hrest : ∀ b ∈ rest, (availableValue? M b).isSome := fun b hb =>
      havail b (hk ▸ List.mem_cons_of_mem a hb)
    obtain ⟨-, hsucc, hfail⟩ := evaluate_of_projected hk hrest hv hx
    by_cases hh : k.assertion.holds x = .ok true
    · rw [hsucc.mpr hh] at hskip; cases hskip
    · rw [hfail.mpr hh] at hskip; cases hskip
  · rintro (hnil | hmiss | ⟨a, rest, v, hk, hv, hproj⟩)
    · exact (evaluate_of_analyzers_eq_nil hnil).1
    · exact (evaluate_of_unavailable hmiss).1
    · by_cases hrest : ∀ b ∈ rest, (availableValue? M b).isSome
      · exact (evaluate_of_unprojectable hk hrest hv hproj).1
      · push Not at hrest
        obtain ⟨b, hb, hbv⟩ := hrest
        refine (evaluate_of_unavailable ⟨b, hk ▸ List.mem_cons_of_mem a hb, ?_⟩).1
        simpa using hbv

/-- What a check that stops on failure reports for a constraint after its first failure. -/
def skippedAfterFailure (k : Constraint) : ConstraintResult :=
  ⟨k.description, .skipped, some "skipped after an earlier failure", none⟩

end Constraint

/-! ## One check -/

/-- The status of a check of a level with a failed constraint. -/
def CheckLevel.failedStatus : CheckLevel → CheckStatus
  | .warning => .warning
  | .error => .error

namespace Check

/-- Constraints judged in turn up to and including the first failure, every later constraint
skipped. -/
def judgedUpToFailure (M : List (Analyzer × Metric)) (ks : List Constraint) :
    List ConstraintResult :=
  let judged := ks.map (·.evaluate M)
  let kept := judged.findIdx (·.status == .failure) + 1
  judged.take kept ++ (ks.drop kept).map Constraint.skippedAfterFailure

/-- The results a check reports by its documented rule: every constraint judged on the metrics,
except that a check stopping on failure skips every constraint after the first failure. -/
def reportedResults (c : Check) (M : List (Analyzer × Metric)) : List ConstraintResult :=
  if c.stopOnFailure then judgedUpToFailure M c.constraints else c.constraints.map (·.evaluate M)

lemma judgedUpToFailure_cons (k : Constraint) (ks : List Constraint) :
    judgedUpToFailure M (k :: ks) =
      if (k.evaluate M).status == .failure then k.evaluate M :: ks.map Constraint.skippedAfterFailure
      else k.evaluate M :: judgedUpToFailure M ks := by
  unfold judgedUpToFailure
  cases hk : (k.evaluate M).status == .failure <;>
    simp [List.findIdx_cons, hk]

/-- Stopping at the first failure keeps a failure exactly when there is one. -/
lemma any_judgedUpToFailure (ks : List Constraint) :
    (judgedUpToFailure M ks).any (·.status == .failure) =
      (ks.map (·.evaluate M)).any (·.status == .failure) := by
  induction ks with
  | nil => rfl
  | cons k ks ih =>
    rw [judgedUpToFailure_cons]
    cases hk : (k.evaluate M).status == .failure
    · simp [hk, ih]
    · simp [hk]

lemma length_reportedResults (c : Check) :
    (c.reportedResults M).length = c.constraints.length := by
  unfold reportedResults judgedUpToFailure
  split <;> simp
  omega

/-- `step` judges the next constraint as a check does: after a failure, when the check stops on
failure, it skips the constraint, and otherwise it judges it and notes whether it failed. -/
def JudgesInTurn (c : Check) (M : List (Analyzer × Metric))
    (step : Bool × List ConstraintResult → Constraint → Bool × List ConstraintResult) : Prop :=
  ∀ failed results k, step (failed, results) k =
    if c.stopOnFailure && failed then (failed, results ++ [k.skippedAfterFailure])
    else (failed || (k.evaluate M).status == .failure, results ++ [k.evaluate M])

section Fold

variable {c : Check} {step : Bool × List ConstraintResult → Constraint → Bool × List ConstraintResult}

/-- After a failure, a check that stops on failure skips everything. -/
lemma foldl_of_failed (h : JudgesInTurn c M step) (hstop : c.stopOnFailure = true)
    (ks : List Constraint) (results : List ConstraintResult) :
    ks.foldl step (true, results) = (true, results ++ ks.map Constraint.skippedAfterFailure) := by
  induction ks generalizing results with
  | nil => simp
  | cons k ks ih =>
    rw [List.foldl_cons, h, hstop]
    simp [ih]

/-- A check that goes on after failures judges every constraint. -/
lemma foldl_of_not_stop (h : JudgesInTurn c M step) (hstop : c.stopOnFailure = false)
    (ks : List Constraint) (failed : Bool) (results : List ConstraintResult) :
    ks.foldl step (failed, results) =
      (failed || (ks.map (·.evaluate M)).any (·.status == .failure),
        results ++ ks.map (·.evaluate M)) := by
  induction ks generalizing failed results with
  | nil => simp
  | cons k ks ih =>
    rw [List.foldl_cons, h, hstop]
    simp [ih, Bool.or_assoc]

/-- A check that stops on failure judges the constraints up to its first failure. -/
lemma foldl_of_stop (h : JudgesInTurn c M step) (hstop : c.stopOnFailure = true)
    (ks : List Constraint) (results : List ConstraintResult) :
    ks.foldl step (false, results) =
      ((ks.map (·.evaluate M)).any (·.status == .failure), results ++ judgedUpToFailure M ks) := by
  induction ks generalizing results with
  | nil => simp [judgedUpToFailure]
  | cons k ks ih =>
    rw [List.foldl_cons, h, judgedUpToFailure_cons]
    -- the first constraint either fails, after which all are skipped, or the search goes on
    cases hk : (k.evaluate M).status == .failure
    · simp [hk, ih]
    · simp [hk, foldl_of_failed h hstop]

end Fold

/-- A check reports its constraints by the documented rule. -/
theorem constraintResults_evaluate (c : Check) :
    (c.evaluate M).constraintResults = c.reportedResults M := by
  unfold evaluate reportedResults
  rcases Bool.eq_false_or_eq_true c.stopOnFailure with hstop | hstop
  · rw [foldl_of_stop (fun _ _ _ => rfl) hstop]
    simp [hstop]
  · rw [foldl_of_not_stop (fun _ _ _ => rfl) hstop]
    simp [hstop]

/-- A check rises to its level exactly when one of its reported constraints failed. -/
theorem status_evaluate (c : Check) :
    (c.evaluate M).status =
      if (c.evaluate M).constraintResults.any (·.status == .failure) then c.level.failedStatus
      else .success := by
  rw [constraintResults_evaluate]
  unfold evaluate reportedResults
  rcases Bool.eq_false_or_eq_true c.stopOnFailure with hstop | hstop
  · rw [foldl_of_stop (fun _ _ _ => rfl) hstop, if_pos hstop, any_judgedUpToFailure]
    cases (c.constraints.map (·.evaluate M)).any (·.status == .failure) <;>
      cases c.level <;> rfl
  · rw [foldl_of_not_stop (fun _ _ _ => rfl) hstop, hstop, Bool.false_or]
    simp only [Bool.false_eq_true, if_false]
    cases (c.constraints.map (·.evaluate M)).any (·.status == .failure) <;>
      cases c.level <;> rfl

end Check

/-! ## Checks on a context -/

/-- `s` is the worst of some check statuses: at least as bad as each of them, and one of them
or success. -/
def IsWorstStatus (s : CheckStatus) (ss : List CheckStatus) : Prop :=
  (∀ t ∈ ss, t.rank ≤ s.rank) ∧ (s = .success ∨ s ∈ ss)

namespace CheckStatus

lemma rank_le_worse_left (a b : CheckStatus) : a.rank ≤ (a.worse b).rank := by
  unfold worse
  split <;> omega

lemma rank_le_worse_right (a b : CheckStatus) : b.rank ≤ (a.worse b).rank := by
  unfold worse
  split <;> omega

lemma worse_eq_or (a b : CheckStatus) : a.worse b = a ∨ a.worse b = b := by
  unfold worse
  split
  · exact .inr rfl
  · exact .inl rfl

end CheckStatus

/-- Folding `worse` from `s` over some statuses gives the worst of `s` and of them. -/
lemma isWorstStatus_foldl_worse (rs : List CheckResult) (s : CheckStatus) :
    IsWorstStatus (rs.foldl (fun s r => s.worse r.status) s) (s :: rs.map (·.status)) := by
  induction rs generalizing s with
  | nil => exact ⟨by simp, .inr List.mem_cons_self⟩
  | cons r rs ih =>
    obtain ⟨hle, hmem⟩ := ih (s.worse r.status)
    rw [List.foldl_cons]
    refine ⟨fun t ht => ?_, ?_⟩
    · rcases List.mem_cons.mp ht with rfl | ht
      · exact (CheckStatus.rank_le_worse_left _ _).trans (hle _ List.mem_cons_self)
      · rcases List.mem_cons.mp ht with rfl | ht
        · exact (CheckStatus.rank_le_worse_right _ _).trans (hle _ List.mem_cons_self)
        · exact hle t (List.mem_cons_of_mem _ ht)
    -- the worst is the start's worse with the first status, or one of the later statuses
    · rcases hmem with hs | hs
      · exact .inl hs
      · rcases List.mem_cons.mp hs with hs | hs
        · rcases CheckStatus.worse_eq_or s r.status with hw | hw
          · exact .inr (by rw [hs, hw]; exact List.mem_cons_self)
          · exact .inr (by rw [hs, hw]; exact List.mem_cons_of_mem _ List.mem_cons_self)
        · exact .inr (List.mem_cons_of_mem _ (List.mem_cons_of_mem _ hs))

/-- Starting from success, folding `worse` gives the worst status, success when there is none. -/
lemma isWorstStatus_foldl_worse_success (rs : List CheckResult) :
    IsWorstStatus (rs.foldl (fun s r => s.worse r.status) .success) (rs.map (·.status)) := by
  obtain ⟨hle, hmem⟩ := isWorstStatus_foldl_worse rs .success
  refine ⟨fun t ht => hle t (List.mem_cons_of_mem _ ht), ?_⟩
  rcases hmem with hs | hs
  · exact .inl hs
  · rcases List.mem_cons.mp hs with hs | hs
    · exact .inl hs
    · exact .inr hs

variable {checks : List Check} {context : AnalyzerContext}

/-- What is missing from a context for some checks is always an invalid check. -/
lemma invalidCheck_of_missingMetric? {e : VerificationError}
    (h : missingMetric? checks context = some e) :
    ∃ check message, e = .invalidCheck check message := by
  obtain ⟨c, -, hc⟩ := List.exists_of_findSome?_eq_some h
  obtain ⟨k, -, hk⟩ := List.exists_of_findSome?_eq_some hc
  split at hk
  · exact ⟨_, _, (Option.some.inj hk).symm⟩
  · obtain ⟨a, -, rfl⟩ := Option.map_eq_some_iff.mp hk
    exact ⟨_, _, rfl⟩

/-- A constraint without analyzers makes judging the checks fail as an invalid check, whatever
the context holds. -/
theorem evaluateChecks_of_analyzers_eq_nil
    (h : ∃ c ∈ checks, ∃ k ∈ c.constraints, k.analyzers = []) :
    ∃ check message, evaluateChecks checks context = .error (.invalidCheck check message) := by
  obtain ⟨c, hc, k, hk, hnil⟩ := h
  have hmissing : missingMetric? checks context ≠ none := by
    intro hnone
    have hfound := List.findSome?_eq_none_iff.mp
      (List.findSome?_eq_none_iff.mp hnone c hc) k hk
    rw [if_pos (by simp [hnil])] at hfound
    cases hfound
  obtain ⟨e, he⟩ := Option.ne_none_iff_exists'.mp hmissing
  obtain ⟨check, message, rfl⟩ := invalidCheck_of_missingMetric? he
  exact ⟨check, message, by rw [evaluateChecks, he]⟩

/-- When every constraint depends on analyzers that all have a metric in the context, judging the
checks reports each check in order under the worst of their statuses, success when there is
none. -/
theorem evaluateChecks_of_available
    (h : ∀ c ∈ checks, ∀ k ∈ c.constraints,
      k.analyzers ≠ [] ∧ ∀ a ∈ k.analyzers, (context.metric? a).isSome) :
    ∃ r, evaluateChecks checks context = .ok r ∧
      r.checkResults = checks.map (·.evaluate context.metrics) ∧
      IsWorstStatus r.status (r.checkResults.map (·.status)) ∧ r.metrics = context := by
  refine ⟨_, by rw [evaluateChecks, missingMetric?_eq_none h], rfl, ?_, rfl⟩
  exact isWorstStatus_foldl_worse_success _

/-! ## The rules of judging -/

/-- Checks are judged by their documented rules.  A constraint is skipped exactly when it has no
analyzers, a dependency has no successful metric, or its projection does not apply to the first
value; otherwise it reports the projected number and succeeds exactly when its assertion holds of
it.  A check reports its constraints in order, skipping those after the first failure when it
stops on failure, and rises to its level exactly when a reported constraint failed.  Checks with a
constraint without analyzers are refused on any context; otherwise, with every dependency in the
context, they are reported in order under the worst of their statuses. -/
theorem checks_judged_by_rule :
    (∀ (k : Constraint) (M : List (Analyzer × Metric)),
      (k.evaluate M).constraint = k.description ∧
      ((k.evaluate M).status = .skipped ↔
        k.analyzers = [] ∨ (∃ a ∈ k.analyzers, availableValue? M a = none) ∨
          ∃ a rest v, k.analyzers = a :: rest ∧ availableValue? M a = some v ∧
            k.projection.apply v = none) ∧
      ∀ a rest v x, k.analyzers = a :: rest → (∀ b ∈ rest, (availableValue? M b).isSome) →
        availableValue? M a = some v → k.projection.apply v = some x →
        (k.evaluate M).metricValue = some x ∧
          ((k.evaluate M).status = .success ↔ k.assertion.holds x = .ok true) ∧
          ((k.evaluate M).status = .failure ↔ k.assertion.holds x ≠ .ok true)) ∧
    (∀ (c : Check) (M : List (Analyzer × Metric)),
      (c.evaluate M).constraintResults = c.reportedResults M ∧
      (c.evaluate M).constraintResults.length = c.constraints.length ∧
      (c.evaluate M).status =
        if (c.evaluate M).constraintResults.any (·.status == .failure) then c.level.failedStatus
        else .success) ∧
    (∀ (checks : List Check) (context : AnalyzerContext),
      (∃ c ∈ checks, ∃ k ∈ c.constraints, k.analyzers = []) →
      ∃ check message, evaluateChecks checks context = .error (.invalidCheck check message)) ∧
    ∀ (checks : List Check) (context : AnalyzerContext),
      (∀ c ∈ checks, ∀ k ∈ c.constraints,
        k.analyzers ≠ [] ∧ ∀ a ∈ k.analyzers, (context.metric? a).isSome) →
      ∃ r, evaluateChecks checks context = .ok r ∧
        r.checkResults = checks.map (·.evaluate context.metrics) ∧
        IsWorstStatus r.status (r.checkResults.map (·.status)) := by
  refine ⟨fun k M => ⟨Constraint.constraint_evaluate k M, Constraint.status_evaluate_eq_skipped_iff,
      fun a rest v x hk hrest ha hx => Constraint.evaluate_of_projected hk hrest ha hx⟩,
    fun c M => ⟨Check.constraintResults_evaluate c, ?_, Check.status_evaluate c⟩,
    fun _ _ h => evaluateChecks_of_analyzers_eq_nil h, fun _ _ h => ?_⟩
  · rw [Check.constraintResults_evaluate, Check.length_reportedResults]
  · obtain ⟨r, hr, hresults, hworst, -⟩ := evaluateChecks_of_available h
    exact ⟨r, hr, hresults, hworst⟩

/-- A warning check that the dataset holds at least one row. -/
def volumeCheck : Check :=
  { level := .warning, description := "volume", constraints := [.on ⟨.size, none⟩ (.atLeast 1)] }

/-- A context where the size of the dataset is five. -/
def fiveRows : AnalyzerContext := ⟨[(⟨.size, none⟩, ⟨.dataset, "*", "Size", .ok (.long 5)⟩)]⟩

/-- The volume check judged where the size is five: every dependency is there, and the check is
reported in order under the worst status. -/
theorem checks_judged_by_rule_volumeCheck :
    (∀ c ∈ [volumeCheck], ∀ k ∈ c.constraints,
        k.analyzers ≠ [] ∧ ∀ a ∈ k.analyzers, (fiveRows.metric? a).isSome) ∧
      ∃ r, evaluateChecks [volumeCheck] fiveRows = .ok r ∧
        r.checkResults = [volumeCheck.evaluate fiveRows.metrics] ∧
        IsWorstStatus r.status (r.checkResults.map (·.status)) := by
  have h : ∀ c ∈ [volumeCheck], ∀ k ∈ c.constraints,
      k.analyzers ≠ [] ∧ ∀ a ∈ k.analyzers, (fiveRows.metric? a).isSome := by
    simp only [List.mem_singleton, forall_eq, volumeCheck, Constraint.on]
    exact ⟨List.cons_ne_nil _ _, by decide⟩
  exact ⟨h, checks_judged_by_rule.2.2.2 _ _ h⟩

/-- A check of level error whose one constraint, `>= 0`, has no analyzers. -/
def checkWithoutAnalyzers : Check :=
  { level := .error, description := "noanalyzer", constraints := [{ analyzers := [], assertion := .atLeast 0 }] }

/-- Judging a check whose constraint has no analyzers is refused even on a context that misses
none of its dependencies. -/
theorem evaluateChecks_refuses_constraint_without_analyzers :
    (∀ c ∈ [checkWithoutAnalyzers], ∀ k ∈ c.constraints, ∀ a ∈ k.analyzers,
        ((⟨[]⟩ : AnalyzerContext).metric? a).isSome) ∧
      ∀ r, evaluateChecks [checkWithoutAnalyzers] ⟨[]⟩ ≠ .ok r := by
  refine ⟨by simp [checkWithoutAnalyzers], fun r hr => ?_⟩
  have hnil : ∃ c ∈ [checkWithoutAnalyzers], ∃ k ∈ c.constraints, k.analyzers = [] :=
    ⟨checkWithoutAnalyzers, List.mem_singleton_self _, _, List.mem_singleton_self _, rfl⟩
  obtain ⟨check, message, he⟩ := @evaluateChecks_of_analyzers_eq_nil _ ⟨[]⟩ hnil
  rw [he] at hr
  cases hr

end DataQuality
