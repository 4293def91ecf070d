import Mathlib
import DataQuality.Proofs.Run.Report

/-!
# Runs against a repository kept in a state

A repository whose operations run on a state, `Repository (StateM σ)`, stands for any repository:
the one in memory and the one in a directory are both of this form.  A run against it reads the
repository before it computes anything and writes it only after: it checks that the options that
need a repository have one, loads the entry whose metrics it reuses (`reuseEntry`), then the
entries it aggregates with (`priorEntries`), and persists what it computed last.

So a run that succeeds reports the metrics `runSettled` computes from what it loaded
(`runAnalysisWith_eq_ok`): the successful metrics of the reused entry for the analyzers that
have one, and the others computed against the aggregates stored for their descriptors
(`storedStates`).  Each step is read through the inversion of a bind (`run_bind_eq_ok`), one
lemma per step.
-/

namespace DataQuality

open Ordered

variable {σ : Type}

/-! ## Steps that succeed -/

section Steps

/-- A bind of steps that succeeds ran both steps with success, the second from the state the
first left. -/
lemma run_bind_eq_ok {α β : Type} {x : RunStep (StateM σ) α} {f : α → RunStep (StateM σ) β}
    {s s' : σ} {b : β} (h : (x >>= f).run.run s = (.ok b, s')) :
    ∃ a s₁, x.run.run s = (.ok a, s₁) ∧ (f a).run.run s₁ = (.ok b, s') := by
  rw [ExceptT.run_bind, StateT.run_bind] at h
  rcases hx : x.run.run s with ⟨_ | a, s₁⟩
  · rw [hx] at h
    cases h
  · rw [hx] at h
    exact ⟨a, s₁, rfl, h⟩

/-- A repository operation that succeeds as a step of a run succeeded in the repository. -/
lemma repositoryStep_eq_ok {α : Type} {x : StateM σ (Except RepositoryError α)} {s s' : σ} {a : α}
    (h : (repositoryStep x).run.run s = (.ok a, s')) : x.run s = (.ok a, s') := by
  rw [repositoryStep, ExceptT.run_mk, StateT.run_map] at h
  rcases hx : x.run s with ⟨_ | b, s₁⟩ <;> rw [hx] at h <;> cases h
  rfl

/-- A run that needs a repository and gets one goes on with it, the state untouched. -/
lemma needRepository_eq_ok {repo : Option (Repository (StateM σ))} {purpose : String}
    {r : Repository (StateM σ)} {s s' : σ} (h : (needRepository repo purpose).run.run s = (.ok r, s')) :
    repo = some r ∧ s' = s := by
  cases repo with
  | none => cases h
  | some r' =>
    cases h
    exact ⟨rfl, rfl⟩

end Steps

/-! ## What a run loads -/

section Loading

variable (options : AnalysisOptions) (repo : Option (Repository (StateM σ)))

/-- The entry a run reuses metrics from, as loaded from a state: the one stored under the key of
`reuse_results_for`, if there is one. -/
def reuseEntry (s : σ) : Option Entry :=
  match options.reuseResultsFor, repo with
  | some key, some r => match ((r.load key).run s).1 with
    | .ok entry => entry
    | .error _ => none
  | _, _ => none

/-- The state after a run loaded the entry it reuses metrics from. -/
def afterReuse (s : σ) : σ :=
  match options.reuseResultsFor, repo with
  | some key, some r => ((r.load key).run s).2
  | _, _ => s

/-- The entries under the keys of `aggregate_with`, in order, as loaded from a state. -/
def priorEntries (s : σ) : List (Option Entry) :=
  match repo with
  | some r => match ((options.aggregateWith.mapM fun k => repositoryStep (r.load k)).run.run s).1 with
    | .ok entries => entries
    | .error _ => []
  | none => []

/-- The aggregates stored for a descriptor in some entries, in the order of the entries. -/
def storedStates (entries : List (Option Entry)) (d : Descriptor) : List Aggregate :=
  entries.filterMap fun e => e.bind (get? d ·.states)

/-- The metric an entry holds for an analyzer, when there is one and it succeeded. -/
def reusedMetric (entry : Option Entry) (a : Analyzer) : Option Metric :=
  entry.bind (·.successfulMetric? a)

variable {options repo}

/-- The step that reuses metrics, when it succeeds, takes the successful metrics of the entry
loaded and leaves the other analyzers to compute. -/
lemma reuseStored_eq_ok {requested pending : List Analyzer} {reused : List (Analyzer × Metric)}
    {s s₁ : σ} (h : (reuseStored options repo requested).run.run s = (.ok (reused, pending), s₁)) :
    reused = requested.filterMap (fun a => (reusedMetric (reuseEntry options repo s) a).map (a, ·)) ∧
      pending = requested.filter (fun a => (reusedMetric (reuseEntry options repo s) a).isNone) ∧
      s₁ = afterReuse options repo s := by
  unfold reuseStored at h
  cases hkey : options.reuseResultsFor with
  | none =>
    -- nothing to reuse: every analyzer is still to compute
    rw [hkey] at h
    cases h
    simp [reuseEntry, afterReuse, hkey, reusedMetric]
  | some key =>
    rw [hkey] at h
    obtain ⟨r, s₀, hr, hload⟩ := run_bind_eq_ok h
    obtain ⟨rfl, rfl⟩ := needRepository_eq_ok hr
    obtain ⟨entry, s₂, hentry, hcheck⟩ := run_bind_eq_ok hload
    have hentry := repositoryStep_eq_ok hentry
    -- the check of missing results either fails the run or lets it go on
    dsimp only at hcheck
    split at hcheck
    · cases hcheck
    · cases hcheck
      simp [reuseEntry, afterReuse, hkey, hentry, reusedMetric]

/-- The step that loads stored aggregates, when it succeeds, finds for each descriptor asked about
the aggregates stored for it in the entries aggregated with. -/
lemma priorStates_eq_ok {ds : List Descriptor} {prior : List (Descriptor × List Aggregate)}
    {s s₁ : σ} (h : (priorStates options repo ds).run.run s = (.ok prior, s₁)) :
    ∀ d ∈ ds, (get? d prior).getD [] = storedStates (priorEntries options repo s) d := by
  intro d hd
  unfold priorStates at h
  by_cases hempty : options.aggregateWith.isEmpty
  · -- nothing to aggregate with: no entry and no aggregate
    rw [if_pos hempty] at h
    cases h
    have hnil : options.aggregateWith = [] := List.isEmpty_iff.mp hempty
    cases repo <;> simp [priorEntries, storedStates, hnil, pure, ExceptT.pure, ExceptT.run,
      ExceptT.mk, StateT.run, StateT.pure]
  · rw [if_neg hempty] at h
    obtain ⟨r, s₀, hr, hload⟩ := run_bind_eq_ok h
    obtain ⟨rfl, rfl⟩ := needRepository_eq_ok hr
    obtain ⟨entries, s₂, hentries, hprior⟩ := run_bind_eq_ok hload
    cases hprior
    rw [get?_map_self_of_mem _ hd]
    simp [priorEntries, hentries, storedStates]

end Loading

/-! ## Runs that succeed -/

section Runs

variable {options : AnalysisOptions} {repo : Option (Repository (StateM σ))} {engine : Engine}
  {schema : Schema} {analyzers : List Analyzer}

/-- A run that succeeds reports the metrics computed from the analyzers it reuses and those it
still had to compute, and the stored aggregates it loaded. -/
theorem runAnalysisWith_eq_ok {s s' : σ} {ctx : AnalyzerContext}
    (h : (runAnalysisWith options repo engine schema analyzers).run s = (.ok ctx, s')) :
    ∃ reused pending prior s₁ s₂,
      (reuseStored options repo (keysOf analyzers)).run.run s = (.ok (reused, pending), s₁) ∧
      (priorStates options repo ((groupByDescriptor schema pending).map (·.1))).run.run s₁ =
        (.ok prior, s₂) ∧
      ctx = ⟨(runSettled options engine schema reused pending prior).1⟩ := by
  -- the check of the repository fails the run or changes nothing
  replace h :
      (reuseStored options repo (keysOf analyzers) >>= fun p =>
        priorStates options repo ((groupByDescriptor schema p.2).map (·.1)) >>= fun prior =>
        persist options repo (runSettled options engine schema p.1 p.2 prior).1
            (runSettled options engine schema p.1 p.2 prior).2 >>= fun _ =>
        (pure ⟨(runSettled options engine schema p.1 p.2 prior).1⟩ :
          RunStep (StateM σ) AnalyzerContext)).run.run s = (.ok ctx, s') := by
    unfold runAnalysisWith at h
    split at h
    · cases repo with
      | none => cases h
      | some r =>
        obtain ⟨_, s₀, hd, h⟩ := run_bind_eq_ok h
        cases hd
        exact h
    · exact h
  obtain ⟨⟨reused, pending⟩, s₁, hreuse, hload⟩ := run_bind_eq_ok h
  obtain ⟨prior, s₂, hprior, hpersist⟩ := run_bind_eq_ok hload
  obtain ⟨-, s₃, -, hreturn⟩ := run_bind_eq_ok hpersist
  cases hreturn
  exact ⟨reused, pending, prior, s₁, s₂, hreuse, hprior, rfl⟩

/-- A run on stored aggregates that succeeds loaded the entries of its keys from its repository, and
reports the metrics computed from them alone. -/
theorem runOnStoredStates_eq_ok {keys : List ResultKey} {s s' : σ} {ctx : AnalyzerContext}
    (h : (runOnStoredStates options repo schema analyzers keys).run s = (.ok ctx, s')) :
    ∃ r entries s₁, repo = some r ∧
      (keys.mapM fun k => repositoryStep (r.load k)).run.run s = (.ok entries, s₁) ∧
      ctx = ⟨((keysOf analyzers).foldl (storedOutcome schema (groupStored entries)) ([], [])).1⟩ := by
  unfold runOnStoredStates at h
  obtain ⟨r, s₀, hr, hload⟩ := run_bind_eq_ok h
  obtain ⟨rfl, rfl⟩ := needRepository_eq_ok hr
  obtain ⟨entries, s₁, hentries, hpersist⟩ := run_bind_eq_ok hload
  obtain ⟨-, s₂, -, hreturn⟩ := run_bind_eq_ok hpersist
  cases hreturn
  exact ⟨r, entries, s₁, rfl, hentries, rfl⟩

end Runs

end DataQuality
