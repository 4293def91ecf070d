import Mathlib
import DataQuality.Proofs.Run.Effects

/-!
# Runs against a store

A repository kept in a state is a store when it behaves as a finite map of entries seen through
some view of the state (`Repository.IsStore`): loading a key finds the entry the view holds under
it and leaves the view as it was, and saving an entry puts it under its key.  The in-memory
repository is a store of the state itself (`MemoryStore.isStore`).

Against a store no repository step fails, so the runs that read and write it succeed, and what
they write is known: a run that saves its aggregates under a key appends them to the entry stored
there (`runAnalysisWith_saveStates`), a run that aggregates with stored keys reads the entries
under them (`runAnalysisWith_aggregate`), and a run on stored aggregates reads the entries of its
keys and writes nothing (`runOnStoredStates_of_store`).  Each is assembled from one lemma per step
(`run_bind_of_ok`).
-/

namespace DataQuality

open Ordered

variable {σ : Type}

/-- A repository kept in a state stores entries as `view` shows them when loading a key finds the
entry the view holds under it, leaving the view as it was, and saving an entry puts it under its
key. -/
structure Repository.IsStore (r : Repository (StateM σ)) (view : σ → List (ResultKey × Entry)) :
    Prop where
  load : ∀ k s, ((r.load k).run s).1 = .ok (get? k (view s)) ∧ view ((r.load k).run s).2 = view s
  save : ∀ e s, ((r.save e).run s).1 = .ok () ∧ view ((r.save e).run s).2 = put e.key e (view s)

/-- The in-memory repository kept as the state. -/
abbrev memoryRepository : Repository (StateM MemoryStore) :=
  MemoryStore.repository get set

/-- The in-memory repository over the state is a store of the state itself. -/
theorem MemoryStore.isStore :
    (MemoryStore.repository (get : StateM MemoryStore MemoryStore) set).IsStore id where
  load _ _ := ⟨rfl, rfl⟩
  save _ _ := ⟨rfl, rfl⟩

/-! ## Steps against a store -/

section Steps

/-- A bind whose first step succeeds goes on with the second from the state the first left. -/
lemma run_bind_of_ok {α β : Type} {x : RunStep (StateM σ) α} {f : α → RunStep (StateM σ) β}
    {s s₁ : σ} {a : α} (h : x.run.run s = (.ok a, s₁)) :
    (x >>= f).run.run s = (f a).run.run s₁ := by
  rw [ExceptT.run_bind, StateT.run_bind, h]
  rfl

/-- A repository operation that succeeds succeeds as a step of a run. -/
lemma repositoryStep_of_ok {α : Type} {x : StateM σ (Except RepositoryError α)} {s s₁ : σ} {a : α}
    (h : x.run s = (.ok a, s₁)) : (repositoryStep x).run.run s = (.ok a, s₁) := by
  rw [repositoryStep, ExceptT.run_mk, StateT.run_map, h]
  rfl

variable {r : Repository (StateM σ)} {view : σ → List (ResultKey × Entry)}

/-- Loading a key from a store finds the entry under it and leaves the store as it was. -/
lemma Repository.IsStore.loadStep (hr : r.IsStore view) (k : ResultKey) (s : σ) :
    ∃ s₁, (repositoryStep (r.load k)).run.run s = (.ok (get? k (view s)), s₁) ∧ view s₁ = view s :=
  ⟨_, repositoryStep_of_ok (Prod.ext (hr.load k s).1 rfl), (hr.load k s).2⟩

/-- Saving an entry into a store puts it under its key. -/
lemma Repository.IsStore.saveStep (hr : r.IsStore view) (e : Entry) (s : σ) :
    ∃ s₁, (repositoryStep (r.save e)).run.run s = (.ok (), s₁) ∧
      view s₁ = put e.key e (view s) :=
  ⟨_, repositoryStep_of_ok (Prod.ext (hr.save e s).1 rfl), (hr.save e s).2⟩

/-- Loading keys from a store in turn finds the entries under them, in order. -/
lemma Repository.IsStore.loadAll (hr : r.IsStore view) (keys : List ResultKey) (s : σ) :
    ∃ s₁, (keys.mapM fun k => repositoryStep (r.load k)).run.run s =
        (.ok (keys.map fun k => get? k (view s)), s₁) ∧ view s₁ = view s := by
  induction keys generalizing s with
  | nil => exact ⟨s, rfl, rfl⟩
  | cons k keys ih =>
    obtain ⟨s₁, hload, hview₁⟩ := hr.loadStep k s
    obtain ⟨s₂, hrest, hview₂⟩ := ih s₁
    refine ⟨s₂, ?_, hview₂.trans hview₁⟩
    rw [List.mapM_cons, run_bind_of_ok hload, run_bind_of_ok hrest, hview₁]
    rfl

end Steps

/-! ## What a run writes -/

section Persist

variable {r : Repository (StateM σ)} {view : σ → List (ResultKey × Entry)}
  {options : AnalysisOptions} {metrics : List (Analyzer × Metric)}
  {states : List (Descriptor × Aggregate)}

/-- A run that saves nothing writes nothing. -/
lemma persist_of_none {repo : Option (Repository (StateM σ))}
    (hstates : options.saveStatesWith = none) (hresults : options.saveOrAppendResultsWith = none)
    (s : σ) : (persist options repo metrics states).run.run s = (.ok (), s) := by
  simp only [persist, hstates, hresults, List.isEmpty_nil, if_true]
  rfl

/-- The entry a save of aggregates under a key leaves: the entry there with the aggregates
appended, or the aggregates alone when there is none. -/
def savedStates (existing : Option Entry) (k : ResultKey) (states : List (Descriptor × Aggregate)) :
    Entry :=
  (existing.map fun e => e.append { key := k, states }).getD { key := k, states }

variable (metrics) in
/-- A run that saves its aggregates under a key, and no metrics, appends them to the entry stored
under the key, or stores them there when there is none. -/
lemma persist_saveStates (hr : r.IsStore view) {k : ResultKey} (hstates : options.saveStatesWith = some k)
    (hresults : options.saveOrAppendResultsWith = none) (s : σ) :
    ∃ s', (persist options (some r) metrics states).run.run s = (.ok (), s') ∧
      view s' = put (savedStates (get? k (view s)) k states).key
        (savedStates (get? k (view s)) k states) (view s) := by
  obtain ⟨s₁, hload, hview₁⟩ := hr.loadStep k s
  -- the entry saved: the one loaded with the aggregates appended, or the aggregates alone
  obtain ⟨s₂, hsave, hview₂⟩ := hr.saveStep (savedStates (get? k (view s)) k states) s₁
  refine ⟨s₂, ?_, by rw [hview₂, hview₁]⟩
  have hrepo : (needRepository (some r) "saving results").run.run s = (.ok r, s) := rfl
  simp only [persist, hstates, hresults, List.isEmpty_cons, Bool.false_eq_true, if_false,
    List.forIn_cons, List.forIn_nil, bind_assoc, pure_bind]
  rw [run_bind_of_ok hrepo, run_bind_of_ok hload]
  cases hexisting : get? k (view s) with
  | none =>
    simp only [savedStates, hexisting, Option.map_none, Option.getD_none] at hsave
    rw [run_bind_of_ok hsave]
    rfl
  | some e =>
    simp only [savedStates, hexisting, Option.map_some, Option.getD_some] at hsave
    rw [run_bind_of_ok hsave]
    rfl

end Persist

/-! ## What a run keeps and what a run on stored aggregates reads -/

section Kept

variable {options : AnalysisOptions} {B : List (Descriptor × List Analyzer)}

/-- With no stored aggregates, settling an outcome keeps the fresh aggregate of a scan that
succeeded, and nothing for one that failed. -/
lemma snd_settleOutcome_nil (acc : List (Analyzer × Metric) × List (Descriptor × Aggregate))
    (o : Descriptor × Except String Aggregate) :
    (settleOutcome options B [] acc o).2 =
      match o.2 with
      | .ok fresh => put o.1 fresh acc.2
      | .error _ => acc.2 := by
  obtain ⟨d, _ | fresh⟩ := o
  · rfl
  · -- the merge with nothing is the fresh aggregate, whoever reads it fresh
    simp [settleOutcome, settle, Aggregate.mergeAll, get?, pure, Except.pure]

/-- With no stored aggregates, settling outcomes in turn puts the fresh aggregate of each scan
that succeeded, in order. -/
lemma snd_foldl_settleOutcome_nil (l : List (Descriptor × Except String Aggregate))
    (acc : List (Analyzer × Metric) × List (Descriptor × Aggregate)) :
    (l.foldl (settleOutcome options B []) acc).2 =
      (l.filterMap fun o => o.2.toOption.map (o.1, ·)).foldl (fun m p => put p.1 p.2 m) acc.2 := by
  induction l generalizing acc with
  | nil => rfl
  | cons o l ih =>
    rw [List.foldl_cons, ih, snd_settleOutcome_nil]
    obtain ⟨d, _ | fresh⟩ := o <;> rfl

variable {engine : Engine} {schema : Schema} {reused : List (Analyzer × Metric)}
  {pending : List Analyzer}

/-- With no stored aggregates, the aggregates a run keeps are sorted by descriptor. -/
lemma sorted_snd_runSettled_nil : Sorted (runSettled options engine schema reused pending []).2 := by
  rw [runSettled, snd_foldl_settleOutcome_nil]
  exact sorted_foldl_put _ _ List.Pairwise.nil _

/-- With no stored aggregates and an engine that answers each descriptor by `out`, a run keeps
under the descriptor of each analyzer it computes the aggregate of a scan that succeeded. -/
lemma get?_snd_runSettled_nil {out : Descriptor → Except String Aggregate}
    (hengine : Engine.Answers engine out) {a : Analyzer} (ha : a ∈ pending)
    (hpre : preconditionFailure schema a = none) {fresh : Aggregate}
    (hout : out a.descriptor = .ok fresh) :
    get? a.descriptor (runSettled options engine schema reused pending []).2 = some fresh := by
  rw [runSettled, snd_foldl_settleOutcome_nil, scanOutcomes_of_answers hengine, get?_foldl_put,
    get?_nil, Option.or_none, List.filterMap_map]
  obtain ⟨x, hx, hxd⟩ := exists_mem_groupByDescriptor ha hpre
  refine get?_of_forall_eq (fun p hp heq => ?_) ⟨(a.descriptor, fresh), ?_, Std.ReflCmp.compare_self⟩
  · -- an aggregate kept under the descriptor is the outcome of the descriptor itself
    rw [Std.LawfulEqCmp.compare_eq_iff_eq] at heq
    obtain ⟨q, hq, rfl⟩ := List.mem_map.mp hp
    obtain ⟨d, -, hdq⟩ := List.mem_filterMap.mp (List.mem_reverse.mp hq)
    obtain ⟨v, hv, rfl⟩ := Option.map_eq_some_iff.mp hdq
    dsimp only at heq hv ⊢
    subst heq
    rw [hout] at hv
    exact (Option.some.inj hv).symm
  · -- the descriptor is scanned, and its scan succeeded
    refine List.mem_map.mpr ⟨(a.descriptor, fresh), List.mem_reverse.mpr ?_, rfl⟩
    exact List.mem_filterMap.mpr ⟨a.descriptor, mem_scanOrder.mpr ⟨x, hx, hxd⟩, by simp [hout, Except.toOption]⟩

/-- The aggregates grouped by descriptor from entries whose aggregates are sorted are those
`storedStates` lists, in the order of the entries. -/
lemma getD_get?_groupStored {entries : List (Option Entry)}
    (h : ∀ e ∈ entries, ∀ e' ∈ e, Sorted e'.states) (d : Descriptor) :
    (get? d (groupStored entries)).getD [] = storedStates entries d := by
  -- from any map, the fold appends what each entry stores for the descriptor
  rw [show storedStates entries d =
      (get? d ([] : List (Descriptor × List Aggregate))).getD [] ++ storedStates entries d from rfl,
    groupStored]
  generalize ([] : List (Descriptor × List Aggregate)) = acc
  induction entries generalizing acc with
  | nil => simp [storedStates]
  | cons e entries ih =>
    rw [List.foldl_cons, ih (fun e he => h e (List.mem_cons_of_mem _ he))]
    cases e with
    | none => simp [storedStates]
    | some e =>
      rw [getD_get?_foldl_push Prod.fst Prod.snd,
        map_snd_filter_eq_toList (h _ List.mem_cons_self e rfl)]
      cases hget : get? d e.states <;> simp [storedStates, hget]

end Kept

/-! ## Runs against a store -/

section Runs

variable {r : Repository (StateM σ)} {view : σ → List (ResultKey × Entry)}
  {options : AnalysisOptions} {engine : Engine} {schema : Schema} {analyzers : List Analyzer}

/-- A run with a repository reuses what it may, loads the aggregates it merges with, settles the
outcomes of its scans, persists and reports. -/
lemma runAnalysisWith_some (s : σ) :
    (runAnalysisWith options (some r) engine schema analyzers).run s =
      (reuseStored options (some r) (keysOf analyzers) >>= fun p =>
        priorStates options (some r) ((groupByDescriptor schema p.2).map (·.1)) >>= fun prior =>
        persist options (some r) (runSettled options engine schema p.1 p.2 prior).1
            (runSettled options engine schema p.1 p.2 prior).2 >>= fun _ =>
        (pure ⟨(runSettled options engine schema p.1 p.2 prior).1⟩ :
          RunStep (StateM σ) AnalyzerContext)).run.run s := by
  unfold runAnalysisWith
  split <;> rfl

/-- With nothing to reuse, every analyzer asked for is still to compute. -/
lemma reuseStored_of_none {repo : Option (Repository (StateM σ))}
    (hreuse : options.reuseResultsFor = none) (requested : List Analyzer) (s : σ) :
    (reuseStored options repo requested).run.run s = (.ok ([], requested), s) := by
  simp only [reuseStored, hreuse]
  rfl

/-- With nothing to aggregate with, no stored aggregate is loaded. -/
lemma priorStates_of_nil {repo : Option (Repository (StateM σ))}
    (hagg : options.aggregateWith = []) (ds : List Descriptor) (s : σ) :
    (priorStates options repo ds).run.run s = (.ok [], s) := by
  simp only [priorStates, hagg, List.isEmpty_nil, if_true]
  rfl

/-- Against a store, the aggregates stored for each descriptor under the keys to aggregate with are
those of the entries under the keys, in key order. -/
lemma priorStates_of_store (hr : r.IsStore view) (hagg : options.aggregateWith ≠ [])
    (ds : List Descriptor) (s : σ) :
    ∃ s₁, (priorStates options (some r) ds).run.run s =
        (.ok (ds.map fun d => (d, storedStates (options.aggregateWith.map fun k => get? k (view s)) d)),
          s₁) ∧ view s₁ = view s := by
  obtain ⟨s₁, hload, hview⟩ := hr.loadAll options.aggregateWith s
  have hrepo : (needRepository (some r) "aggregate_with").run.run s = (.ok r, s) := rfl
  refine ⟨s₁, ?_, hview⟩
  have hempty : options.aggregateWith.isEmpty = false := List.isEmpty_eq_false_iff.mpr hagg
  simp only [priorStates, hempty, Bool.false_eq_true, if_false]
  rw [run_bind_of_ok hrepo, run_bind_of_ok hload]
  rfl

variable (options engine schema analyzers) in
/-- A run against a store that saves its aggregates under a key, and nothing else, reports the
metrics it settles and appends the aggregates it settles to the entry under the key. -/
theorem runAnalysisWith_saveStates (hr : r.IsStore view) {k : ResultKey}
    (hreuse : options.reuseResultsFor = none) (hagg : options.aggregateWith = [])
    (hstates : options.saveStatesWith = some k) (hresults : options.saveOrAppendResultsWith = none)
    (s : σ) :
    ∃ s', (runAnalysisWith options (some r) engine schema analyzers).run s =
        (.ok ⟨(runSettled options engine schema [] (keysOf analyzers) []).1⟩, s') ∧
      view s' = put (savedStates (get? k (view s)) k
          (runSettled options engine schema [] (keysOf analyzers) []).2).key
        (savedStates (get? k (view s)) k
          (runSettled options engine schema [] (keysOf analyzers) []).2) (view s) := by
  obtain ⟨s', hpersist, hview⟩ := persist_saveStates
    (runSettled options engine schema [] (keysOf analyzers) []).1 hr hstates hresults s
  refine ⟨s', ?_, hview⟩
  rw [runAnalysisWith_some, run_bind_of_ok (reuseStored_of_none hreuse _ s),
    run_bind_of_ok (priorStates_of_nil hagg _ s), run_bind_of_ok hpersist]
  rfl

variable (options engine schema analyzers) in
/-- A run against a store that aggregates with some keys, and saves nothing, reports the metrics
it settles against the aggregates stored under the keys, and leaves the store as it was. -/
theorem runAnalysisWith_aggregate (hr : r.IsStore view) (hreuse : options.reuseResultsFor = none)
    (hagg : options.aggregateWith ≠ []) (hstates : options.saveStatesWith = none)
    (hresults : options.saveOrAppendResultsWith = none) (s : σ) :
    ∃ s', (runAnalysisWith options (some r) engine schema analyzers).run s =
        (.ok ⟨(runSettled options engine schema [] (keysOf analyzers)
          (((groupByDescriptor schema (keysOf analyzers)).map (·.1)).map fun d =>
            (d, storedStates (options.aggregateWith.map fun k => get? k (view s)) d))).1⟩, s') ∧
      view s' = view s := by
  obtain ⟨s', hprior, hview⟩ := priorStates_of_store hr hagg
    ((groupByDescriptor schema (keysOf analyzers)).map (·.1)) s
  refine ⟨s', ?_, hview⟩
  rw [runAnalysisWith_some, run_bind_of_ok (reuseStored_of_none hreuse _ s), run_bind_of_ok hprior,
    run_bind_of_ok (persist_of_none hstates hresults s')]
  rfl

variable (options schema analyzers) in
/-- A run on stored aggregates against a store, saving nothing, reports the metrics of the
aggregates stored under its keys and leaves the store as it was. -/
theorem runOnStoredStates_of_store (hr : r.IsStore view) (hstates : options.saveStatesWith = none)
    (hresults : options.saveOrAppendResultsWith = none) (keys : List ResultKey) (s : σ) :
    ∃ s', (runOnStoredStates options (some r) schema analyzers keys).run s =
        (.ok ⟨((keysOf analyzers).foldl
          (storedOutcome schema (groupStored (keys.map fun k => get? k (view s)))) ([], [])).1⟩, s') ∧
      view s' = view s := by
  obtain ⟨s₁, hload, hview⟩ := hr.loadAll keys s
  have hrepo : (needRepository (some r) "run_on_aggregated_states").run.run s = (.ok r, s) := rfl
  refine ⟨s₁, ?_, hview⟩
  unfold runOnStoredStates
  rw [run_bind_of_ok hrepo, run_bind_of_ok hload, run_bind_of_ok (persist_of_none hstates hresults s₁)]
  rfl

end Runs

end DataQuality
