import Mathlib
import DataQuality.Proofs.Run.Store
import DataQuality.Proofs.Run.Coverage

/-!
# What a run writes into a store

A run writes only in its last step, `persist`, and only under the keys its options name: the key
to save aggregates under and the key to save or append metrics under.  It first gathers one update
per key, a single one when both options name the same key, then for each update loads the entry
under its key, appends the update to it (or takes the update alone when there is none) and saves
the result.

Against a store whose entries are each under their own key (`Keyed`), this means: after a run
every key keeps its entry, or its absence, except the keys the options name, whose entries become
the old ones with the run's update appended (`afterRun`, `persist_of_store`).  The loop over the
updates is one step lemma and an induction (`forIn_saves_of_store`).

Everything a run does before it writes only reads, so a run that fails leaves the store as it
was, and a run that succeeds saves the aggregates it settled: for each descriptor whose scan
succeeded, the merge of its fresh aggregate with the stored ones when the merge succeeds and some
analyzer of the descriptor is not reported from fresh data only, and the fresh aggregate
otherwise (`keptAggregate`).  A run on stored aggregates saves the merge of the stored aggregates
of every descriptor it reports on (`KeptFromStored`).
-/

namespace DataQuality

open Ordered

/-! ## Sorted maps read backwards -/

namespace Ordered

variable {κ α : Type} [Ord κ] [Std.TransOrd κ]

/-- A sorted map holds each key once, so it is read the same backwards. -/
lemma get?_reverse_of_sorted {m : List (κ × α)} (h : Sorted m) (k : κ) :
    get? k m.reverse = get? k m := by
  induction m with
  | nil => rfl
  | cons x m ih =>
    rw [Sorted, List.pairwise_cons] at h
    rw [List.reverse_cons, get?_append, ih h.2, get?_cons, get?_cons, get?_nil]
    by_cases hk : compare k x.1 = .eq
    · -- the head's key is below every other key
      have hnone : get? k m = none :=
        get?_eq_none_of_lt fun y hy => Std.TransCmp.lt_of_eq_of_lt hk (h.1 y hy)
      simp [hk, hnone]
    · simp [hk]

/-- The union of nothing with a sorted map is that map. -/
lemma nil_union_of_sorted [Std.LawfulEqOrd κ] {m : List (κ × α)} (h : Sorted m) : union [] m = m :=
  eq_of_get? (sorted_union List.Pairwise.nil m) h fun k => by
    rw [get?_union, get?_nil, Option.or_none, get?_reverse_of_sorted h]

end Ordered

/-! ## Entries under their own keys -/

/-- A map of entries in which each entry is under its own key, as saving entries keeps them. -/
def Keyed (m : List (ResultKey × Entry)) : Prop :=
  ∀ k e, get? k m = some e → e.key = k

/-- The entry a save of an update leaves: the entry there with the update appended, or the
update alone when there is none. -/
def appendOrNew (old : Option Entry) (update : Entry) : Entry :=
  (old.map (·.append update)).getD update

lemma key_appendOrNew {old : Option Entry} {update : Entry} {k : ResultKey}
    (hold : ∀ e, old = some e → e.key = k) (hupdate : update.key = k) :
    (appendOrNew old update).key = k := by
  cases old with
  | none => exact hupdate
  | some e => exact hold e rfl

lemma keyed_put {m : List (ResultKey × Entry)} (hm : Keyed m) {k : ResultKey} {e : Entry}
    (he : e.key = k) : Keyed (put k e m) := by
  intro j e' hj
  rw [get?_put] at hj
  split_ifs at hj with hjk
  · rw [← Option.some.inj hj, he, Std.LawfulEqCmp.compare_eq_iff_eq.mp hjk]
  · exact hm j e' hj

/-- What a run saves under a key: the metrics when the key is the one to save metrics under, the
aggregates when it is the one to save aggregates under. -/
def runUpdate (options : AnalysisOptions) (metrics : List (Analyzer × Metric))
    (states : List (Descriptor × Aggregate)) (k : ResultKey) : Entry where
  key := k
  metrics := if options.saveOrAppendResultsWith = some k then metrics else []
  states := if options.saveStatesWith = some k then states else []

/-- The entry under a key after a run that settled some metrics and aggregates: under the keys the
options name, the entry there with the run's update appended, or the update alone; under the
others, the entry there, or none. -/
def afterRun (options : AnalysisOptions) (metrics : List (Analyzer × Metric))
    (states : List (Descriptor × Aggregate)) (old : Option Entry) (k : ResultKey) : Option Entry :=
  if options.saveStatesWith = some k ∨ options.saveOrAppendResultsWith = some k then
    some (appendOrNew old (runUpdate options metrics states k))
  else old

/-! ## The saves of a run -/

section Saves

variable {σ : Type} {r : Repository (StateM σ)} {view : σ → List (ResultKey × Entry)}

/-- Saving updates in turn, each appended to the entry under its key, into a store whose entries
are under their own keys: the keys of the updates get their updates appended, the others keep what
they had. -/
lemma forIn_saves_of_store {f : ResultKey × Entry → PUnit → RunStep (StateM σ) (ForInStep PUnit)}
    (hf : ∀ k u t, ∃ t', (f (k, u) ⟨⟩).run.run t = (.ok (.yield ⟨⟩), t') ∧
      view t' = put (appendOrNew (get? k (view t)) u).key (appendOrNew (get? k (view t)) u) (view t))
    {updates : List (ResultKey × Entry)} (hkeys : ∀ p ∈ updates, p.2.key = p.1)
    (hsorted : Sorted updates) {s : σ} (hs : Keyed (view s)) :
    ∃ s', (forIn updates ⟨⟩ f).run.run s = (.ok ⟨⟩, s') ∧ Keyed (view s') ∧
      ∀ j, get? j (view s') =
        ((get? j updates).map (appendOrNew (get? j (view s)))).or (get? j (view s)) := by
  induction updates generalizing s with
  | nil => exact ⟨s, rfl, hs, fun j => by simp⟩
  | cons p updates ih =>
    obtain ⟨k, u⟩ := p
    rw [Sorted, List.pairwise_cons] at hsorted
    obtain ⟨t, hstep, hview⟩ := hf k u s
    -- the entry saved stays under the key of its update
    have hkey : (appendOrNew (get? k (view s)) u).key = k :=
      key_appendOrNew (fun e he => hs k e he) (hkeys (k, u) List.mem_cons_self)
    rw [hkey] at hview
    have ht : Keyed (view t) := hview ▸ keyed_put hs hkey
    obtain ⟨s', hrest, hs', hget⟩ :=
      ih (fun p hp => hkeys p (List.mem_cons_of_mem _ hp)) hsorted.2 ht
    refine ⟨s', ?_, hs', fun j => ?_⟩
    · rw [List.forIn_cons, run_bind_of_ok hstep]
      exact hrest
    · rw [hget, hview, get?_put, get?_cons]
      by_cases hj : compare j k = .eq
      · -- the later updates are under greater keys
        have hnone : get? j updates = none :=
          get?_eq_none_of_lt fun y hy => Std.TransCmp.lt_of_eq_of_lt hj (hsorted.1 y hy)
        obtain rfl := Std.LawfulEqCmp.compare_eq_iff_eq.mp hj
        simp [hnone, Std.ReflCmp.compare_self]
      · simp [hj]

end Saves

/-! ## What a run writes -/

section Persist

variable {σ : Type} {r : Repository (StateM σ)} {view : σ → List (ResultKey × Entry)}
  {metrics : List (Analyzer × Metric)}

/-- Persisting into a store whose entries are under their own keys appends the run's update to the
entry under each key the options name and leaves the other keys as they were, when the metrics
are sorted, as a run's are. -/
lemma persist_of_store (hr : r.IsStore view) (options : AnalysisOptions)
    (states : List (Descriptor × Aggregate)) (hm : Sorted metrics) {s : σ} (hs : Keyed (view s)) :
    ∃ s', (persist options (some r) metrics states).run.run s = (.ok (), s') ∧ Keyed (view s') ∧
      ∀ k, get? k (view s') = afterRun options metrics states (get? k (view s)) k := by
  unfold persist
  extract_lets updates₀ updates
  -- the updates gathered: the run's update under each key the options name, and nothing else
  have hL : ∀ j, get? j updates =
      if options.saveStatesWith = some j ∨ options.saveOrAppendResultsWith = some j then
        some (runUpdate options metrics states j) else none := by
    intro j
    simp only [updates, updates₀]
    clear updates updates₀
    cases hks : options.saveStatesWith <;> cases hkr : options.saveOrAppendResultsWith <;>
      simp [runUpdate, hks, hkr, get?_put, get?_cons, nil_union_of_sorted hm,
        Std.LawfulEqCmp.compare_eq_iff_eq]
    all_goals split_ifs <;> subst_vars <;> simp_all [nil_union_of_sorted hm, eq_comm]
  have hsorted : Sorted updates := by
    simp only [updates, updates₀]
    clear hL updates updates₀
    cases options.saveStatesWith <;> cases options.saveOrAppendResultsWith
    · exact List.Pairwise.nil
    · exact sorted_put List.Pairwise.nil _ _
    · exact List.pairwise_singleton _ _
    · exact sorted_put (List.pairwise_singleton _ _) _ _
  have hkeys : ∀ p ∈ updates, p.2.key = p.1 := by
    rintro ⟨k, u⟩ hp
    have h := hL k
    rw [get?_of_mem hsorted hp] at h
    split_ifs at h
    rw [Option.some.inj h]
    rfl
  clear_value updates updates₀
  by_cases hempty : updates.isEmpty
  · -- nothing to save: no key is named
    refine ⟨s, by rw [if_pos hempty]; rfl, hs, fun k => ?_⟩
    have h := hL k
    rw [List.isEmpty_iff.mp hempty, get?_nil] at h
    -- a named key would have an update
    split_ifs at h with hk
    rw [afterRun, if_neg hk]
  · have hrepo : (needRepository (some r) "saving results").run.run s = (.ok r, s) := rfl
    rw [if_neg hempty]
    dsimp only
    rw [run_bind_of_ok hrepo, bind_pure_unit]
    refine (forIn_saves_of_store (fun k u t => ?_) hkeys hsorted hs).imp
      fun s' h => ⟨h.1, h.2.1, fun j => ?_⟩
    · -- one save: load the entry under the key, append the update, save
      obtain ⟨t₁, hload, hview₁⟩ := hr.loadStep k t
      obtain ⟨t₂, hsave, hview₂⟩ := hr.saveStep (appendOrNew (get? k (view t)) u) t₁
      refine ⟨t₂, ?_, by rw [hview₂, hview₁]⟩
      dsimp only
      rw [run_bind_of_ok hload]
      cases hexisting : get? k (view t) with
      | none =>
        simp only [appendOrNew, hexisting, Option.map_none, Option.getD_none] at hsave
        rw [run_bind_of_ok hsave]
        rfl
      | some e =>
        simp only [appendOrNew, hexisting, Option.map_some, Option.getD_some] at hsave
        rw [run_bind_of_ok hsave]
        rfl
    · rw [h.2.2 j, hL j, afterRun]
      split_ifs <;> rfl

end Persist

/-! ## What a run keeps -/

section Kept

/-- The aggregate a run keeps for a descriptor from its fresh aggregate and the aggregates stored
for it: their merge, when it succeeds and some analyzer of the descriptor is not reported from
fresh data only, and the fresh aggregate otherwise. -/
def keptAggregate (options : AnalysisOptions) (dependents : List Analyzer) (fresh : Aggregate)
    (stored : List Aggregate) : Aggregate :=
  match Aggregate.mergeAll fresh stored with
  | .ok agg =>
    if dependents.all fun a => options.forceFresh.any (compare a · == .eq) then fresh else agg
  | .error _ => fresh

/-- The aggregates a run keeps, as the outcomes of its scans and the aggregates stored for each
descriptor determine them: under each descriptor whose scan succeeded, and under no other, the
aggregate `keptAggregate` makes of its fresh aggregate and the stored ones. -/
def KeptFromScans (options : AnalysisOptions) (engine : Engine)
    (B : List (Descriptor × List Analyzer)) (stored : Descriptor → List Aggregate)
    (states : List (Descriptor × Aggregate)) : Prop :=
  (∀ d agg, get? d states = some agg → ∃ fresh, (d, .ok fresh) ∈ scanOutcomes engine B ∧
      agg = keptAggregate options ((get? d B).getD []) fresh (stored d)) ∧
    ∀ d fresh, (d, .ok fresh) ∈ scanOutcomes engine B → (get? d states).isSome

variable {options : AnalysisOptions} {B : List (Descriptor × List Analyzer)}
  {prior : List (Descriptor × List Aggregate)}

lemma snd_settleOutcome (acc : List (Analyzer × Metric) × List (Descriptor × Aggregate))
    (o : Descriptor × Except String Aggregate) :
    (settleOutcome options B prior acc o).2 =
      (o.2.toOption.map fun fresh => put o.1
        (keptAggregate options ((get? o.1 B).getD []) fresh ((get? o.1 prior).getD [])) acc.2).getD
        acc.2 := by
  obtain ⟨d, _ | fresh⟩ := o <;> rfl

/-- Settling outcomes in turn puts the kept aggregate of each scan that succeeded, in order. -/
lemma snd_foldl_settleOutcome (l : List (Descriptor × Except String Aggregate))
    (acc : List (Analyzer × Metric) × List (Descriptor × Aggregate)) :
    (l.foldl (settleOutcome options B prior) acc).2 =
      (l.filterMap fun o => o.2.toOption.map fun fresh =>
        (o.1, keptAggregate options ((get? o.1 B).getD []) fresh ((get? o.1 prior).getD []))).foldl
        (fun m p => put p.1 p.2 m) acc.2 := by
  induction l generalizing acc with
  | nil => rfl
  | cons o l ih =>
    rw [List.foldl_cons, ih, snd_settleOutcome]
    obtain ⟨d, _ | fresh⟩ := o <;> rfl

variable {engine : Engine} {schema : Schema} {reused : List (Analyzer × Metric)}
  {pending : List Analyzer}

/-- A run keeps, for each descriptor whose scan succeeded, the merge of the fresh aggregate with
the stored ones or the fresh aggregate, as `keptAggregate` chooses, and nothing else. -/
lemma keptFromScans_runSettled {stored : Descriptor → List Aggregate}
    (hprior : ∀ x ∈ groupByDescriptor schema pending, (get? x.1 prior).getD [] = stored x.1) :
    KeptFromScans options engine (groupByDescriptor schema pending) stored
      (runSettled options engine schema reused pending prior).2 := by
  rw [runSettled, snd_foldl_settleOutcome]
  constructor
  · intro d agg h
    rw [get?_foldl_put, get?_nil, Option.or_none] at h
    obtain ⟨d', hd', hmem⟩ := exists_mem_of_get? h
    obtain ⟨p, hp, hpeq⟩ := List.mem_map.mp hmem
    obtain ⟨⟨d'', out⟩, ho, hop⟩ := List.mem_filterMap.mp (List.mem_reverse.mp hp)
    -- the entry found comes from a scan that succeeded, of the descriptor looked up
    cases out with
    | error e => cases hop
    | ok fresh =>
      cases hop
      cases hpeq
      obtain rfl := Std.LawfulEqCmp.compare_eq_iff_eq.mp hd'
      obtain ⟨x, hx, hxd⟩ := exists_of_mem_scanOutcomes ho
      refine ⟨fresh, ho, ?_⟩
      dsimp only at hxd ⊢
      rw [← hxd, hprior x hx]
  · intro d fresh ho
    rw [get?_foldl_put, get?_nil, Option.or_none]
    refine isSome_get? (List.mem_map.mpr ⟨_, List.mem_reverse.mpr
      (List.mem_filterMap.mpr ⟨(d, .ok fresh), ho, rfl⟩), rfl⟩) Std.ReflCmp.compare_self

/-- The aggregate a run on stored aggregates keeps for an analyzer: the merge of the aggregates
stored for its descriptor, when its preconditions hold, some are stored and they merge. -/
def storedKept (schema : Schema) (stored : List (Descriptor × List Aggregate)) (a : Analyzer) :
    Option Aggregate :=
  match preconditionFailure schema a with
  | some _ => none
  | none =>
    match get? a.descriptor stored with
    | none => none
    | some aggs => (Aggregate.mergeAll (Aggregate.empty a.descriptor.computation) aggs).toOption

/-- The aggregates a run on stored aggregates keeps: under the descriptor of each analyzer given
that passes its preconditions, the merge of the aggregates stored for it from the empty aggregate,
when some are stored and they merge; nothing under any other descriptor. -/
def KeptFromStored (schema : Schema) (analyzers : List Analyzer)
    (stored : List (Descriptor × List Aggregate)) (states : List (Descriptor × Aggregate)) : Prop :=
  ∀ d agg, get? d states = some agg ↔
    (∃ a ∈ analyzers, preconditionFailure schema a = none ∧ a.descriptor = d) ∧
      ∃ aggs, get? d stored = some aggs ∧
        Aggregate.mergeAll (Aggregate.empty d.computation) aggs = .ok agg

variable {stored : List (Descriptor × List Aggregate)}

lemma storedKept_eq_some_iff {a : Analyzer} {agg : Aggregate} :
    storedKept schema stored a = some agg ↔ preconditionFailure schema a = none ∧
      ∃ aggs, get? a.descriptor stored = some aggs ∧
        Aggregate.mergeAll (Aggregate.empty a.descriptor.computation) aggs = .ok agg := by
  unfold storedKept
  cases preconditionFailure schema a with
  | some failure => simp
  | none =>
    cases get? a.descriptor stored with
    | none => simp
    | some aggs =>
      cases hmerge : Aggregate.mergeAll (Aggregate.empty a.descriptor.computation) aggs <;>
        simp [hmerge, Except.toOption]

lemma snd_storedOutcome (acc : List (Analyzer × Metric) × List (Descriptor × Aggregate))
    (a : Analyzer) :
    (storedOutcome schema stored acc a).2 =
      ((storedKept schema stored a).map fun agg => put a.descriptor agg acc.2).getD acc.2 := by
  unfold storedOutcome storedKept
  cases preconditionFailure schema a with
  | some failure => rfl
  | none =>
    dsimp only
    cases get? a.descriptor stored with
    | none => rfl
    | some aggs =>
      dsimp only
      cases Aggregate.mergeAll (Aggregate.empty a.descriptor.computation) aggs <;> rfl

/-- A run on stored aggregates puts the aggregate it keeps for each analyzer in turn. -/
lemma snd_foldl_storedOutcome (l : List Analyzer)
    (acc : List (Analyzer × Metric) × List (Descriptor × Aggregate)) :
    (l.foldl (storedOutcome schema stored) acc).2 =
      (l.filterMap fun a => (storedKept schema stored a).map (a.descriptor, ·)).foldl
        (fun m p => put p.1 p.2 m) acc.2 := by
  induction l generalizing acc with
  | nil => rfl
  | cons a l ih =>
    rw [List.foldl_cons, ih, snd_storedOutcome, List.filterMap_cons]
    cases storedKept schema stored a <;> rfl

/-- A run on stored aggregates keeps the merge of the stored aggregates of the descriptor of each
analyzer it reports on from them, and nothing else. -/
lemma keptFromStored_foldl (analyzers : List Analyzer) :
    KeptFromStored schema analyzers stored
      ((keysOf analyzers).foldl (storedOutcome schema stored) ([], [])).2 := by
  intro d agg
  rw [snd_foldl_storedOutcome, get?_foldl_put, get?_nil, Option.or_none]
  constructor
  · intro h
    obtain ⟨d', hd', hmem⟩ := exists_mem_of_get? h
    obtain ⟨p, hp, hpeq⟩ := List.mem_map.mp hmem
    obtain ⟨a, ha, hap⟩ := List.mem_filterMap.mp (List.mem_reverse.mp hp)
    obtain ⟨v, hv, rfl⟩ := Option.map_eq_some_iff.mp hap
    cases hpeq
    obtain rfl := Std.LawfulEqCmp.compare_eq_iff_eq.mp hd'
    obtain ⟨hpre, aggs, hget, hmerge⟩ := storedKept_eq_some_iff.mp hv
    exact ⟨⟨a, mem_keysOf ha, hpre, rfl⟩, aggs, hget, hmerge⟩
  · rintro ⟨⟨a, ha, hpre, rfl⟩, aggs, hget, hmerge⟩
    have hkept : storedKept schema stored a = some agg :=
      storedKept_eq_some_iff.mpr ⟨hpre, aggs, hget, hmerge⟩
    refine get?_of_forall_eq (fun p hp heq => ?_) ⟨(a.descriptor, agg), List.mem_map.mpr
      ⟨_, List.mem_reverse.mpr (List.mem_filterMap.mpr ⟨a, mem_keysOf_iff.mpr ha, by
        rw [hkept]; rfl⟩), rfl⟩, Std.ReflCmp.compare_self⟩
    -- every analyzer of the descriptor keeps the same merge
    obtain ⟨q, hq, rfl⟩ := List.mem_map.mp hp
    obtain ⟨a', -, ha'q⟩ := List.mem_filterMap.mp (List.mem_reverse.mp hq)
    obtain ⟨v, hv, rfl⟩ := Option.map_eq_some_iff.mp ha'q
    obtain ⟨-, aggs', hget', hmerge'⟩ := storedKept_eq_some_iff.mp hv
    dsimp only at heq ⊢
    rw [← Std.LawfulEqCmp.compare_eq_iff_eq.mp heq, hget] at hget'
    rw [← Std.LawfulEqCmp.compare_eq_iff_eq.mp heq, ← Option.some.inj hget', hmerge] at hmerge'
    exact (Except.ok.inj hmerge').symm

/-- The metrics of a run on stored aggregates are sorted by analyzer. -/
lemma sorted_fst_foldl_storedOutcome (l : List Analyzer) :
    Sorted (l.foldl (storedOutcome schema stored) ([], [])).1 := by
  rw [fst_foldl_storedOutcome]
  exact sorted_foldl_put _ _ List.Pairwise.nil _

end Kept

/-! ## What a run reads -/

section Reads

variable {σ : Type} {r : Repository (StateM σ)} {view : σ → List (ResultKey × Entry)}
  {options : AnalysisOptions}

/-- The entry a run reuses metrics from, loaded from a store: the one under the key to reuse. -/
lemma reuseEntry_of_store (hr : r.IsStore view) (s : σ) :
    reuseEntry options (some r) s = options.reuseResultsFor.bind fun k => get? k (view s) := by
  cases hkey : options.reuseResultsFor with
  | none => simp [reuseEntry, hkey]
  | some key => simp [reuseEntry, hkey, (hr.load key s).1]

lemma view_afterReuse (hr : r.IsStore view) (s : σ) :
    view (afterReuse options (some r) s) = view s := by
  cases hkey : options.reuseResultsFor with
  | none => simp [afterReuse, hkey]
  | some key => simp [afterReuse, hkey, (hr.load key s).2]

/-- The entries a run aggregates with, loaded from a store: those under the keys to aggregate
with. -/
lemma priorEntries_of_store (hr : r.IsStore view) (s : σ) :
    priorEntries options (some r) s = options.aggregateWith.map fun k => get? k (view s) := by
  obtain ⟨s₁, hload, -⟩ := hr.loadAll options.aggregateWith s
  simp [priorEntries, hload]

/-- Reusing stored metrics only reads the store, whether it succeeds or not. -/
lemma view_reuseStored (hr : r.IsStore view) {requested : List Analyzer} {s s' : σ}
    {res : Except RunnerError (List (Analyzer × Metric) × List Analyzer)}
    (h : (reuseStored options (some r) requested).run.run s = (res, s')) : view s' = view s := by
  unfold reuseStored at h
  cases hkey : options.reuseResultsFor with
  | none =>
    rw [hkey] at h
    cases h
    rfl
  | some key =>
    obtain ⟨s₁, hload, hview⟩ := hr.loadStep key s
    have hrepo : (needRepository (some r) "reuse_results_for").run.run s = (.ok r, s) := rfl
    rw [hkey] at h
    dsimp only at h
    rw [run_bind_of_ok hrepo, run_bind_of_ok hload] at h
    -- the check of missing results fails the run or not, from the state the load left
    split_ifs at h <;> cases h <;> exact hview

/-- Against a store, loading the aggregates to merge with always succeeds and only reads. -/
lemma priorStates_ok_of_store (hr : r.IsStore view) (ds : List Descriptor) (s : σ) :
    ∃ prior s₁, (priorStates options (some r) ds).run.run s = (.ok prior, s₁) ∧
      view s₁ = view s := by
  by_cases hagg : options.aggregateWith = []
  · exact ⟨[], s, priorStates_of_nil hagg ds s, rfl⟩
  · obtain ⟨s₁, hprior, hview⟩ := priorStates_of_store hr hagg ds s
    exact ⟨_, s₁, hprior, hview⟩

/-- A bind whose first step fails fails with it, from the state it left. -/
lemma run_bind_of_error {α β : Type} {x : RunStep (StateM σ) α} {f : α → RunStep (StateM σ) β}
    {s s₁ : σ} {e : RunnerError} (h : x.run.run s = (.error e, s₁)) :
    (x >>= f).run.run s = (.error e, s₁) := by
  rw [ExceptT.run_bind, StateT.run_bind, h]
  rfl

end Reads

/-! ## What a run does to a store -/

section Runs

variable {σ : Type} {r : Repository (StateM σ)} {view : σ → List (ResultKey × Entry)}
  {options : AnalysisOptions} {engine : Engine} {schema : Schema} {analyzers : List Analyzer}

/-- The analyzers a run against a store still computes: each analyzer asked for, once, unless the
entry to reuse holds a successful metric for it. -/
def pendingIn (options : AnalysisOptions) (store : List (ResultKey × Entry))
    (analyzers : List Analyzer) : List Analyzer :=
  (keysOf analyzers).filter fun a =>
    (reusedMetric (options.reuseResultsFor.bind fun k => get? k store) a).isNone

/-- A run against a store whose entries are under their own keys: if it fails, the store is as it
was; if it succeeds, it saved the aggregates it settled for the descriptors it computed, with its
metrics, under the keys its options name, and left the other keys as they were. -/
theorem runAnalysisWith_writes_of_store (hr : r.IsStore view) {s : σ} (hs : Keyed (view s)) :
    (∀ e s', (runAnalysisWith options (some r) engine schema analyzers).run s = (.error e, s') →
      view s' = view s) ∧
    ∀ ctx s', (runAnalysisWith options (some r) engine schema analyzers).run s = (.ok ctx, s') →
      ∃ states, KeptFromScans options engine
          (groupByDescriptor schema (pendingIn options (view s) analyzers))
          (storedStates (options.aggregateWith.map fun k => get? k (view s))) states ∧
        ∀ k, get? k (view s') = afterRun options ctx.metrics states (get? k (view s)) k := by
  rw [runAnalysisWith_some]
  rcases hreuse : (reuseStored options (some r) (keysOf analyzers)).run.run s with
    ⟨_ | ⟨reused, pending⟩, s₁⟩
  · -- the reuse failed: nothing was written
    have hview : view s₁ = view s := view_reuseStored hr hreuse
    rw [run_bind_of_error hreuse]
    refine ⟨fun e s' h => ?_, fun ctx s' h => (by cases h)⟩
    cases h
    exact hview
  · obtain ⟨-, hpending, hs₁⟩ := reuseStored_eq_ok hreuse
    have hview₁ : view s₁ = view s := hs₁ ▸ view_afterReuse hr s
    have hpend : pending = pendingIn options (view s) analyzers := by
      rw [hpending, reuseEntry_of_store hr]
      rfl
    subst hpend
    obtain ⟨prior, s₂, hprior, hview₂⟩ := priorStates_ok_of_store hr
      ((groupByDescriptor schema (pendingIn options (view s) analyzers)).map (·.1)) s₁
    obtain ⟨s₃, hpersist, -, hafter⟩ := persist_of_store hr options
      (runSettled options engine schema reused (pendingIn options (view s) analyzers) prior).2
      sorted_runSettled (show Keyed (view s₂) by rw [hview₂, hview₁]; exact hs)
    rw [run_bind_of_ok hreuse, run_bind_of_ok hprior, run_bind_of_ok hpersist]
    refine ⟨fun e s' h => (by cases h), fun ctx s' h => ?_⟩
    cases h
    refine ⟨_, keptFromScans_runSettled fun x hx => ?_, fun k => by rw [hafter, hview₂, hview₁]⟩
    -- the aggregates loaded for a grouped descriptor are those stored under the keys
    rw [priorStates_eq_ok hprior x.1 (List.mem_map_of_mem hx), priorEntries_of_store hr, hview₁]

/-- A run on stored aggregates against a store whose entries are under their own keys never fails;
it saved the merges of the stored aggregates it reports on, with its metrics, under the keys its
options name, and left the other keys as they were. -/
theorem runOnStoredStates_writes_of_store (hr : r.IsStore view) (keys : List ResultKey) {s : σ}
    (hs : Keyed (view s)) :
    (∀ e s', (runOnStoredStates options (some r) schema analyzers keys).run s = (.error e, s') →
      view s' = view s) ∧
    ∀ ctx s', (runOnStoredStates options (some r) schema analyzers keys).run s = (.ok ctx, s') →
      ∃ states, KeptFromStored schema analyzers (groupStored (keys.map fun k => get? k (view s)))
          states ∧
        ∀ k, get? k (view s') = afterRun options ctx.metrics states (get? k (view s)) k := by
  obtain ⟨s₁, hload, hview₁⟩ := hr.loadAll keys s
  have hrepo : (needRepository (some r) "run_on_aggregated_states").run.run s = (.ok r, s) := rfl
  obtain ⟨s₂, hpersist, -, hafter⟩ := persist_of_store hr options
    ((keysOf analyzers).foldl (storedOutcome schema
      (groupStored (keys.map fun k => get? k (view s)))) ([], [])).2
    (sorted_fst_foldl_storedOutcome _) (show Keyed (view s₁) by rw [hview₁]; exact hs)
  unfold runOnStoredStates
  rw [run_bind_of_ok hrepo, run_bind_of_ok hload, run_bind_of_ok hpersist]
  refine ⟨fun e s' h => (by cases h), fun ctx s' h => ?_⟩
  cases h
  exact ⟨_, keptFromStored_foldl analyzers, fun k => by rw [hafter, hview₁]⟩

end Runs

/-! ## The in-memory repository -/

section Memory

lemma keyed_nil : Keyed [] := fun _ _ h => nomatch h

variable {options : AnalysisOptions} {engine : Engine} {schema : Schema}
  {analyzers : List Analyzer} {keys : List ResultKey}

/-- The runs change the in-memory repository, whose entries are each under their own key, only
as documented.  A run that fails leaves it as it was.  A run that succeeds leaves every key its
options do not name as it was, and under each key they name appends to the entry there, or stores
alone, the run's update: its metrics when the key is the one to save metrics under, and its kept
aggregates when it is the one to save aggregates under, one entry when both name it.  The
aggregates a run over a table keeps are those of the descriptors whose scan succeeded, each merged
with the stored ones or fresh as `keptAggregate` chooses; a run on stored aggregates keeps the
merges of the stored ones. -/
theorem memoryStore_after_runs {store : MemoryStore} (hstore : Keyed store) :
    (∀ e store', (runAnalysisWith options (some memoryRepository) engine schema analyzers).run
        store = (.error e, store') → store' = store) ∧
    (∀ ctx store', (runAnalysisWith options (some memoryRepository) engine schema analyzers).run
        store = (.ok ctx, store') →
      ∃ states, KeptFromScans options engine
          (groupByDescriptor schema (pendingIn options store analyzers))
          (storedStates (options.aggregateWith.map fun k => get? k store)) states ∧
        ∀ k, get? k store' = afterRun options ctx.metrics states (get? k store) k) ∧
    (∀ e store', (runOnStoredStates options (some memoryRepository) schema analyzers keys).run
        store = (.error e, store') → store' = store) ∧
    ∀ ctx store', (runOnStoredStates options (some memoryRepository) schema analyzers keys).run
        store = (.ok ctx, store') →
      ∃ states, KeptFromStored schema analyzers (groupStored (keys.map fun k => get? k store))
          states ∧
        ∀ k, get? k store' = afterRun options ctx.metrics states (get? k store) k :=
  ⟨(runAnalysisWith_writes_of_store MemoryStore.isStore hstore).1,
    (runAnalysisWith_writes_of_store MemoryStore.isStore hstore).2,
    (runOnStoredStates_writes_of_store MemoryStore.isStore keys hstore).1,
    (runOnStoredStates_writes_of_store MemoryStore.isStore keys hstore).2⟩

/-- The empty in-memory repository has its entries under their own keys, and a run against it
that fails leaves it empty. -/
theorem memoryStore_after_failed_run_empty :
    Keyed ([] : MemoryStore) ∧
      ∀ e store', (runAnalysisWith {} (some memoryRepository) (fun _ => .ok []) ⟨[]⟩ []).run [] =
        (.error e, store') → store' = [] :=
  ⟨keyed_nil, (@memoryStore_after_runs {} (fun _ => .ok []) ⟨[]⟩ [] [] [] keyed_nil).1⟩

end Memory

end DataQuality
