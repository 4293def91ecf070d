import Mathlib
import DataQuality.Proofs.Analysis.Monoid
import DataQuality.Proofs.Run.Report

/-!
# The aggregates scans build

The aggregates a run works with are built from the empty aggregate of a computation in two ways:
a scan observes one row at a time through the probe the computation resolves to, and the
partitions of a scan, and then the stored aggregates of earlier runs, are merged
(`Aggregate.Accumulates`, which also counts the rows seen, a merge seeing the rows of both sides).

Each step keeps two invariants, so every aggregate built this way has them:

* it has the kind and the representation of the empty aggregate of its computation: the accuracy
  of its quantile sketch, the precision and register count of its distinct-count sketch, the
  ascending keys of its tallies (`Accumulates.conforms`);
* a frequency table over `n` grouping columns has keys that each join `n` grouping values
  (`Accumulates.keysJoin`): an observation adds the key of the rendered cells of the probe's
  columns, and a merge adds no key that neither side had (`Tally.fst_mem_merge`).

The partition aggregates the in-memory engine returns are built this way, and so is their merge,
which never fails (`scanPartitions_accumulates`, `mergeAll_accumulates`); the outcome of a
descriptor that reaches a run is a failure to read its filter or resolve its columns, or such an
aggregate (`partitionOutcome_accumulates`).
-/

namespace DataQuality

/-! ## Keys of tallies -/

namespace Tally

variable {κ : Type} [Ord κ]

/-- Adding to a key lists that key and the keys listed before. -/
lemma fst_mem_bump {k : κ} {n : UInt64} {l : List (κ × UInt64)} {e : κ × UInt64}
    (h : e ∈ bump k n l) : e.1 = k ∨ ∃ m, (e.1, m) ∈ l := by
  induction l with
  | nil =>
    rw [bump, List.mem_singleton] at h
    exact .inl (by rw [h])
  | cons head rest ih =>
    obtain ⟨k', m⟩ := head
    unfold bump at h
    -- the new key goes before the head, onto it, or further down
    split at h
    · rcases List.mem_cons.mp h with rfl | h
      · exact .inl rfl
      · exact .inr ⟨e.2, h⟩
    · rcases List.mem_cons.mp h with rfl | h
      · exact .inr ⟨m, List.mem_cons_self ..⟩
      · exact .inr ⟨e.2, List.mem_cons_of_mem _ h⟩
    · rcases List.mem_cons.mp h with rfl | h
      · exact .inr ⟨m, List.mem_cons_self ..⟩
      · rcases ih h with hk | ⟨m', hm'⟩
        · exact .inl hk
        · exact .inr ⟨m', List.mem_cons_of_mem _ hm'⟩

/-- Adding the entries of a list to a tally lists only keys that the tally or the list had. -/
lemma fst_mem_foldl_add {a : Tally κ} {l : List (κ × UInt64)} {e : κ × UInt64}
    (h : e ∈ (l.foldl (fun t (k, n) => t.add k n) a).entries) :
    (∃ m, (e.1, m) ∈ a.entries) ∨ ∃ m, (e.1, m) ∈ l := by
  induction l generalizing a with
  | nil => exact .inl ⟨e.2, h⟩
  | cons head rest ih =>
    rw [List.foldl_cons] at h
    rcases ih h with ⟨m, hm⟩ | ⟨m, hm⟩
    · rcases fst_mem_bump hm with hk | hold
      · exact .inr ⟨head.2, by rw [hk]; exact List.mem_cons_self ..⟩
      · exact .inl hold
    · exact .inr ⟨m, List.mem_cons_of_mem _ hm⟩

/-- A merged tally lists only keys that one of the two tallies listed. -/
lemma fst_mem_merge {a b : Tally κ} {e : κ × UInt64} (h : e ∈ (a.merge b).entries) :
    (∃ m, (e.1, m) ∈ a.entries) ∨ ∃ m, (e.1, m) ∈ b.entries :=
  fst_mem_foldl_add h

end Tally

/-- A list mapped into `Except` that succeeds has one result per element. -/
lemma length_of_mapM_eq_ok {α β ε : Type} {g : α → Except ε β} {xs : List α} {ys : List β}
    (h : xs.mapM g = .ok ys) : ys.length = xs.length := by
  induction xs generalizing ys with
  | nil =>
    simp only [List.mapM_nil, pure, Except.pure, Except.ok.injEq] at h
    rw [← h]
    rfl
  | cons x rest ih =>
    rw [List.mapM_cons] at h
    cases hx : g x with
    | error e => simp [hx, bind, Except.bind] at h
    | ok y =>
      cases hrest : rest.mapM g with
      | error e => simp [hx, hrest, bind, Except.bind] at h
      | ok zs =>
        simp only [hx, hrest, bind, Except.bind, pure, Except.pure, Except.ok.injEq] at h
        rw [← h, List.length_cons, List.length_cons, ih hrest]

/-- A pair of a list zipped with its image is an element and its image. -/
lemma mem_zip_map_self {α β : Type} {g : α → β} {l : List α} {x : α} {y : β}
    (h : (x, y) ∈ l.zip (l.map g)) : x ∈ l ∧ y = g x := by
  induction l with
  | nil => simp at h
  | cons a rest ih =>
    rw [List.map_cons, List.zip_cons_cons, List.mem_cons] at h
    rcases h with h | h
    · simp only [Prod.mk.injEq] at h
      obtain ⟨rfl, rfl⟩ := h
      exact ⟨List.mem_cons_self .., rfl⟩
    · obtain ⟨hx, hy⟩ := ih h
      exact ⟨List.mem_cons_of_mem _ hx, hy⟩

/-- A grouping computation resolves to the probe of the keys of as many columns. -/
lemma Computation.probe_frequencies {cs : List String} {index : List (String × Nat)}
    {probe : Probe} (h : (Computation.frequencies cs).probe index = .ok probe) :
    ∃ is : List Nat, probe = .key is ∧ is.length = cs.length := by
  simp only [Computation.probe, Functor.map, Except.map] at h
  split at h
  · cases h
  · rename_i is his
    cases h
    exact ⟨is, rfl, length_of_mapM_eq_ok his⟩

namespace Aggregate

/-! ## Aggregates built by scans and merges -/

/-- The aggregates of a computation that scans and merges build, with the number of rows they
have seen: the empty aggregate has seen none, an observation through a probe the computation
resolves to sees one more row, and a merge sees the rows of both sides. -/
inductive Accumulates (c : Computation) : Nat → Aggregate → Prop
  | empty : Accumulates c 0 (empty c)
  | observe {n : Nat} {a : Aggregate} {index : List (String × Nat)} {probe : Probe} (row : Row) :
      c.probe index = .ok probe → Accumulates c n a →
        Accumulates c (n + 1) (a.observe ⟨index, row⟩ probe)
  | merge {m n : Nat} {a b w : Aggregate} :
      Accumulates c m a → Accumulates c n b → merge? a b = some w → Accumulates c (m + n) w

/-- The keys of a frequency table over grouping columns each join one value per column. -/
def KeysJoin : Computation → Aggregate → Prop
  | .frequencies cs, .frequencies f =>
    ∀ e ∈ f.counts.entries, ∃ vs : List String, vs.length = cs.length ∧ e.1 = Frequencies.keyOf vs
  | _, _ => True

section Invariants

variable {c : Computation}

/-- The empty frequency table has no key. -/
lemma keysJoin_empty (c : Computation) : KeysJoin c (empty c) := by
  cases c <;> simp [KeysJoin, empty]

/-- Observing a row through a probe of the computation adds only a key of as many values as the
computation has grouping columns. -/
lemma keysJoin_observe {a : Aggregate} {index : List (String × Nat)} {probe : Probe}
    (hp : c.probe index = .ok probe) (h : KeysJoin c a) (view : RowView) :
    KeysJoin c (a.observe view probe) := by
  cases c with
  | frequencies cs =>
    obtain ⟨is, rfl, hlen⟩ := Computation.probe_frequencies hp
    cases a with
    | frequencies f =>
      simp only [KeysJoin] at h
      simp only [observe]
      split_ifs
      · exact h
      · -- the new key joins the rendered cells of the probe's columns
        intro e he
        rcases Tally.fst_mem_bump he with hk | ⟨m, hm⟩
        · exact ⟨_, by simp [hlen], hk⟩
        · exact h (e.1, m) hm
    | _ => trivial
  | _ => trivial

/-- A merge adds no key that neither side had. -/
lemma keysJoin_merge? {a b w : Aggregate} (ha : KeysJoin c a) (hb : KeysJoin c b)
    (hw : merge? a b = some w) : KeysJoin c w := by
  cases c with
  | frequencies cs =>
    cases w with
    | frequencies h =>
      -- only two frequency tables merge into one
      cases a <;> cases b <;> simp [merge?] at hw
      case frequencies.frequencies f g =>
        subst hw
        intro e he
        rcases Tally.fst_mem_merge he with ⟨m, hm⟩ | ⟨m, hm⟩
        · exact ha (e.1, m) hm
        · exact hb (e.1, m) hm
    | _ => trivial
  | _ => trivial

/-- Every aggregate scans and merges build has the kind and representation of the empty
aggregate of its computation. -/
theorem Accumulates.conforms {n : Nat} {a : Aggregate} (h : Accumulates c n a) :
    Conforms (Aggregate.empty c) a := by
  induction h with
  | empty => exact conforms_empty c
  | observe row _ _ ih => exact conforms_observe ih _ _
  | merge _ _ hw iha ihb =>
    obtain ⟨w, hw', hconf⟩ := merge?_conforms iha ihb
    rw [hw, Option.some.injEq] at hw'
    rwa [hw']

/-- Every frequency table scans and merges build has keys that join one value per grouping
column. -/
theorem Accumulates.keysJoin {n : Nat} {a : Aggregate} (h : Accumulates c n a) : KeysJoin c a := by
  induction h with
  | empty => exact keysJoin_empty c
  | observe row hp _ ih => exact keysJoin_observe hp ih _
  | merge _ _ hw iha ihb => exact keysJoin_merge? iha ihb hw

end Invariants

/-! ## Scans and merges of scans -/

section Scans

variable {c : Computation} {index : List (String × Nat)} {probe : Probe}

/-- A scan through a probe of the computation observes each row its filter passes. -/
lemma accumulates_scanRows (hp : c.probe index = .ok probe) (filter : Option Predicate)
    {n : Nat} {a : Aggregate} (h : Accumulates c n a) (rows : List Row) :
    ∃ m, Accumulates c m (scanRows index filter probe a rows) := by
  induction rows generalizing n a with
  | nil => exact ⟨n, h⟩
  | cons row rest ih =>
    -- a row the filter stops is skipped, any other is observed
    by_cases hpass : (filter.map (·.passes ⟨index, row⟩)).getD true = true
    · have hstep : scanRows index filter probe a (row :: rest) =
          scanRows index filter probe (a.observe ⟨index, row⟩ probe) rest := by
        simp only [scanRows, List.foldl_cons, hpass, if_true]
      rw [hstep]
      exact ih (h.observe row hp)
    · have hstep : scanRows index filter probe a (row :: rest) =
          scanRows index filter probe a rest := by
        simp only [scanRows, List.foldl_cons, hpass, if_false, Bool.false_eq_true]
      rw [hstep]
      exact ih h

/-- Aggregates built by scans and merges merge, one after another, into one built the same
way: no merge of them is refused. -/
theorem mergeAll_accumulates {m : Nat} {e : Aggregate} (he : Accumulates c m e)
    {xs : List Aggregate} (hxs : ∀ x ∈ xs, ∃ n, Accumulates c n x) :
    ∃ w n, mergeAll e xs = .ok w ∧ Accumulates c n w := by
  induction xs generalizing m e with
  | nil => exact ⟨e, m, rfl, he⟩
  | cons x rest ih =>
    obtain ⟨n, hx⟩ := hxs x List.mem_cons_self
    obtain ⟨w, hw, -⟩ := merge?_conforms he.conforms hx.conforms
    obtain ⟨v, k, hv, hk⟩ := ih (he.merge hx hw) fun y hy => hxs y (List.mem_cons_of_mem x hy)
    refine ⟨v, k, ?_, hk⟩
    rw [mergeAll, List.foldlM_cons, merge, hw]
    exact hv

end Scans

end Aggregate

open Aggregate

/-- Every partition aggregate the in-memory engine returns for a descriptor is built by a scan
through the probe of its computation. -/
theorem scanPartitions_accumulates {T : Table} {k : Nat} {request : ScanRequest}
    {scans : List (Except ScanError (List Aggregate))}
    (h : scanPartitions T k request = .ok scans) {d : Descriptor} {parts : List Aggregate}
    (hd : (d, Except.ok parts) ∈ request.descriptors.zip scans) :
    ∀ x ∈ parts, ∃ n, Accumulates d.computation n x := by
  -- the answer is the descriptors mapped one by one, under the filter that was read
  obtain ⟨filter, hscans⟩ : ∃ filter : Option Predicate, scans = request.descriptors.map fun d =>
      (d.computation.probe (RowView.index T.schema.names)).map fun probe =>
        (T.partitions (max k 1)).map (scanRows (RowView.index T.schema.names) filter probe
          (empty d.computation)) := by
    rw [scanPartitions_eq] at h
    cases hf : request.shape.filter.mapM (compilePredicate (RowView.index T.schema.names)) with
    | error e => simp [hf, Except.map] at h
    | ok filter =>
      simp only [hf, Except.map, Except.ok.injEq] at h
      exact ⟨filter, h.symm⟩
  subst hscans
  obtain ⟨-, hout⟩ := mem_zip_map_self hd
  cases hp : d.computation.probe (RowView.index T.schema.names) with
  | error e => simp [hp, Except.map] at hout
  | ok probe =>
    simp only [hp, Except.map, Except.ok.injEq] at hout
    subst hout
    intro x hx
    obtain ⟨part, -, rfl⟩ := List.mem_map.mp hx
    exact accumulates_scanRows hp filter .empty part

/-- The outcome of a descriptor that reaches a run is a failure, or the merge of its partition
aggregates, built by scans and merges through the probe of its computation. -/
theorem partitionOutcome_accumulates {T : Table} {k : Nat} {d : Descriptor} {agg : Aggregate}
    (h : partitionOutcome T k d = .ok agg) : ∃ n, Accumulates d.computation n agg := by
  unfold partitionOutcome at h
  dsimp only at h
  split at h
  · cases h
  · rename_i filter _
    cases hp : d.computation.probe (RowView.index T.schema.names) with
    | error e => simp [hp, mergeScan, Except.map, Except.mapError, bind, Except.bind] at h
    | ok probe =>
      -- the partitions are scans through the probe, and their merge succeeds
      have hparts : ∀ x ∈ (T.partitions (max k 1)).map (scanRows (RowView.index T.schema.names)
          filter probe (empty d.computation)), ∃ n, Accumulates d.computation n x := by
        intro x hx
        obtain ⟨part, -, rfl⟩ := List.mem_map.mp hx
        exact accumulates_scanRows hp filter .empty part
      obtain ⟨w, n, hw, hacc⟩ := mergeAll_accumulates .empty hparts
      simp only [hp, mergeScan, Except.map, Except.mapError, hw, bind, Except.bind,
        Except.ok.injEq] at h
      exact ⟨n, h ▸ hacc⟩

end DataQuality
