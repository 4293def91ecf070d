import Mathlib
import DataQuality.Run.Runner
import DataQuality.Proofs.Scan.Plan

/-!
# Scan groups and their engines

A run hands each group of descriptors of one scan shape to its engine and merges, descriptor by
descriptor, the partition aggregates the engine returns (`scanGroup`).  Whatever the engine
answers, a group that succeeds has one outcome for each of its descriptors, in order
(`length_of_scanGroup_eq_ok`): an engine that answers for another number of descriptors fails
the whole group.  The in-memory engine answers for every descriptor it is asked about
(`length_scanPartitions`), so with it a group is the merge of its answers
(`scanGroup_scanPartitions`).
-/

namespace DataQuality

/-- A scan group that succeeds has one outcome for each of its descriptors, whatever the engine
answered. -/
theorem length_of_scanGroup_eq_ok {engine : Engine} {shape : ScanShape} {ds : List Descriptor}
    {states : List (Except String Aggregate)} (h : scanGroup engine shape ds = .ok states) :
    states.length = ds.length := by
  unfold scanGroup at h
  split at h
  · cases h
  · -- the engine's answer got past the check of its length
    rename_i scans _
    split at h
    · cases h
    · rename_i hlen
      cases h
      rw [List.length_zipWith, not_not.mp hlen, Nat.min_self]

/-- The in-memory engine answers for every descriptor it is asked about. -/
lemma length_scanPartitions {T : Table} {k : Nat} {request : ScanRequest}
    {scans : List (Except ScanError (List Aggregate))}
    (h : scanPartitions T k request = .ok scans) : scans.length = request.descriptors.length := by
  rw [scanPartitions_eq] at h
  -- the filter either fails, which answers nothing, or the descriptors are mapped one by one
  cases hf : request.shape.filter.mapM (compilePredicate (RowView.index T.schema.names)) with
  | error e => simp [hf, Except.map] at h
  | ok filter =>
    simp only [hf, Except.map, Except.ok.injEq] at h
    rw [← h, List.length_map]

/-- With the in-memory engine a scan group is the failure of its filter, or the merge of each
descriptor's partition aggregates. -/
lemma scanGroup_scanPartitions (T : Table) (k : Nat) (shape : ScanShape) (ds : List Descriptor) :
    scanGroup (scanPartitions T k) shape ds =
      match scanPartitions T k ⟨shape, ds⟩ with
      | .error e => .error e.message
      | .ok scans => .ok (List.zipWith mergeScan ds scans) := by
  unfold scanGroup
  cases h : scanPartitions T k ⟨shape, ds⟩ with
  | error e => rfl
  | ok scans => simp [length_scanPartitions h]

end DataQuality
