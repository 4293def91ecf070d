import DataQuality.Proofs.Scan.Merge

/-!
# What one scan computes

A scan folds the rows that pass its filter into an aggregate, one observation per row.  For each
kind of aggregate and the probe that steps it, the scan from the empty aggregate is the state of
that kind computed from the rows directly: the number of rows, the number of rows a test holds
of, the least and greatest of the numbers read, the tally of the grouping keys, the counts of the
classes of cells.  These are the forms in which the metrics are read off.
-/

namespace DataQuality

open Decimal

/-- Whether a row passes an optional filter; with no filter every row does. -/
def passesFilter (index : List (String × Nat)) (filter : Option Predicate) (row : Row) : Bool :=
  (filter.map (·.passes ⟨index, row⟩)).getD true

/-- A scan observes the rows that pass its filter, in order. -/
lemma scanRows_eq_foldl (index : List (String × Nat)) (filter : Option Predicate) (probe : Probe)
    (a : Aggregate) (rows : List Row) :
    scanRows index filter probe a rows =
      (rows.filter (passesFilter index filter)).foldl
        (fun (agg : Aggregate) row => agg.observe ⟨index, row⟩ probe) a := by
  rw [List.foldl_filter]
  rfl

section Kinds

variable (index : List (String × Nat)) (R : List Row)

/-- A count taken once per item ends at the number of items. -/
lemma foldl_succ {α : Type} (xs : List α) (n : UInt64) :
    xs.foldl (fun n _ => n + 1) n = n + UInt64.ofNat xs.length := by
  induction xs generalizing n with
  | nil => simp
  | cons x rest ih =>
    rw [List.foldl_cons, ih, List.length_cons, UInt64.ofNat_add, UInt64.add_assoc,
      UInt64.add_comm 1]
    rfl

/-- Counting rows. -/
lemma foldl_observe_rows (n : UInt64) :
    R.foldl (fun (agg : Aggregate) row => agg.observe ⟨index, row⟩ .rows) (.count n) =
      .count (n + UInt64.ofNat R.length) := by
  have hstep : ∀ (n : UInt64) (row : Row),
      (Aggregate.count n).observe ⟨index, row⟩ .rows = .count (n + 1) := fun n row => rfl
  rw [List.foldl_hom Aggregate.count hstep, foldl_succ]

/-- Counting the rows a test holds of, among all rows. -/
lemma RatioCount.foldl_observe (test : Row → Bool) (r : RatioCount) :
    R.foldl (fun r row => r.observe (test row)) r =
      ⟨r.hits + UInt64.ofNat (R.countP test), r.total + UInt64.ofNat R.length⟩ := by
  induction R generalizing r with
  | nil => simp
  | cons row rest ih =>
    rw [List.foldl_cons, ih, List.countP_cons, List.length_cons]
    cases htest : test row <;>
      simp [RatioCount.observe, UInt64.ofNat_add, UInt64.add_assoc, UInt64.add_comm 1]

/-- A probe that reads a test of each row steps a ratio count by that test. -/
lemma foldl_observe_ratio (probe : Probe) (test : Row → Bool)
    (hprobe : ∀ r row, (Aggregate.ratio r).observe ⟨index, row⟩ probe = .ratio (r.observe (test row)))
    (r : RatioCount) :
    R.foldl (fun (agg : Aggregate) row => agg.observe ⟨index, row⟩ probe) (.ratio r) =
      .ratio ⟨r.hits + UInt64.ofNat (R.countP test), r.total + UInt64.ofNat R.length⟩ := by
  rw [← RatioCount.foldl_observe R test r]
  exact List.foldl_hom Aggregate.ratio fun r row => hprobe r row

/-- The extremes after some numbers, from extremes already seen. -/
lemma Extrema.foldl_observe_some (xs : List Float) (n : UInt64) (lo hi : Float) :
    xs.foldl Extrema.observe ⟨n, some lo, some hi⟩ =
      ⟨n + UInt64.ofNat xs.length, some (xs.foldl minNum lo), some (xs.foldl maxNum hi)⟩ := by
  induction xs generalizing n lo hi with
  | nil => simp
  | cons x rest ih =>
    simp only [List.foldl_cons, Extrema.observe, Option.map_some, Option.getD_some, ih,
      List.length_cons, Extrema.mk.injEq, and_true]
    rw [UInt64.ofNat_add, UInt64.add_assoc, UInt64.add_comm 1]
    rfl

/-- The extremes of some numbers: none of none, else the fold of the choice from the first. -/
lemma Extrema.foldl_observe_empty (xs : List Float) :
    xs.foldl Extrema.observe {} =
      ⟨UInt64.ofNat xs.length, xs.head?.map (xs.tail.foldl minNum),
        xs.head?.map (xs.tail.foldl maxNum)⟩ := by
  cases xs with
  | nil => rfl
  | cons x rest =>
    rw [List.foldl_cons]
    have hfirst : Extrema.observe {} x = ⟨1, some x, some x⟩ := rfl
    rw [hfirst, Extrema.foldl_observe_some]
    simp [UInt64.ofNat_add, UInt64.add_comm]

/-- A probe that reads an optional number of each row steps extremes by the numbers read. -/
lemma foldl_observe_extrema (probe : Probe) (read : Row → Option Float)
    (hprobe : ∀ e row, (Aggregate.extrema e).observe ⟨index, row⟩ probe =
      .extrema (match read row with | some x => e.observe x | none => e))
    (e : Extrema) :
    R.foldl (fun (agg : Aggregate) row => agg.observe ⟨index, row⟩ probe) (.extrema e) =
      .extrema ((R.filterMap read).foldl Extrema.observe e) := by
  rw [List.foldl_filterMap]
  refine List.foldl_hom Aggregate.extrema fun e row => ?_
  rw [hprobe]
  cases read row <;> rfl

/-- The key of a row's grouping cells, none when one of them is null. -/
def groupingKey (columns : List Nat) (row : Row) : Option String :=
  let vs := columns.map (cellAt row)
  if vs.any Value.isNull then none else some (Frequencies.keyOf (vs.map Value.render))

/-- A frequency table counts the rows and tallies the keys of those without a null grouping
cell. -/
lemma foldl_observe_key (columns : List Nat) :
    R.foldl (fun (agg : Aggregate) row => agg.observe ⟨index, row⟩ (.key columns)) (.frequencies {}) =
      .frequencies ⟨UInt64.ofNat R.length, Tally.ofKeys (R.filterMap (groupingKey columns))⟩ := by
  have hstep : ∀ (f : Frequencies) row,
      (Aggregate.frequencies f).observe ⟨index, row⟩ (.key columns) =
        .frequencies (f.observe (groupingKey columns row)) := by
    intro f row
    simp only [Aggregate.observe, groupingKey]
    split_ifs <;> rfl
  rw [List.foldl_hom Aggregate.frequencies hstep]
  congr 1
  -- the rows counted and the keys tallied are two folds over the same rows
  suffices h : ∀ (f : Frequencies), R.foldl (fun f row => f.observe (groupingKey columns row)) f =
      ⟨f.rows + UInt64.ofNat R.length,
        (R.filterMap (groupingKey columns)).foldl (fun t k => t.add k 1) f.counts⟩ by
    simpa [Tally.ofKeys] using h {}
  intro f
  induction R generalizing f with
  | nil => simp
  | cons row rest ih =>
    rw [List.foldl_cons, ih, List.filterMap_cons]
    cases groupingKey columns row <;>
      simp [Frequencies.observe, UInt64.ofNat_add, UInt64.add_assoc, UInt64.add_comm 1]

/-- The count of a class after some cells. -/
lemma TypeCounts.get_foldl_observe (vs : List Value) (t : TypeCounts) (c : DataClass) :
    (vs.foldl TypeCounts.observe t).get c =
      t.get c + UInt64.ofNat (vs.countP fun v => decide (DataClass.ofValue v = c)) := by
  induction vs generalizing t with
  | nil => simp
  | cons v rest ih =>
    rw [List.foldl_cons, ih, List.countP_cons]
    unfold TypeCounts.observe
    split <;> cases c <;> simp_all [TypeCounts.get, UInt64.ofNat_add, UInt64.add_assoc, UInt64.add_comm 1]

/-- Counting the classes of the cells of a column. -/
lemma foldl_observe_cell (column : Nat) (t : TypeCounts) :
    R.foldl (fun (agg : Aggregate) row => agg.observe ⟨index, row⟩ (.cell column)) (.dataTypes t) =
      .dataTypes ((R.map (cellAt · column)).foldl TypeCounts.observe t) := by
  rw [List.foldl_map]
  exact List.foldl_hom Aggregate.dataTypes fun t row => rfl

end Kinds

end DataQuality
