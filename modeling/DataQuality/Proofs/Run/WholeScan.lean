import Mathlib
import DataQuality.Proofs.Scan.Sums
import DataQuality.Proofs.Scan.Permute
import DataQuality.Proofs.Run.Engine

/-!
# Scan groups as one pass over the rows

A run scans a table cut into partitions and merges the aggregates of the partitions.  For the
kinds that merge exactly the merge is the scan of all the rows (`Aggregate.mergeAll_scans`); for
moments and co-moments it is too when the numbers of the table are whole and the sums these
aggregates take fit in fifty-three bits (`Computation.ExactSums`).  Then every scan group of
descriptors that take exact sums is one pass over all the rows of the table, `scanWhole`, however
many partitions the table is cut into (`scanGroup_eq_scanWhole`).
-/

namespace DataQuality

open Decimal

/-- The sums that the aggregate of a computation takes over a table fit in fifty-three bits,
over any of its rows: those of moments over the numbers of their column, those of co-moments over
the pairs of numbers of their two columns.  The other kinds take no sums of doubles. -/
def Computation.ExactSums (T : Table) (w : Row → Nat → Int) : Computation → Prop
  | .moments column => ∀ i, resolveColumn (RowView.index T.schema.names) column = .ok i →
      Moments.Exact (T.rows.filterMap (numberAt w i))
  | .correlation first second => ∀ i j,
      resolveColumn (RowView.index T.schema.names) first = .ok i →
      resolveColumn (RowView.index T.schema.names) second = .ok j →
      CoMoments.Exact (T.rows.filterMap (pairAt w i j))
  | _ => True

/-- The numbers of a table are whole and the sums its analyzers take fit: every number a cell
reads as is the double of the integer `w` gives the cell, and every analyzer's computation takes
exact sums. -/
structure Table.WholeSums (T : Table) (w : Row → Nat → Int) (analyzers : List Analyzer) :
    Prop where
  cells : WholeCells w T.rows
  sums : ∀ a ∈ analyzers, a.descriptor.computation.ExactSums T w

/-- A scan group done in one pass over all the rows of a table, with no partitions: the filter
and each descriptor resolved, then each descriptor's scan of the rows from its empty
aggregate. -/
def scanWhole (table : Table) (shape : ScanShape) (ds : List Descriptor) :
    Except String (List (Except String Aggregate)) :=
  let index := RowView.index table.schema.names
  match shape.filter.mapM (compilePredicate index) with
  | .error e => .error e.message
  | .ok filter => .ok (ds.map fun d => match d.computation.probe index with
    | .error e => .error e.message
    | .ok probe => .ok (scanRows index filter probe (Aggregate.empty d.computation) table.rows))

section Bounds

/-- A sum of integers of at most `b` each is at most `b` times their number. -/
lemma natAbs_sum_le {l : List Int} {b : Nat} (hb : ∀ x ∈ l, x.natAbs ≤ b) :
    l.sum.natAbs ≤ l.length * b := by
  induction l with
  | nil => simp
  | cons x l ih =>
    rw [List.sum_cons, List.length_cons, Nat.succ_mul]
    have hx := hb x (by simp)
    have hl := ih fun y hy => hb y (by simp [hy])
    have := Int.natAbs_add_le x l.sum
    omega

/-- Few and small integers: every sum of some of them fits. -/
lemma SumsFit.of_bound {l : List Int} {b : Nat} (hb : ∀ x ∈ l, x.natAbs ≤ b)
    (hn : l.length * b ≤ 2 ^ 53) : SumsFit l := by
  intro l' hs
  calc l'.sum.natAbs ≤ l'.length * b := natAbs_sum_le fun x hx => hb x (hs.subset hx)
    _ ≤ l.length * b := Nat.mul_le_mul_right _ hs.length_le
    _ ≤ 2 ^ 53 := hn

variable {T : Table} {w : Row → Nat → Int} {b : Nat}

/-- Integers read from the rows of a table, at most `c` each: every sum of some of them fits
when `c` times the number of rows does. -/
lemma sumsFit_filterMap {β : Type} (f : Row → Option β) (g : β → Int) {c : Nat}
    (hc : ∀ r ∈ T.rows, ∀ v ∈ f r, (g v).natAbs ≤ c) (hn : T.rows.length * c ≤ 2 ^ 53) :
    SumsFit ((T.rows.filterMap f).map g) := by
  refine SumsFit.of_bound (b := c) ?_ ?_
  · intro x hx
    obtain ⟨v, hv, rfl⟩ := List.mem_map.mp hx
    obtain ⟨r, hr, hfr⟩ := List.mem_filterMap.mp hv
    exact hc r hr v (by simp [hfr])
  · rw [List.length_map]
    exact le_trans (Nat.mul_le_mul_right _ (List.length_filterMap_le f T.rows)) hn

lemma natAbs_mul_le {x y : Int} (hx : x.natAbs ≤ b) (hy : y.natAbs ≤ b) :
    (x * y).natAbs ≤ b * b := by
  rw [Int.natAbs_mul]
  exact Nat.mul_le_mul hx hy

/-- Rows with no fractional cell read every number as the double of the integer of its cell. -/
lemma wholeCells_of_integers {rows : List Row} (h : ∀ r ∈ rows, ∀ j y, cellAt r j ≠ .float y) :
    WholeCells (fun r j => (cellAt r j).asInt?.getD 0) rows := by
  intro r hr j x hx
  cases hc : cellAt r j with
  | int n =>
    rw [hc] at hx
    simp only [Value.asFloat?, Option.some.injEq] at hx
    simp [← hx, hc, Value.asInt?]
  | float y => exact absurd hc (h r hr j y)
  | _ => simp [hc, Value.asFloat?] at hx

variable (hb : ∀ r ∈ T.rows, ∀ j, (w r j).natAbs ≤ b) (hn : T.rows.length * (b * b) ≤ 2 ^ 53)
  (hn' : T.rows.length * b ≤ 2 ^ 53)
include hb hn hn'

/-- The moments of any column of a table of `n` integers at most `b` take exact sums when
`n * b * b` fits. -/
lemma Moments.exact_of_bound (i : Nat) : Moments.Exact (T.rows.filterMap (numberAt w i)) := by
  -- the integer of every number read is at most `b`
  have hnum : ∀ r ∈ T.rows, ∀ x ∈ numberAt w i r, x.natAbs ≤ b := by
    intro r hr x hx
    simp only [numberAt, Option.mem_def, Option.map_eq_some_iff] at hx
    obtain ⟨_, -, rfl⟩ := hx
    exact hb r hr i
  exact ⟨by simpa using sumsFit_filterMap (numberAt w i) id hnum hn',
    sumsFit_filterMap _ _ (fun r hr x hx => natAbs_mul_le (hnum r hr x hx) (hnum r hr x hx)) hn⟩

/-- So do the co-moments of any two of its columns. -/
lemma CoMoments.exact_of_bound (i j : Nat) : CoMoments.Exact (T.rows.filterMap (pairAt w i j)) := by
  -- both integers of every pair read are at most `b`
  have hpair : ∀ r ∈ T.rows, ∀ p ∈ pairAt w i j r, p.1.natAbs ≤ b ∧ p.2.natAbs ≤ b := by
    intro r hr p hp
    simp only [pairAt, Option.mem_def] at hp
    split at hp <;> cases hp
    exact ⟨hb r hr i, hb r hr j⟩
  exact ⟨sumsFit_filterMap _ _ (fun r hr p hp => (hpair r hr p hp).1) hn',
    sumsFit_filterMap _ _ (fun r hr p hp => (hpair r hr p hp).2) hn',
    sumsFit_filterMap _ _ (fun r hr p hp => natAbs_mul_le (hpair r hr p hp).1 (hpair r hr p hp).2) hn,
    sumsFit_filterMap _ _ (fun r hr p hp => natAbs_mul_le (hpair r hr p hp).1 (hpair r hr p hp).1) hn,
    sumsFit_filterMap _ _ (fun r hr p hp => natAbs_mul_le (hpair r hr p hp).2 (hpair r hr p hp).2) hn⟩

/-- Every computation over a table of few and small integers takes exact sums. -/
lemma Computation.exactSums_of_bound (c : Computation) : c.ExactSums T w := by
  cases c with
  | moments column => exact fun i _ => Moments.exact_of_bound hb hn hn' i
  | correlation first second => exact fun i j _ _ => CoMoments.exact_of_bound hb hn hn' i j
  | _ => trivial

end Bounds

section Partitions

variable {T : Table} {w : Row → Nat → Int}

lemma probe_moments {index : List (String × Nat)} {column : String} {probe : Probe}
    (hp : (Computation.moments column).probe index = .ok probe) :
    ∃ i, resolveColumn index column = .ok i ∧ probe = .number i := by
  cases hr : resolveColumn index column <;>
    simp [Computation.probe, hr, Functor.map, Except.map] at hp
  exact ⟨_, rfl, hp.symm⟩

lemma probe_correlation {index : List (String × Nat)} {first second : String} {probe : Probe}
    (hp : (Computation.correlation first second).probe index = .ok probe) :
    ∃ i j, resolveColumn index first = .ok i ∧ resolveColumn index second = .ok j ∧
      probe = .pair i j := by
  cases hi : resolveColumn index first <;> cases hj : resolveColumn index second <;>
    simp [Computation.probe, hi, hj, bind, Except.bind, pure, Except.pure] at hp
  exact ⟨_, _, rfl, rfl, hp.symm⟩

/-- The sums a computation takes over a table fit over any table of the same schema whose rows are
a sublist of its rows. -/
lemma Computation.ExactSums.sublist {c : Computation} {T' : Table} (h : c.ExactSums T w)
    (hschema : T'.schema = T.schema) (hrows : T'.rows.Sublist T.rows) : c.ExactSums T' w := by
  cases c with
  | moments column =>
    exact fun i hi => (h i (hschema ▸ hi)).sublist (hrows.filterMap _)
  | correlation first second =>
    exact fun i j hi hj => (h i j (hschema ▸ hi) (hschema ▸ hj)).sublist (hrows.filterMap _)
  | _ => trivial

/-- The merged scans of consecutive chunks of the rows of a table of whole numbers, in order, are
the scan of all its rows, for every computation that takes exact sums. -/
theorem mergeAll_chunks_eq_scan (hcells : WholeCells w T.rows) {c : Computation}
    (hc : c.ExactSums T w) {probe : Probe} (hp : c.probe (RowView.index T.schema.names) = .ok probe)
    (filter : Option Predicate) {parts : List (List Row)} (hflat : parts.flatten = T.rows) :
    Aggregate.mergeAll (Aggregate.empty c) (parts.map
        (scanRows (RowView.index T.schema.names) filter probe (Aggregate.empty c))) =
      .ok (scanRows (RowView.index T.schema.names) filter probe (Aggregate.empty c) T.rows) := by
  have hcells' : WholeCells w parts.flatten := hflat ▸ hcells
  have hpass : (parts.flatten.filter
      (passesFilter (RowView.index T.schema.names) filter)).Sublist T.rows :=
    hflat ▸ List.filter_sublist
  by_cases hk : (Aggregate.empty c).IsExact
  · rw [Aggregate.mergeAll_scans hk (Aggregate.conforms_empty c), hflat]
  -- the kinds that hold sums of doubles: moments of a column, co-moments of two
  cases c with
  | moments column =>
    obtain ⟨i, hi, rfl⟩ := probe_moments hp
    have hmerge := mergeAll_scans_moments hcells' filter i ((hc i hi).sublist (hpass.filterMap _))
    rw [hflat] at hmerge
    exact hmerge
  | correlation first second =>
    obtain ⟨i, j, hi, hj, rfl⟩ := probe_correlation hp
    have hmerge :=
      mergeAll_scans_correlation hcells' filter i j ((hc i j hi hj).sublist (hpass.filterMap _))
    rw [hflat] at hmerge
    exact hmerge
  | _ => exact absurd trivial hk

/-- Merging the scans of consecutive chunks into the scan of some first rows, over a table of
whole numbers whose sums fit, is the scan of all the rows. -/
theorem mergeAll_scan_chunks (hcells : WholeCells w T.rows) {c : Computation}
    (hc : c.ExactSums T w) {probe : Probe} (hp : c.probe (RowView.index T.schema.names) = .ok probe)
    (filter : Option Predicate) {first : List Row} {parts : List (List Row)}
    (hflat : first ++ parts.flatten = T.rows) :
    Aggregate.mergeAll
        (scanRows (RowView.index T.schema.names) filter probe (Aggregate.empty c) first)
        (parts.map (scanRows (RowView.index T.schema.names) filter probe (Aggregate.empty c))) =
      .ok (scanRows (RowView.index T.schema.names) filter probe (Aggregate.empty c) T.rows) := by
  -- the scan of the first rows merged into the empty aggregate is that scan
  have hsub : first.Sublist T.rows := hflat ▸ List.sublist_append_left first parts.flatten
  have hfirst := mergeAll_chunks_eq_scan (T := ⟨T.schema, first⟩)
    (fun r hr => hcells r (hsub.subset hr)) (hc.sublist rfl hsub) hp filter
    (show [first].flatten = first from List.flatten_singleton)
  simp only [Aggregate.mergeAll, List.map_cons, List.map_nil, List.foldlM_cons, List.foldlM_nil,
    bind_pure] at hfirst
  have hall := mergeAll_chunks_eq_scan hcells hc hp filter
    (show (first :: parts).flatten = T.rows from hflat)
  simp only [Aggregate.mergeAll, List.map_cons, List.foldlM_cons, hfirst] at hall
  exact hall

/-- The sums a computation takes over a table fit over any table of the same schema whose rows are
a permutation of its rows. -/
lemma Computation.ExactSums.perm {c : Computation} {T' : Table} (h : c.ExactSums T w)
    (hschema : T'.schema = T.schema) (hrows : T'.rows.Perm T.rows) : c.ExactSums T' w := by
  cases c with
  | moments column =>
    exact fun i hi => (h i (hschema ▸ hi)).perm (hrows.filterMap _)
  | correlation first second =>
    exact fun i j hi hj => (h i j (hschema ▸ hi) (hschema ▸ hj)).perm (hrows.filterMap _)
  | _ => trivial

/-- Whole numbers whose sums fit, over a table, hold over every table of its schema whose rows are
a sublist of its rows. -/
lemma Table.WholeSums.sublist {analyzers : List Analyzer} {T' : Table}
    (h : T.WholeSums w analyzers) (hschema : T'.schema = T.schema)
    (hrows : T'.rows.Sublist T.rows) : T'.WholeSums w analyzers :=
  ⟨fun r hr => h.cells r (hrows.subset hr), fun a ha => (h.sums a ha).sublist hschema hrows⟩

/-- A scan of a permutation of the rows of a table of whole numbers is the scan of its rows, for
every computation that takes exact sums. -/
theorem scanRows_perm (hcells : WholeCells w T.rows) {c : Computation} (hc : c.ExactSums T w)
    {probe : Probe} (hp : c.probe (RowView.index T.schema.names) = .ok probe)
    (filter : Option Predicate) {rows : List Row} (hperm : T.rows.Perm rows) :
    scanRows (RowView.index T.schema.names) filter probe (Aggregate.empty c) T.rows =
      scanRows (RowView.index T.schema.names) filter probe (Aggregate.empty c) rows := by
  by_cases hk : (Aggregate.empty c).IsExact
  · exact scanRows_perm_of_isExact hk hperm (fun r hr j x hx => ⟨w r j, hcells r hr j x hx⟩) probe
  -- the kinds that hold sums of doubles: moments of a column, co-moments of two
  cases c with
  | moments column =>
    obtain ⟨i, hi, rfl⟩ := probe_moments hp
    exact scanRows_moments_perm hperm hcells i ((hc i hi).sublist (List.filter_sublist.filterMap _))
  | correlation first second =>
    obtain ⟨i, j, hi, hj, rfl⟩ := probe_correlation hp
    exact scanRows_correlation_perm hperm hcells i j
      ((hc i j hi hj).sublist (List.filter_sublist.filterMap _))
  | _ => exact absurd trivial hk

/-- Merging the scans of chunks into the scan of some first rows, over a table of whole numbers
whose sums fit, is the scan of all the rows, whatever the order of the chunks. -/
theorem mergeAll_scan_chunks_perm (hcells : WholeCells w T.rows) {c : Computation}
    (hc : c.ExactSums T w) {probe : Probe} (hp : c.probe (RowView.index T.schema.names) = .ok probe)
    (filter : Option Predicate) {first : List Row} {parts parts' : List (List Row)}
    (hflat : first ++ parts.flatten = T.rows) (hperm : parts'.Perm parts) :
    Aggregate.mergeAll
        (scanRows (RowView.index T.schema.names) filter probe (Aggregate.empty c) first)
        (parts'.map (scanRows (RowView.index T.schema.names) filter probe (Aggregate.empty c))) =
      .ok (scanRows (RowView.index T.schema.names) filter probe (Aggregate.empty c) T.rows) := by
  -- the chunks in the order given make a table whose rows are a permutation of the table's
  have hrows : (first ++ parts'.flatten).Perm T.rows := hflat ▸ hperm.flatten.append_left first
  have hcells' : WholeCells w (first ++ parts'.flatten) := fun r hr => hcells r (hrows.subset hr)
  have hc' : c.ExactSums ⟨T.schema, first ++ parts'.flatten⟩ w := hc.perm rfl hrows
  rw [mergeAll_scan_chunks (T := ⟨T.schema, first ++ parts'.flatten⟩) hcells' hc' hp filter rfl]
  exact congrArg Except.ok (scanRows_perm (T := ⟨T.schema, first ++ parts'.flatten⟩) hcells' hc' hp
    filter hrows)

/-- The merged scans of the partitions of a table of whole numbers are the scan of all its rows,
for every computation that takes exact sums and however many partitions. -/
theorem mergeAll_partitions_eq_scan (hcells : WholeCells w T.rows) {c : Computation}
    (hc : c.ExactSums T w) {probe : Probe} (hp : c.probe (RowView.index T.schema.names) = .ok probe)
    (filter : Option Predicate) (n : Nat) :
    Aggregate.mergeAll (Aggregate.empty c) ((T.partitions n).map
        (scanRows (RowView.index T.schema.names) filter probe (Aggregate.empty c))) =
      .ok (scanRows (RowView.index T.schema.names) filter probe (Aggregate.empty c) T.rows) :=
  mergeAll_chunks_eq_scan hcells hc hp filter (Table.flatten_partitions T n)

/-- A scan group of descriptors that take exact sums over a table of whole numbers, however many
partitions the table is cut into, is one pass over all its rows. -/
theorem scanGroup_eq_scanWhole (hcells : WholeCells w T.rows) (n : Nat) (shape : ScanShape)
    {ds : List Descriptor} (hds : ∀ d ∈ ds, d.computation.ExactSums T w) :
    scanGroup (scanPartitions T n) shape ds = scanWhole T shape ds := by
  rw [scanGroup_scanPartitions, scanPartitions_eq, scanWhole]
  cases hf : shape.filter.mapM (compilePredicate (RowView.index T.schema.names)) with
  | error e => rfl
  | ok filter =>
    simp only [Except.map, List.zipWith_map_right, List.zipWith_self]
    congr 1
    -- each descriptor: its merged partitions against its scan of the rows
    refine List.map_congr_left fun d hd => ?_
    cases hp : d.computation.probe (RowView.index T.schema.names) with
    | error e => rfl
    | ok probe =>
      simp only [mergeScan, Except.mapError, bind, Except.bind,
        mergeAll_partitions_eq_scan hcells (hds d hd) hp]

end Partitions

end DataQuality
