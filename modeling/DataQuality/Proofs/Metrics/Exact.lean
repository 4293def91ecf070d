import Mathlib
import DataQuality.Proofs.Metrics.Reference
import DataQuality.Proofs.Scan.Fold
import DataQuality.Proofs.Scan.Resolve
import DataQuality.Proofs.Run.Single
import DataQuality.Proofs.Frequencies.Key
import DataQuality.Proofs.Double.Whole

/-!
# The exact analyzers compute their definitions

For every table, every partition count and every analyzer among the thirteen whose metric needs
no approximation, when the analyzer's preconditions hold on the schema and its filter (and, for
compliance, its predicate) reads and names columns of the table, the run of that analyzer alone
reports the metric its definition gives over the rows the filter passes
(`runAnalysis_exact_metric`).

The proof reads the run as one scan of all the rows from the empty aggregate (the partitions
merge away), the scan as the state of its kind computed from those rows, and the metric off that
state.  Counters are 64-bit words, and the number of rows is reported as a signed 64-bit number:
a table held in memory has fewer than `2^63` rows, and the statement asks for that.
-/

namespace DataQuality

open Decimal

/-! ## Counts as words and as doubles -/

/-- The double of a count held in a word. -/
lemma countToFloat_ofNat {n : Nat} (h : n < 2 ^ 64) : countToFloat (UInt64.ofNat n) = ofInt n := by
  rw [countToFloat, UInt64.toNat_ofNat_of_lt' h]

/-- The share a ratio count reports is the quotient of its counts, none of no rows. -/
lemma RatioCount.ratio?_ofNat {h t : Nat} (hh : h < 2 ^ 64) (ht : t < 2 ^ 64) :
    (⟨UInt64.ofNat h, UInt64.ofNat t⟩ : RatioCount).ratio? =
      if t = 0 then none else some (ofInt h / ofInt t) := by
  have htotal : (0 < UInt64.ofNat t) ↔ 0 < t := by
    rw [UInt64.lt_iff_toNat_lt, UInt64.toNat_ofNat_of_lt' ht]
    rfl
  by_cases h0 : t = 0
  · simp [RatioCount.ratio?, h0]
  · simp [RatioCount.ratio?, htotal, h0, Nat.pos_of_ne_zero h0, countToFloat_ofNat hh,
      countToFloat_ofNat ht]

/-- The value read off a ratio count is the fraction of its counts. -/
lemma ratioValue_eq_fraction {h t : Nat} (hh : h < 2 ^ 64) (ht : t < 2 ^ 64) :
    (match (⟨UInt64.ofNat h, UInt64.ofNat t⟩ : RatioCount).ratio? with
      | some x => .ok (.double x)
      | none => (.error .noRows : Except MetricFailure MetricValue)) = fraction h t := by
  rw [RatioCount.ratio?_ofNat hh ht, fraction]
  split_ifs <;> simp_all

/-! ## Tables and columns -/

/-- A table that was built has its schema and rows, and its schema is valid. -/
lemma Table.make_ok {s : Schema} {rows : List Row} {T : Table} (h : Table.make s rows = .ok T) :
    T.schema = s ∧ T.rows = rows ∧ s.validate = .ok () := by
  unfold Table.make at h
  cases hv : s.validate with
  | error e => simp [hv, bind, Except.bind] at h
  | ok u =>
    simp only [hv, bind, Except.bind] at h
    split at h
    · cases h
    · cases h
      exact ⟨rfl, rfl, rfl⟩

/-- A column that a valid schema has is where the scan resolves its name. -/
lemma Schema.exists_resolve {s : Schema} {c : String} (hv : s.validate = .ok ())
    (h : s.hasColumn c = true) :
    ∃ j, s.indexOf? c = some j ∧ resolveColumn (RowView.index s.names) c = .ok j := by
  obtain ⟨j, hj⟩ := Schema.indexOf?_isSome h
  exact ⟨j, hj, Schema.resolveColumn_eq hv hj⟩

lemma Schema.cell_of_indexOf? {s : Schema} {c : String} {j : Nat} (h : s.indexOf? c = some j)
    (row : Row) : s.cell row c = cellAt row j := by
  simp [Schema.cell, h]

lemma hasColumn_of_requireColumn {s : Schema} {c : String} (h : requireColumn s c = []) :
    s.hasColumn c = true := by
  unfold requireColumn at h
  split_ifs at h with hc
  exact hc

lemma hasColumn_of_requireNumeric {s : Schema} {c : String} (h : requireNumeric s c = []) :
    s.hasColumn c = true := by
  unfold requireNumeric at h
  cases hc : s.column? c with
  | none => simp [hc] at h
  | some col => simp [Schema.hasColumn, hc]

lemma hasColumn_of_requireType {s : Schema} {c : String} {t : ColumnType}
    (h : requireType s c t = []) : s.hasColumn c = true := by
  unfold requireType at h
  cases hc : s.column? c with
  | none => simp [hc] at h
  | some col => simp [Schema.hasColumn, hc]

/-- An optional text whose every reading succeeds reads. -/
lemma exists_mapM_ok {α β ε : Type} {g : α → Except ε β} {o : Option α}
    (h : ∀ x ∈ o, ∃ y, g x = .ok y) : ∃ r, o.mapM g = .ok r := by
  cases o with
  | none => exact ⟨none, rfl⟩
  | some x =>
    obtain ⟨y, hy⟩ := h x rfl
    exact ⟨some y, by simp [Option.mapM, hy]⟩

/-- The columns a valid schema has resolve, one by one, to the positions of the cells the schema
names. -/
lemma Schema.exists_resolveColumns {s : Schema} (hv : s.validate = .ok ()) {cs : List String}
    (hcs : ∀ c ∈ cs, s.hasColumn c = true) :
    ∃ js, cs.mapM (resolveColumn (RowView.index s.names)) = .ok js ∧
      ∀ row, js.map (cellAt row) = cs.map (s.cell row) := by
  induction cs with
  | nil => exact ⟨[], rfl, fun _ => rfl⟩
  | cons c rest ih =>
    obtain ⟨j, hj, hres⟩ := Schema.exists_resolve hv (hcs c List.mem_cons_self)
    obtain ⟨js, hjs, hcells⟩ := ih fun c' hc' => hcs c' (List.mem_cons_of_mem c hc')
    refine ⟨j :: js, ?_, fun row => ?_⟩
    · simp [List.mapM_cons, hres, hjs, bind, Except.bind, pure, Except.pure]
    · simp [hcells row, Schema.cell_of_indexOf? hj]

/-! ## Counting through an injective map -/

section Injective

variable {α β : Type} [DecidableEq α] [DecidableEq β] {f : α → β} {G : List α}

/-- A map injective on the elements of a list keeps their multiplicities. -/
lemma count_map_of_injOn (hf : ∀ x ∈ G, ∀ y ∈ G, f x = f y → x = y) {g : α} (hg : g ∈ G) :
    (G.map f).count (f g) = G.count g := by
  rw [List.count_eq_countP, List.count_eq_countP, List.countP_map]
  apply List.countP_congr
  intro x hx
  simp only [Function.comp_apply, beq_iff_eq]
  exact ⟨fun h => hf x hx g hg h, fun h => h ▸ rfl⟩

/-- A map injective on the elements of a list keeps the number of distinct ones. -/
lemma card_toFinset_map_of_injOn (hf : ∀ x ∈ G, ∀ y ∈ G, f x = f y → x = y) :
    (G.map f).toFinset.card = G.toFinset.card := by
  rw [show (G.map f).toFinset = G.toFinset.image f from Multiset.toFinset_map f G]
  exact Finset.card_image_of_injOn fun x hx y hy h => hf x (List.mem_toFinset.mp hx) y
    (List.mem_toFinset.mp hy) h

/-- A map injective on the elements of a list keeps the number of those that occur once. -/
lemma onceCount_map_of_injOn (hf : ∀ x ∈ G, ∀ y ∈ G, f x = f y → x = y) :
    onceCount (G.map f) = onceCount G := by
  unfold onceCount
  rw [show (G.map f).toFinset = G.toFinset.image f from Multiset.toFinset_map f G,
    Finset.filter_image]
  have hfilter : (G.toFinset.filter fun g => (G.map f).count (f g) = 1) =
      G.toFinset.filter fun g => G.count g = 1 :=
    Finset.filter_congr fun g hg => by rw [count_map_of_injOn hf (List.mem_toFinset.mp hg)]
  rw [hfilter]
  exact Finset.card_image_of_injOn fun x hx y hy h =>
    hf x (List.mem_toFinset.mp (Finset.mem_filter.mp hx).1) y
      (List.mem_toFinset.mp (Finset.mem_filter.mp hy).1) h

end Injective

/-! ## The metric of each kind of scan -/

section Values

variable (index : List (String × Nat)) (R : List Row) {a : Analyzer}

/-- A count of rows is reported as the number of rows. -/
lemma valueFrom_rows (hs : a.statistic = .size) (hR : R.length < 2 ^ 63) :
    a.valueFrom (R.foldl (fun (agg : Aggregate) row => agg.observe ⟨index, row⟩ .rows) (.count 0)) =
      .ok (.long R.length) := by
  have h64 : R.length < 2 ^ 64 := by omega
  have hwrap : wrapSigned R.length = R.length := by
    simp only [wrapSigned, Nat.pow_eq, Nat.mod_eq_of_lt h64, if_pos hR]
  rw [foldl_observe_rows, UInt64.zero_add]
  simp only [Analyzer.valueFrom, hs, UInt64.toNat_ofNat_of_lt' h64, hwrap]

/-- A share of rows is reported as the fraction of the rows a test holds of. -/
lemma valueFrom_ratio
    (hs : ∀ r, a.valueFrom (.ratio r) = match r.ratio? with
      | some x => .ok (.double x)
      | none => .error .noRows)
    (probe : Probe) (test : Row → Bool)
    (hprobe : ∀ r row, (Aggregate.ratio r).observe ⟨index, row⟩ probe = .ratio (r.observe (test row)))
    (hR : R.length < 2 ^ 64) :
    a.valueFrom (R.foldl (fun (agg : Aggregate) row => agg.observe ⟨index, row⟩ probe) (.ratio {})) =
      fraction (R.countP test) R.length := by
  rw [foldl_observe_ratio index R probe test hprobe, hs]
  have hc : R.countP test < 2 ^ 64 := lt_of_le_of_lt List.countP_le_length hR
  simpa using ratioValue_eq_fraction hc hR

/-- The first of some doubles by a key, chosen by folding from the first, is first by the key. -/
lemma leastBy_head?_foldl {β : Type} [LinearOrder β] (key : Float → β) (xs : List Float) :
    LeastBy key xs (match xs.head?.map (xs.tail.foldl (chooseBy key)) with
      | some x => .ok (.double x)
      | none => .error .noRows) := by
  cases xs with
  | nil => exact Or.inl ⟨rfl, rfl⟩
  | cons x rest => exact Or.inr ⟨_, isFirstBy_foldl_chooseBy x rest, rfl⟩

/-- A probe of the numbers of a column steps extremes by the number of each row. -/
lemma observe_number (j : Nat) (e : Extrema) (row : Row) :
    (Aggregate.extrema e).observe ⟨index, row⟩ (.number j) =
      .extrema (match (cellAt row j).asFloat? with | some x => e.observe x | none => e) := by
  simp only [Aggregate.observe]
  cases (cellAt row j).asFloat? <;> rfl

/-- A probe of the lengths of a column steps extremes by the double of each length. -/
lemma observe_length (j : Nat) (e : Extrema) (row : Row) :
    (Aggregate.extrema e).observe ⟨index, row⟩ (.length j) =
      .extrema (match ((cellAt row j).asText?.map String.length).map (fun n : Nat => ofInt n) with
        | some x => e.observe x
        | none => e) := by
  simp only [Aggregate.observe]
  cases (cellAt row j).asText? <;> rfl

/-- The least number of a column is one first in the order of doubles. -/
lemma valueFrom_minimum {c : String} (hs : a.statistic = .minimum c) (j : Nat) :
    LeastBy rank (R.filterMap fun row => (cellAt row j).asFloat?)
      (a.valueFrom (R.foldl (fun (agg : Aggregate) row => agg.observe ⟨index, row⟩ (.number j))
        (.extrema {}))) := by
  rw [foldl_observe_extrema index R _ _ (fun e row => observe_number index j e row),
    Extrema.foldl_observe_empty]
  simp only [Analyzer.valueFrom, hs]
  rw [minNum_eq_chooseBy]
  exact leastBy_head?_foldl rank _

/-- The greatest number of a column is one first in the reverse order of doubles. -/
lemma valueFrom_maximum {c : String} (hs : a.statistic = .maximum c) (j : Nat) :
    LeastBy (fun x => OrderDual.toDual (rank x)) (R.filterMap fun row => (cellAt row j).asFloat?)
      (a.valueFrom (R.foldl (fun (agg : Aggregate) row => agg.observe ⟨index, row⟩ (.number j))
        (.extrema {}))) := by
  rw [foldl_observe_extrema index R _ _ (fun e row => observe_number index j e row),
    Extrema.foldl_observe_empty]
  simp only [Analyzer.valueFrom, hs]
  rw [maxNum_eq_chooseBy]
  exact leastBy_head?_foldl _ _

/-- The least length of the texts of a column, as a double. -/
lemma valueFrom_minLength {c : String} (hs : a.statistic = .minLength c) (j : Nat) :
    a.valueFrom (R.foldl (fun (agg : Aggregate) row => agg.observe ⟨index, row⟩ (.length j))
      (.extrema {})) =
        countValue (R.filterMap fun row => (cellAt row j).asText?.map String.length).min? := by
  rw [foldl_observe_extrema index R _ _ (fun e row => observe_length index j e row),
    ← List.map_filterMap, Extrema.foldl_observe_empty]
  cases R.filterMap fun row => (cellAt row j).asText?.map String.length with
  | nil => simp [Analyzer.valueFrom, hs, countValue]
  | cons l rest =>
    rw [List.min?_cons']
    simp [Analyzer.valueFrom, hs, countValue, foldl_minNum_ofInt]

/-- The greatest length of the texts of a column, as a double. -/
lemma valueFrom_maxLength {c : String} (hs : a.statistic = .maxLength c) (j : Nat) :
    a.valueFrom (R.foldl (fun (agg : Aggregate) row => agg.observe ⟨index, row⟩ (.length j))
      (.extrema {})) =
        countValue (R.filterMap fun row => (cellAt row j).asText?.map String.length).max? := by
  rw [foldl_observe_extrema index R _ _ (fun e row => observe_length index j e row),
    ← List.map_filterMap, Extrema.foldl_observe_empty]
  cases R.filterMap fun row => (cellAt row j).asText?.map String.length with
  | nil => simp [Analyzer.valueFrom, hs, countValue]
  | cons l rest =>
    rw [List.max?_cons']
    simp [Analyzer.valueFrom, hs, countValue, foldl_maxNum_ofInt]

/-- The keys a frequency scan tallies are the keys of the grouping tuples. -/
lemma filterMap_groupingKey {s : Schema} {cs : List String} {js : List Nat}
    (hcells : ∀ row, js.map (cellAt row) = cs.map (s.cell row)) :
    R.filterMap (groupingKey js) = (groupingTuples s cs R).map Frequencies.keyOf := by
  induction R with
  | nil => rfl
  | cons row rest ih =>
    simp only [groupingTuples, List.map_map] at ih ⊢
    rw [List.filterMap_cons, List.filter_cons]
    by_cases hnull : ∃ c ∈ cs, (s.cell row c).isNull
    · -- a null grouping cell: no key, and the row is not grouped
      have hkey : groupingKey js row = none := by simp [groupingKey, hcells row, hnull]
      have hall : (cs.all fun c => !(s.cell row c).isNull) = false := by simpa using hnull
      rw [hkey, hall, if_neg Bool.false_ne_true, ih]
    · have hkey : groupingKey js row =
          some (Frequencies.keyOf (cs.map fun c => (s.cell row c).render)) := by
        simp only [not_exists, not_and, Bool.not_eq_true] at hnull
        simpa [groupingKey, hcells row, Function.comp_def] using hnull
      have hall : (cs.all fun c => !(s.cell row c).isNull) = true := by simpa using hnull
      rw [hkey, hall, if_pos rfl, List.map_cons, ih]
      rfl

/-- Grouping tuples over at least one column are not empty. -/
lemma ne_nil_of_mem_groupingTuples {s : Schema} {cs : List String} (hne : cs ≠ [])
    {g : List String} (hg : g ∈ groupingTuples s cs R) : g ≠ [] := by
  simp only [groupingTuples, List.mem_map] at hg
  obtain ⟨r, -, rfl⟩ := hg
  simpa using hne

/-- A frequency scan over grouping columns counts the rows, and its numbers of distinct and of
unique keys are those of the grouping tuples. -/
lemma foldl_observe_grouping {s : Schema} {cs : List String} {js : List Nat} (hne : cs ≠ [])
    (hcells : ∀ row, js.map (cellAt row) = cs.map (s.cell row)) (hR : R.length < 2 ^ 64) :
    ∃ f, R.foldl (fun (agg : Aggregate) row => agg.observe ⟨index, row⟩ (.key js))
        (.frequencies {}) = .frequencies f ∧ f.rows.toNat = R.length ∧
      f.distinct = (groupingTuples s cs R).toFinset.card ∧
      f.unique = onceCount (groupingTuples s cs R) := by
  -- the key of a tuple determines the tuple
  have hinj : ∀ x ∈ groupingTuples s cs R, ∀ y ∈ groupingTuples s cs R,
      Frequencies.keyOf x = Frequencies.keyOf y → x = y := fun x hx y hy h =>
    Frequencies.keyOf_inj (ne_nil_of_mem_groupingTuples R hne hx)
      (ne_nil_of_mem_groupingTuples R hne hy) h
  have hlen : ((groupingTuples s cs R).map Frequencies.keyOf).length < UInt64.size := by
    simp only [List.length_map, groupingTuples, UInt64.size]
    exact lt_of_le_of_lt (List.length_filter_le _ _) hR
  refine ⟨_, foldl_observe_key index R js, UInt64.toNat_ofNat_of_lt' hR, ?_, ?_⟩
  · rw [Frequencies.distinct, filterMap_groupingKey R hcells, Tally.size_ofKeys,
      card_toFinset_map_of_injOn hinj]
  · rw [Frequencies.unique, filterMap_groupingKey R hcells, Tally.singles_ofKeys _ hlen]
    exact onceCount_map_of_injOn hinj

/-- Every cell is counted in exactly one class. -/
lemma TypeCounts.total_foldl_observe (vs : List Value) (t : TypeCounts) :
    (vs.foldl TypeCounts.observe t).total = t.total + UInt64.ofNat vs.length := by
  induction vs generalizing t with
  | nil => simp
  | cons v rest ih =>
    rw [List.foldl_cons, ih, List.length_cons, UInt64.ofNat_add]
    unfold TypeCounts.observe
    split <;> simp only [TypeCounts.total] <;> ac_rfl

/-- The classes of the cells of a column are reported as their counts and shares. -/
lemma valueFrom_dataType {c : String} (hs : a.statistic = .dataType c) (j : Nat)
    (hR : R.length < 2 ^ 64) :
    a.valueFrom (R.foldl (fun (agg : Aggregate) row => agg.observe ⟨index, row⟩ (.cell j))
      (.dataTypes {})) = classShares (R.map (cellAt · j)) := by
  rw [foldl_observe_cell]
  have hcount : ∀ k, ((R.map (cellAt · j)).countP fun v => decide (DataClass.ofValue v = k)) <
      2 ^ 64 := fun k =>
    lt_of_le_of_lt (List.countP_le_length.trans (List.length_map ..).le) hR
  have hlen : (R.map (cellAt · j)).length < 2 ^ 64 := by rw [List.length_map]; exact hR
  have hget : ∀ k, ({} : TypeCounts).get k = 0 := fun k => by cases k <;> rfl
  have hshare : ∀ k, countToFloat (UInt64.ofNat ((R.map (cellAt · j)).countP
      fun v => decide (DataClass.ofValue v = k))) = ofInt ((R.map (cellAt · j)).countP
        fun v => decide (DataClass.ofValue v = k)) := fun k => countToFloat_ofNat (hcount k)
  simp only [Analyzer.valueFrom, hs, typeDistribution, classShares,
    TypeCounts.total_foldl_observe, TypeCounts.get_foldl_observe, hget, UInt64.zero_add, hshare,
    countToFloat_ofNat hlen, show ({} : TypeCounts).total = 0 from rfl]
  by_cases hemp : R.map (cellAt · j) = []
  · simp [hemp]
  · -- some cells: the total is not zero
    have htotal : (UInt64.ofNat (R.map (cellAt · j)).length == 0) = false := by
      rw [beq_eq_false_iff_ne, ne_eq, ← UInt64.toNat_inj, UInt64.toNat_ofNat_of_lt' hlen,
        UInt64.toNat_zero, List.length_eq_zero_iff]
      exact hemp
    have hcells : (R.map (cellAt · j)).isEmpty = false := by
      rw [Bool.eq_false_iff, ne_eq, List.isEmpty_iff]
      exact hemp
    simp only [htotal, hcells, Bool.false_eq_true, if_false]

end Values

/-! ## Each exact statistic -/

section Statistics

variable {s : Schema} (hv : s.validate = .ok ()) (R : List Row) {a : Analyzer}

include hv

/-- The columns of a grouping statistic whose preconditions hold resolve, and the frequency scan
over them counts the grouping tuples. -/
lemma grouping_scan {cs : List String}
    (hpre : (if cs.isEmpty then ["at least one column is required"] else []) ++
      cs.flatMap (requireColumn s) = []) (hR : R.length < 2 ^ 64) :
    ∃ js, (Computation.frequencies cs).probe (RowView.index s.names) = .ok (.key js) ∧
      ∃ f, R.foldl (fun (agg : Aggregate) row => agg.observe ⟨RowView.index s.names, row⟩ (.key js))
        (.frequencies {}) = .frequencies f ∧ f.rows.toNat = R.length ∧
        f.distinct = (groupingTuples s cs R).toFinset.card ∧
        f.unique = onceCount (groupingTuples s cs R) := by
  obtain ⟨hempty, hcols⟩ := List.append_eq_nil_iff.mp hpre
  have hne : cs ≠ [] := by
    intro h
    simp [h] at hempty
  have hhas : ∀ c ∈ cs, s.hasColumn c = true := fun c hc =>
    hasColumn_of_requireColumn (List.flatMap_eq_nil_iff.mp hcols c hc)
  obtain ⟨js, hjs, hcells⟩ := Schema.exists_resolveColumns hv hhas
  exact ⟨js, by simp [Computation.probe, hjs], foldl_observe_grouping _ R hne hcells hR⟩

omit hv in
/-- A text whose match is read with a default of no match matches exactly when it is a text that
matches. -/
lemma getD_map_eq_any {o : Option String} (f : String → Bool) : (o.map f).getD false = o.any f := by
  cases o <;> rfl

/-- Each exact statistic whose preconditions hold resolves to a probe, and the scan of any rows
with that probe from the empty aggregate reports the statistic's definition over those rows. -/
lemma exists_probe_reference (hexact : a.statistic.Exact) (hpre : a.preconditions s = [])
    (hcompliance : ∀ subject p, a.statistic = .compliance subject p →
      ∃ P, compilePredicate (RowView.index s.names) p = .ok P)
    (hR : R.length < 2 ^ 63) :
    ∃ probe, a.descriptor.computation.probe (RowView.index s.names) = .ok probe ∧
      a.statistic.Reference s R (a.valueFrom (R.foldl
        (fun (agg : Aggregate) row => agg.observe ⟨RowView.index s.names, row⟩ probe)
        (Aggregate.empty a.descriptor.computation))) := by
  have h64 : R.length < 2 ^ 64 := by omega
  obtain ⟨statistic, filter⟩ := a
  simp only [Analyzer.preconditions] at hpre
  simp only [Analyzer.descriptor]
  -- the statistics that are not exact are excluded; each exact one is read off its own scan
  cases statistic <;> simp only [Statistic.Exact] at hexact
  case size =>
    exact ⟨.rows, rfl, valueFrom_rows _ R rfl hR⟩
  case completeness c =>
    obtain ⟨j, hj, hres⟩ := Schema.exists_resolve hv (hasColumn_of_requireColumn hpre)
    refine ⟨.present j, by simp [Statistic.computation, Computation.probe, hres], ?_⟩
    rw [Statistic.computation, Aggregate.empty, valueFrom_ratio _ R (fun r => rfl) _
      (fun row => !(cellAt row j).isNull) (fun r row => rfl) h64]
    simp only [Statistic.Reference, Schema.cell_of_indexOf? hj]
  case compliance subject p =>
    obtain ⟨P, hP⟩ := hcompliance subject p rfl
    refine ⟨.passes P, by simp [Statistic.computation, Computation.probe, hP], P, hP, ?_⟩
    rw [Statistic.computation, Aggregate.empty, valueFrom_ratio _ R (fun r => rfl) _
      (fun row => P.passes ⟨RowView.index s.names, row⟩) (fun r row => rfl) h64]
  case patternMatch c p =>
    obtain ⟨htype, hpattern⟩ := List.append_eq_nil_iff.mp hpre
    obtain ⟨j, hj, hres⟩ := Schema.exists_resolve hv (hasColumn_of_requireType htype)
    cases hre : Pattern.Regex.compile p with
    | error e => simp [hre] at hpattern
    | ok re =>
      refine ⟨.fits j re, by simp [Statistic.computation, Computation.probe, hre, hres], re, hre, ?_⟩
      rw [Statistic.computation, Aggregate.empty, valueFrom_ratio _ R (fun r => rfl) _
        (fun row => ((cellAt row j).asText?.map re.isMatch).getD false) (fun r row => rfl) h64]
      simp only [Schema.cell_of_indexOf? hj, getD_map_eq_any]
  case minimum c =>
    obtain ⟨j, hj, hres⟩ := Schema.exists_resolve hv (hasColumn_of_requireNumeric hpre)
    refine ⟨.number j, by simp [Statistic.computation, Computation.probe, hres], ?_⟩
    simp only [Statistic.Reference, Schema.cell_of_indexOf? hj]
    exact valueFrom_minimum _ R rfl j
  case maximum c =>
    obtain ⟨j, hj, hres⟩ := Schema.exists_resolve hv (hasColumn_of_requireNumeric hpre)
    refine ⟨.number j, by simp [Statistic.computation, Computation.probe, hres], ?_⟩
    simp only [Statistic.Reference, Schema.cell_of_indexOf? hj]
    exact valueFrom_maximum _ R rfl j
  case minLength c =>
    obtain ⟨j, hj, hres⟩ := Schema.exists_resolve hv (hasColumn_of_requireType hpre)
    refine ⟨.length j, by simp [Statistic.computation, Computation.probe, hres], ?_⟩
    simp only [Statistic.Reference, Schema.cell_of_indexOf? hj]
    exact valueFrom_minLength _ R rfl j
  case maxLength c =>
    obtain ⟨j, hj, hres⟩ := Schema.exists_resolve hv (hasColumn_of_requireType hpre)
    refine ⟨.length j, by simp [Statistic.computation, Computation.probe, hres], ?_⟩
    simp only [Statistic.Reference, Schema.cell_of_indexOf? hj]
    exact valueFrom_maxLength _ R rfl j
  case uniqueness cs =>
    obtain ⟨js, hprobe, f, hscan, hrows, -, hunique⟩ := grouping_scan hv R hpre h64
    refine ⟨.key js, hprobe, ?_⟩
    simp [Statistic.Reference, Statistic.computation, Aggregate.empty, hscan, Analyzer.valueFrom,
      hrows, hunique]
  case distinctness cs =>
    obtain ⟨js, hprobe, f, hscan, hrows, hdistinct, -⟩ := grouping_scan hv R hpre h64
    refine ⟨.key js, hprobe, ?_⟩
    simp [Statistic.Reference, Statistic.computation, Aggregate.empty, hscan, Analyzer.valueFrom,
      hrows, hdistinct]
  case uniqueValueRatio cs =>
    obtain ⟨js, hprobe, f, hscan, -, hdistinct, hunique⟩ := grouping_scan hv R hpre h64
    refine ⟨.key js, hprobe, ?_⟩
    simp [Statistic.Reference, Statistic.computation, Aggregate.empty, hscan, Analyzer.valueFrom,
      hdistinct, hunique]
  case countDistinct cs =>
    obtain ⟨js, hprobe, f, hscan, -, hdistinct, -⟩ := grouping_scan hv R hpre h64
    refine ⟨.key js, hprobe, ?_⟩
    simp [Statistic.Reference, Statistic.computation, Aggregate.empty, hscan, Analyzer.valueFrom,
      hdistinct]
  case dataType c =>
    obtain ⟨j, hj, hres⟩ := Schema.exists_resolve hv (hasColumn_of_requireColumn hpre)
    refine ⟨.cell j, by simp [Statistic.computation, Computation.probe, hres], ?_⟩
    simp only [Statistic.Reference, Schema.cell_of_indexOf? hj]
    exact valueFrom_dataType _ R rfl j h64

end Statistics

/-- The statistics computed exactly scan into aggregates that merge exactly. -/
lemma isExact_empty_of_exact {a : Analyzer} (h : a.statistic.Exact) :
    (Aggregate.empty a.descriptor.computation).IsExact := by
  obtain ⟨statistic, filter⟩ := a
  cases statistic <;>
    simp_all [Statistic.Exact, Analyzer.descriptor, Statistic.computation, Aggregate.empty,
      Aggregate.IsExact]

/-! ## The run of an exact analyzer -/

/-- The exact analyzers compute their definitions.  For every table built from a schema and rows,
every number of partitions and every analyzer of an exact statistic whose preconditions hold on
the schema, whose filter reads and names columns of the table, and, for compliance, whose
predicate does, the filter reads as some predicate and the run of the analyzer alone reports a
metric whose value is the statistic's definition over the rows that predicate passes. -/
theorem runAnalysis_exact_metric {s : Schema} {rows : List Row} {T : Table}
    (hT : Table.make s rows = .ok T) (hsize : T.rows.length < 2 ^ 63) (k : Nat) (a : Analyzer)
    (hexact : a.statistic.Exact) (hpre : a.preconditions T.schema = [])
    (hfilter : ∀ f ∈ a.filter, ∃ P, compilePredicate (RowView.index T.schema.names) f = .ok P)
    (hcompliance : ∀ subject p, a.statistic = .compliance subject p →
      ∃ P, compilePredicate (RowView.index T.schema.names) p = .ok P) :
    ∃ filter v, a.filter.mapM (compilePredicate (RowView.index T.schema.names)) = .ok filter ∧
      runAnalysis (m := Id) {} none k T [a] = .ok ⟨[(a, a.metric v)]⟩ ∧
      a.statistic.Reference T.schema
        (T.rows.filter (passesFilter (RowView.index T.schema.names) filter)) v := by
  obtain ⟨hschema, -, hv⟩ := Table.make_ok hT
  subst hschema
  obtain ⟨filter, hf⟩ := exists_mapM_ok hfilter
  -- the rows the filter passes are the rows the scan folds
  have hR : (T.rows.filter (passesFilter (RowView.index T.schema.names) filter)).length < 2 ^ 63 :=
    lt_of_le_of_lt (List.length_filter_le _ _) hsize
  obtain ⟨probe, hprobe, href⟩ := exists_probe_reference hv _ hexact hpre hcompliance hR
  have hscan := scanGroup_single (k := k) hf hprobe (isExact_empty_of_exact hexact)
  refine ⟨filter, _, hf, runAnalysis_single hpre hscan, ?_⟩
  rw [scanRows_eq_foldl]
  exact href

/-- A table of one text column with a text and a null. -/
def namesTable : Table := ⟨⟨[{ name := "name", columnType := .string }]⟩, [[.text "ab"], [.null]]⟩

/-- The completeness of the column of `namesTable`, over three partitions, is its definition. -/
theorem runAnalysis_completeness_namesTable :
    ∃ filter v, (none : Option String).mapM
        (compilePredicate (RowView.index namesTable.schema.names)) = .ok filter ∧
      runAnalysis (m := Id) {} none 3 namesTable [{ statistic := .completeness "name" }] =
        .ok ⟨[({ statistic := .completeness "name" }, Analyzer.metric { statistic := .completeness "name" } v)]⟩ ∧
      (Statistic.completeness "name").Reference namesTable.schema
        (namesTable.rows.filter (passesFilter (RowView.index namesTable.schema.names) filter)) v :=
  runAnalysis_exact_metric
    (show Table.make namesTable.schema namesTable.rows = .ok namesTable from rfl) (by decide) 3
    { statistic := .completeness "name" } trivial rfl (by simp) (by simp)

end DataQuality
