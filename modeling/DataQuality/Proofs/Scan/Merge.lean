import DataQuality.Scan.Engine
import DataQuality.Proofs.Tally
import DataQuality.Proofs.Double.Order
import DataQuality.Proofs.Partitions

/-!
# Scans merge like the rows they read

A scan folds rows into an aggregate one observation at a time, and the scans of the partitions
of a table are merged in partition order.  For every kind of aggregate whose merge is exact
(counts, ratios, extremes, quantile sketches, distinct-count sketches, frequency tables and type
counts), one observation commutes with a merge from the left (`Aggregate.merge?_observe`), so
merging a scan into an aggregate is scanning the same rows from that aggregate
(`Aggregate.merge?_scanRows`).  Merging the scans of consecutive chunks is therefore the scan of
their concatenation, and the merged scan of a partitioned table is the scan of its rows, however
they were cut (`Aggregate.mergeAll_scans`).

The aggregates a scan can produce keep the representation invariants of their kind
(`Aggregate.Conforms`): tallies in ascending order of key, sketches with the accuracy or the
register count of the empty sketch they grew from.  The sums of moments and co-moments are
doubles whose addition rounds; they are left to the modules on exact arithmetic.
-/

namespace DataQuality

open Decimal

/-! ## Sketches -/

namespace QuantileSketch

/-- Inserting a number keeps the accuracy of a sketch. -/
@[simp]
lemma accuracy_insert (s : QuantileSketch) (x : Float) : (s.insert x).accuracy = s.accuracy := by
  unfold insert
  split_ifs <;> rfl

/-- Inserting a number keeps the positive buckets of a sketch ascending. -/
@[simp]
lemma ascending_insert_positive {s : QuantileSketch} (x : Float)
    (h : Tally.Ascending s.positive.entries) : Tally.Ascending (s.insert x).positive.entries := by
  unfold insert
  split_ifs
  · exact h
  · exact Tally.ascending_add _ _ h
  all_goals exact h

/-- Inserting a number keeps the negative buckets of a sketch ascending. -/
@[simp]
lemma ascending_insert_negative {s : QuantileSketch} (x : Float)
    (h : Tally.Ascending s.negative.entries) : Tally.Ascending (s.insert x).negative.entries := by
  unfold insert
  split_ifs
  · exact h
  · exact h
  · exact Tally.ascending_add _ _ h
  · exact h

lemma compatible_insert (e s : QuantileSketch) (x : Float) :
    e.compatible (s.insert x) = e.compatible s := by
  simp only [compatible, accuracy_insert]

/-- Folding one more number into the right side of a combination of bounds is folding it into
the combination, for an associative choice. -/
lemma combine_step {f : Float → Float → Float} (hf : ∀ a b c, f (f a b) c = f a (f b c))
    (e a : Option Float) (x : Float) :
    combine f e (some ((a.map (f · x)).getD x)) = some (((combine f e a).map (f · x)).getD x) := by
  cases e <;> cases a <;> simp [combine, hf]

/-- An absent bound gives way on the right. -/
@[simp]
lemma combine_none (f : Float → Float → Float) (e : Option Float) : combine f e none = e := by
  cases e <;> rfl

/-- Inserting a number into the right side of a merge is inserting it into the merge. -/
lemma merge?_insert {e s : QuantileSketch} (hep : Tally.Ascending e.positive.entries)
    (hen : Tally.Ascending e.negative.entries) (hsp : Tally.Ascending s.positive.entries)
    (hsn : Tally.Ascending s.negative.entries) (x : Float) :
    e.merge? (s.insert x) = (e.merge? s).map (·.insert x) := by
  by_cases h : e.compatible s
  · -- sketches that merge have one accuracy, so they put a number into the same bucket
    have hacc : e.accuracy = s.accuracy := eq_of_toBits_eq (by simpa [compatible] using h)
    simp only [merge?, compatible_insert, h, if_true, Option.map_some]
    unfold insert
    dsimp only
    split_ifs with hskip hpos hneg
    · rfl
    · simp only [bucket, gamma, hacc, Tally.merge_add hep hsp, combine_step minNum_assoc,
        combine_step maxNum_assoc, UInt64.add_assoc]
    · simp only [bucket, gamma, hacc, Tally.merge_add hen hsn, combine_step minNum_assoc,
        combine_step maxNum_assoc, UInt64.add_assoc]
    · simp only [combine_step minNum_assoc, combine_step maxNum_assoc, UInt64.add_assoc]
  · simp [merge?, compatible_insert, h]

/-- The empty sketch of the same accuracy is a right unit of merging. -/
lemma merge?_empty {s : QuantileSketch} (h : s.accuracy = a) : s.merge? (empty a) = some s := by
  subst h
  simp [merge?, compatible, empty, Tally.merge_empty]

end QuantileSketch

namespace DistinctSketch

/-- The register a text lands in under a precision, and the rank it offers there. -/
def slot (precision : UInt8) (text : String) : Nat × UInt8 :=
  let p := precision.toNat
  let h := hash text
  ((h >>> (64 - p).toUInt64).toNat,
    UInt8.ofNat (Nat.min (leadingZeros (h <<< p.toUInt64) + 1) (64 - p + 1)))

/-- Inserting a text raises its register to the rank it offers. -/
lemma insert_eq_modify (s : DistinctSketch) (t : String) :
    s.insert t =
      ⟨s.precision, s.registers.modify (slot s.precision t).1 (max · (slot s.precision t).2)⟩ := by
  unfold insert
  dsimp only
  split
  · next r hr =>
    congr 1
    apply Array.ext_getElem?
    intro j
    simp only [slot, Array.set!_eq_setIfInBounds, Array.getElem?_setIfInBounds,
      Array.getElem?_modify]
    split_ifs with hj hlt
    · subst hj
      rw [hr]
      rfl
    · exact absurd (Array.getElem?_eq_some_iff.mp hr).1 hlt
    · rfl
  · next hr =>
    -- a register past the end is not there to raise
    have hout := Array.getElem?_eq_none_iff.mp hr
    rw [Array.modify, Array.modifyM, dif_neg (by simp only [slot]; omega)]
    rfl

/-- Inserting a text keeps the precision of a sketch. -/
@[simp]
lemma precision_insert (s : DistinctSketch) (t : String) : (s.insert t).precision = s.precision := by
  rw [insert_eq_modify]

/-- Inserting a text keeps the number of registers of a sketch. -/
@[simp]
lemma size_registers_insert (s : DistinctSketch) (t : String) :
    (s.insert t).registers.size = s.registers.size := by
  rw [insert_eq_modify, Array.size_modify]

lemma max_assoc_uInt8 (a b c : UInt8) : max (max a b) c = max a (max b c) := by
  apply UInt8.toNat.inj
  simp only [max, UInt8.le_iff_toNat_le]
  split_ifs <;> omega

/-- Raising one register of the right side of a union raises it in the union. -/
lemma zipWith_modify (e s : Array UInt8) (i : Nat) (v : UInt8) :
    Array.zipWith max e (s.modify i (max · v)) = (Array.zipWith max e s).modify i (max · v) := by
  ext j hj hj'
  · simp
  · simp only [Array.getElem_zipWith, Array.getElem_modify]
    split_ifs <;> simp [max_assoc_uInt8]

/-- Inserting a text into the right side of a union is inserting it into the union. -/
lemma merge?_insert (e s : DistinctSketch) (t : String) :
    e.merge? (s.insert t) = (e.merge? s).map (·.insert t) := by
  have hp := precision_insert s t
  have hsize := size_registers_insert s t
  by_cases h : e.precision = s.precision ∧ e.registers.size = s.registers.size
  · simp only [merge?, hp, hsize, h, beq_self_eq_true, Bool.and_self, if_true, Option.map_some]
    rw [insert_eq_modify, insert_eq_modify, zipWith_modify]
  · have hne : (e.precision == s.precision && e.registers.size == s.registers.size) = false := by
      simpa using h
    simp only [merge?, hp, hsize, hne, Bool.false_eq_true, if_false, Option.map_none]

lemma max_zero_uInt8 (a : UInt8) : max a 0 = a := by
  apply UInt8.toNat.inj
  simp only [max, UInt8.le_iff_toNat_le]
  split_ifs with h
  · simp only [UInt8.reduceToNat] at h ⊢
    omega
  · rfl

/-- The registers of a sketch merged with zero registers are its registers. -/
lemma zipWith_max_replicate_zero (r : Array UInt8) :
    Array.zipWith max r (Array.replicate r.size 0) = r := by
  ext j hj hj'
  · simp
  · simp only [Array.getElem_zipWith, Array.getElem_replicate, max_zero_uInt8]

/-- An empty sketch of the same shape is a right unit of the union. -/
lemma merge?_empty {s : DistinctSketch} (hp : s.precision = (empty p).precision)
    (hsize : s.registers.size = (empty p).registers.size) : s.merge? (empty p) = some s := by
  have hreg : (empty p).registers = Array.replicate s.registers.size 0 := by
    rw [hsize]
    simp [empty]
  simp only [merge?, hp, hsize, beq_self_eq_true, Bool.and_self, if_true]
  rw [hreg, zipWith_max_replicate_zero, ← hp]

end DistinctSketch

/-! ## Counters -/

namespace RatioCount

lemma merge_observe (e r : RatioCount) (b : Bool) : e.merge (r.observe b) = (e.merge r).observe b := by
  cases b <;> simp [merge, observe, UInt64.add_assoc]

end RatioCount

namespace Extrema

lemma merge_observe (e a : Extrema) (x : Float) : e.merge (a.observe x) = (e.merge a).observe x := by
  simp only [merge, observe, QuantileSketch.combine_step minNum_assoc,
    QuantileSketch.combine_step maxNum_assoc, UInt64.add_assoc]

end Extrema

namespace Frequencies

@[simp]
lemma ascending_observe {f : Frequencies} (key : Option String) (h : Tally.Ascending f.counts.entries) :
    Tally.Ascending (f.observe key).counts.entries := by
  cases key with
  | none => exact h
  | some k => exact Tally.ascending_add k 1 h

lemma merge_observe {e f : Frequencies} (he : Tally.Ascending e.counts.entries)
    (hf : Tally.Ascending f.counts.entries) (key : Option String) :
    e.merge (f.observe key) = (e.merge f).observe key := by
  cases key with
  | none => simp [merge, observe, UInt64.add_assoc]
  | some k => simp [merge, observe, UInt64.add_assoc, Tally.merge_add he hf]

end Frequencies

namespace TypeCounts

lemma merge_observe (e t : TypeCounts) (v : Value) : e.merge (t.observe v) = (e.merge t).observe v := by
  unfold observe
  split <;> simp [merge, UInt64.add_assoc]

end TypeCounts

namespace Aggregate

/-! ## Aggregates of one kind -/

/-- An aggregate of the kind of `e`, with the representation invariants of that kind: a quantile
sketch of the accuracy of `e` with ascending buckets, a distinct-count sketch of the precision and
register count of `e`, a frequency table with ascending counts. -/
def Conforms : Aggregate → Aggregate → Prop
  | count _, count _ => True
  | ratio _, ratio _ => True
  | moments _, moments _ => True
  | extrema _, extrema _ => True
  | correlation _, correlation _ => True
  | quantiles s, quantiles t =>
    t.accuracy = s.accuracy ∧ Tally.Ascending t.positive.entries ∧ Tally.Ascending t.negative.entries
  | distinct s, distinct t => t.precision = s.precision ∧ t.registers.size = s.registers.size
  | frequencies _, frequencies f => Tally.Ascending f.counts.entries
  | dataTypes _, dataTypes _ => True
  | _, _ => False

/-- Whether merging aggregates of this kind is exact: every kind but the sums of doubles. -/
def IsExact : Aggregate → Prop
  | moments _ | correlation _ => False
  | _ => True

/-- The empty aggregate of a computation conforms to itself. -/
lemma conforms_empty (c : Computation) : Conforms (empty c) (empty c) := by
  cases c <;> simp [empty, Conforms, QuantileSketch.empty, Tally.Ascending]

/-- An observation keeps an aggregate conforming to its kind. -/
lemma conforms_observe {k a : Aggregate} (h : Conforms k a) (view : RowView) (p : Probe) :
    Conforms k (a.observe view p) := by
  -- the arms of the observation, then the kinds each arm can conform to
  unfold observe
  dsimp only
  split <;> (try split) <;> cases k <;> simp_all [Conforms]

/-- The empty aggregate is a right unit of merging, for the aggregates of its kind that merge
exactly. -/
lemma merge?_empty {c : Computation} {a : Aggregate} (hk : IsExact (empty c))
    (h : Conforms (empty c) a) : merge? a (empty c) = some a := by
  cases c <;> cases a <;> simp only [empty, Conforms, IsExact] at h hk ⊢
  case rowCount.count => simp [merge?]
  case nonNullCount.ratio | predicateCount.ratio | patternCount.ratio => simp [merge?, RatioCount.merge]
  case extrema.extrema | lengthExtrema.extrema => simp [merge?, Extrema.merge]
  case quantiles.quantiles _ accuracy s => simp [merge?, QuantileSketch.merge?_empty (a := accuracy.value) h.1]
  case distinctEstimate.distinct => simp [merge?, DistinctSketch.merge?_empty h.1 h.2]
  case frequencies.frequencies => simp [merge?, Frequencies.merge, Tally.merge_empty]
  case dataTypes.dataTypes => simp [merge?, TypeCounts.merge]

/-- One observation commutes with a merge from the left, for aggregates of a kind that merges
exactly. -/
lemma merge?_observe {k e a : Aggregate} (hk : IsExact k) (he : Conforms k e) (ha : Conforms k a)
    (view : RowView) (p : Probe) :
    merge? e (a.observe view p) = (merge? e a).map (·.observe view p) := by
  -- aggregates of one kind, and for each kind the probes that step it
  cases k <;> simp only [IsExact] at hk
  all_goals cases e <;> simp only [Conforms] at he
  all_goals cases a <;> simp only [Conforms] at ha
  case count.count.count =>
    cases p <;> simp [observe, merge?, UInt64.add_assoc]
  case ratio.ratio.ratio =>
    cases p <;> simp [observe, merge?, RatioCount.merge_observe]
  case extrema.extrema.extrema =>
    cases p
    case number i => cases hx : (cellAt view.row i).asFloat? <;> simp [observe, merge?, hx, Extrema.merge_observe]
    case length i => cases hx : (cellAt view.row i).asText? <;> simp [observe, merge?, hx, Extrema.merge_observe]
    all_goals simp [observe, merge?]
  case quantiles.quantiles.quantiles =>
    cases p
    case number i =>
      cases hx : (cellAt view.row i).asFloat? <;>
        simp [observe, merge?, hx, Function.comp_def, QuantileSketch.merge?_insert he.2.1 he.2.2 ha.2.1 ha.2.2]
    all_goals simp [observe, merge?, Function.comp_def]
  case distinct.distinct.distinct =>
    cases p
    case rendered i =>
      by_cases hnull : (cellAt view.row i).isNull <;> simp [observe, merge?, hnull, Function.comp_def, DistinctSketch.merge?_insert]
    all_goals simp [observe, merge?, Function.comp_def]
  case frequencies.frequencies.frequencies =>
    cases p
    case key is =>
      by_cases hnull : ∃ c ∈ is, (cellAt view.row c).isNull <;>
        simp [observe, merge?, hnull, Frequencies.merge_observe he ha]
    all_goals simp [observe, merge?]
  case dataTypes.dataTypes.dataTypes =>
    cases p <;> simp [observe, merge?, TypeCounts.merge_observe]
/-! ## Scans -/

/-- A scan that starts from an aggregate conforming to a kind ends in one. -/
lemma conforms_scanRows {k a : Aggregate} (h : Conforms k a) (index : List (String × Nat))
    (filter : Option Predicate) (probe : Probe) (rows : List Row) :
    Conforms k (scanRows index filter probe a rows) := by
  induction rows generalizing a with
  | nil => exact h
  | cons row rows ih =>
    apply ih
    dsimp only
    split_ifs
    · exact conforms_observe h _ probe
    · exact h

/-- Scanning two runs of rows is scanning the second from where the first ended. -/
lemma scanRows_append (index : List (String × Nat)) (filter : Option Predicate) (probe : Probe)
    (a : Aggregate) (xs ys : List Row) :
    scanRows index filter probe a (xs ++ ys) =
      scanRows index filter probe (scanRows index filter probe a xs) ys :=
  List.foldl_append

/-- Merging a scan into an aggregate from the left is merging its start and scanning on. -/
lemma merge?_scanRows_of {k e a : Aggregate} (hk : IsExact k) (he : Conforms k e)
    (ha : Conforms k a) (index : List (String × Nat)) (filter : Option Predicate) (probe : Probe)
    (rows : List Row) :
    merge? e (scanRows index filter probe a rows) =
      (merge? e a).map (scanRows index filter probe · rows) := by
  induction rows generalizing a with
  | nil => simp [scanRows]
  | cons row rows ih =>
    -- one row is one step of both scans, then the rest is the same scan
    have hstep : Conforms k (if (filter.map (·.passes ⟨index, row⟩)).getD true then
        a.observe ⟨index, row⟩ probe else a) := by
      split_ifs
      · exact conforms_observe ha _ probe
      · exact ha
    have hmerge := ih hstep
    simp only [scanRows, List.foldl_cons] at hmerge ⊢
    rw [hmerge]
    split_ifs
    · rw [merge?_observe hk he ha, Option.map_map]
      rfl
    · rfl

/-- Merging the scan of some rows from the empty aggregate into an aggregate is scanning the rows
from that aggregate. -/
lemma merge?_scanRows {c : Computation} {e : Aggregate} (hk : IsExact (empty c))
    (he : Conforms (empty c) e) (index : List (String × Nat)) (filter : Option Predicate)
    (probe : Probe) (rows : List Row) :
    merge? e (scanRows index filter probe (empty c) rows) = some (scanRows index filter probe e rows) := by
  rw [merge?_scanRows_of hk he (conforms_empty c), merge?_empty hk he, Option.map_some]

/-- Merging the scans of consecutive chunks, in order, into an aggregate is scanning all their rows
from that aggregate. -/
lemma mergeAll_scans {c : Computation} {e : Aggregate} (hk : IsExact (empty c))
    (he : Conforms (empty c) e) (index : List (String × Nat)) (filter : Option Predicate)
    (probe : Probe) (parts : List (List Row)) :
    mergeAll e (parts.map (scanRows index filter probe (empty c))) =
      .ok (scanRows index filter probe e parts.flatten) := by
  induction parts generalizing e with
  | nil => rfl
  | cons part parts ih =>
    have hmerge : merge e (scanRows index filter probe (empty c) part) =
        .ok (scanRows index filter probe e part) := by
      simp only [merge, merge?_scanRows hk he]
    rw [mergeAll, List.map_cons, List.foldlM_cons, hmerge, List.flatten_cons, scanRows_append]
    exact ih (conforms_scanRows he index filter probe part)

end Aggregate

end DataQuality
