import Mathlib
import DataQuality.Proofs.Scan.Merge
import DataQuality.Proofs.Double.Exact

/-!
# Aggregates form a commutative monoid

The aggregates of one computation merge as a commutative monoid whose unit is the empty aggregate
of the computation.  Counters add as 64-bit words, tallies add key by key, distinct-count sketches
take the greater of each pair of registers, and quantile sketches do both; all of these laws hold
exactly.  The least and the greatest of doubles do not depend on the order of the operands once
the two zeros are taken for one (`Decimal.unsignZero_minNum_comm`), and the sums of doubles of
moments and co-moments are commutative outright, with positive zero as their unit up to the sign
of a zero, and associative when the sums along both ways are exact (`Decimal.unsignZero_add_assoc`).

Aggregates are compared as the library compares them: every double by its value, the two zeros
being one (`Aggregate.unsignZeros`).  The aggregates of a computation are those of the kind of its
empty aggregate with the representation invariants of that kind (`Aggregate.Conforms`): a sketch
with the accuracy, or the precision and register count, of the empty one, tallies in ascending
order of key.  Two aggregates that do not merge are told apart by their kinds, or are sketches
that do not fit together (`Aggregate.merge?_eq_none_iff`).
-/

namespace DataQuality

open Decimal

/-! ## Counters and tallies -/

namespace RatioCount

lemma merge_comm (a b : RatioCount) : a.merge b = b.merge a := by
  simp [merge, UInt64.add_comm]

lemma merge_assoc (a b c : RatioCount) : (a.merge b).merge c = a.merge (b.merge c) := by
  simp [merge, UInt64.add_assoc]

@[simp]
lemma empty_merge (a : RatioCount) : ({} : RatioCount).merge a = a := by
  simp [merge]

end RatioCount

namespace TypeCounts

lemma merge_comm (a b : TypeCounts) : a.merge b = b.merge a := by
  simp [merge, UInt64.add_comm]

lemma merge_assoc (a b c : TypeCounts) : (a.merge b).merge c = a.merge (b.merge c) := by
  simp [merge, UInt64.add_assoc]

@[simp]
lemma empty_merge (a : TypeCounts) : ({} : TypeCounts).merge a = a := by
  simp [merge]

end TypeCounts

namespace Frequencies

variable {a b c : Frequencies}

lemma merge_comm (ha : Tally.Ascending a.counts.entries) (hb : Tally.Ascending b.counts.entries) :
    a.merge b = b.merge a := by
  simp [merge, UInt64.add_comm, Tally.merge_comm ha hb]

lemma merge_assoc (ha : Tally.Ascending a.counts.entries) (hb : Tally.Ascending b.counts.entries)
    (hc : Tally.Ascending c.counts.entries) : (a.merge b).merge c = a.merge (b.merge c) := by
  simp [merge, UInt64.add_assoc, Tally.merge_assoc ha hb hc]

lemma empty_merge (ha : Tally.Ascending a.counts.entries) : ({} : Frequencies).merge a = a := by
  simp [merge, Tally.empty_merge ha]

end Frequencies

/-! ## Bounds -/

namespace QuantileSketch

/-- Combining optional bounds by an associative choice is associative. -/
lemma combine_assoc {f : Float → Float → Float} (hf : ∀ a b c, f (f a b) c = f a (f b c))
    (a b c : Option Float) : combine f (combine f a b) c = combine f a (combine f b c) := by
  cases a <;> cases b <;> cases c <;> simp [combine, hf]

/-- Combining optional bounds by a choice that does not depend on the order of its operands, up to
the sign of a zero, does not either. -/
lemma map_unsignZero_combine_comm {f : Float → Float → Float}
    (hf : ∀ a b, unsignZero (f a b) = unsignZero (f b a)) (a b : Option Float) :
    (combine f a b).map unsignZero = (combine f b a).map unsignZero := by
  cases a <;> cases b <;> simp [combine, hf]

/-- An absent bound gives way on the left. -/
@[simp]
lemma combine_none_left (f : Float → Float → Float) (b : Option Float) : combine f none b = b := by
  cases b <;> rfl

end QuantileSketch

namespace Extrema

open QuantileSketch

/-- The extremes as the library compares them: each bound with its zero made positive. -/
def unsignZeros (e : Extrema) : Extrema := ⟨e.count, e.min.map unsignZero, e.max.map unsignZero⟩

lemma unsignZeros_merge_comm (a b : Extrema) : (a.merge b).unsignZeros = (b.merge a).unsignZeros := by
  simp only [unsignZeros, merge, UInt64.add_comm a.count,
    map_unsignZero_combine_comm unsignZero_minNum_comm a.min,
    map_unsignZero_combine_comm unsignZero_maxNum_comm a.max]

lemma merge_assoc (a b c : Extrema) : (a.merge b).merge c = a.merge (b.merge c) := by
  simp only [merge, UInt64.add_assoc, combine_assoc minNum_assoc, combine_assoc maxNum_assoc]

@[simp]
lemma empty_merge (a : Extrema) : ({} : Extrema).merge a = a := by
  simp [merge]

@[simp]
lemma merge_empty (a : Extrema) : a.merge {} = a := by
  simp [merge]

end Extrema

/-! ## Sketches -/

namespace QuantileSketch

/-- A sketch as the library compares it: its least and greatest numbers with their zeros made
positive. -/
def unsignZeros (s : QuantileSketch) : QuantileSketch :=
  { s with min := s.min.map unsignZero, max := s.max.map unsignZero }

variable {s t u : QuantileSketch}

/-- Sketches of one accuracy merge. -/
lemma merge?_of_accuracy (h : s.accuracy = t.accuracy) :
    s.merge? t = some { s with
      positive := s.positive.merge t.positive
      negative := s.negative.merge t.negative
      zeroCount := s.zeroCount + t.zeroCount
      count := s.count + t.count
      min := combine minNum s.min t.min
      max := combine maxNum s.max t.max } := by
  simp [merge?, compatible, h]

lemma unsignZeros_merge?_comm (hs : Tally.Ascending s.positive.entries ∧ Tally.Ascending s.negative.entries)
    (ht : Tally.Ascending t.positive.entries ∧ Tally.Ascending t.negative.entries)
    (h : s.accuracy = t.accuracy) :
    (s.merge? t).map unsignZeros = (t.merge? s).map unsignZeros := by
  rw [merge?_of_accuracy h, merge?_of_accuracy h.symm]
  obtain ⟨acc, pos, neg, zeros, count, lo, hi⟩ := s
  obtain ⟨acc', pos', neg', zeros', count', lo', hi'⟩ := t
  dsimp only at h hs ht ⊢
  subst h
  simp only [Option.map_some, unsignZeros, Tally.merge_comm hs.1 ht.1, Tally.merge_comm hs.2 ht.2,
    UInt64.add_comm zeros, UInt64.add_comm count, map_unsignZero_combine_comm unsignZero_minNum_comm lo,
    map_unsignZero_combine_comm unsignZero_maxNum_comm hi]

lemma merge?_assoc (hs : Tally.Ascending s.positive.entries ∧ Tally.Ascending s.negative.entries)
    (ht : Tally.Ascending t.positive.entries ∧ Tally.Ascending t.negative.entries)
    (hu : Tally.Ascending u.positive.entries ∧ Tally.Ascending u.negative.entries)
    (hst : s.accuracy = t.accuracy) (htu : t.accuracy = u.accuracy) :
    (s.merge? t).bind (·.merge? u) = (t.merge? u).bind s.merge? := by
  -- the merged sketches keep the common accuracy, so every merge on both sides goes through
  simp only [merge?_of_accuracy, hst, htu, Option.bind_some, Tally.merge_assoc hs.1 ht.1 hu.1,
    Tally.merge_assoc hs.2 ht.2 hu.2, UInt64.add_assoc, combine_assoc minNum_assoc,
    combine_assoc maxNum_assoc]

lemma empty_merge? (hs : Tally.Ascending s.positive.entries ∧ Tally.Ascending s.negative.entries)
    (h : s.accuracy = a) : (empty a).merge? s = some s := by
  rw [merge?_of_accuracy h.symm]
  obtain ⟨acc, pos, neg, zeros, count, lo, hi⟩ := s
  dsimp only at h hs
  subst h
  simp [empty, Tally.empty_merge hs.1, Tally.empty_merge hs.2]

end QuantileSketch

namespace DistinctSketch

variable {s t u : DistinctSketch}

lemma max_comm_uInt8 (a b : UInt8) : max a b = max b a := by
  apply UInt8.toNat.inj
  simp only [max, UInt8.le_iff_toNat_le]
  split_ifs <;> omega

/-- Sketches of one precision and size merge. -/
lemma merge?_of_shape (hp : s.precision = t.precision) (hsize : s.registers.size = t.registers.size) :
    s.merge? t = some ⟨s.precision, Array.zipWith max s.registers t.registers⟩ := by
  simp [merge?, hp, hsize]

lemma merge?_comm (hp : s.precision = t.precision) (hsize : s.registers.size = t.registers.size) :
    s.merge? t = t.merge? s := by
  rw [merge?_of_shape hp hsize, merge?_of_shape hp.symm hsize.symm, hp]
  congr 2
  ext j hj hj'
  · simp [Nat.min_comm]
  · simp [max_comm_uInt8]

lemma merge?_assoc (hp : s.precision = t.precision) (hsize : s.registers.size = t.registers.size)
    (hp' : t.precision = u.precision) (hsize' : t.registers.size = u.registers.size) :
    (s.merge? t).bind (·.merge? u) = (t.merge? u).bind s.merge? := by
  rw [merge?_of_shape hp hsize, merge?_of_shape hp' hsize', Option.bind_some, Option.bind_some,
    merge?_of_shape (s := ⟨s.precision, Array.zipWith max s.registers t.registers⟩) (hp.trans hp')
      (by simp [hsize, hsize']),
    merge?_of_shape (t := ⟨t.precision, Array.zipWith max t.registers u.registers⟩) hp
      (by simp [hsize, hsize'])]
  congr 2
  ext j hj hj'
  · simp [hsize, hsize']
  · simp [max_assoc_uInt8]

lemma empty_merge? (hp : s.precision = (empty p).precision)
    (hsize : s.registers.size = (empty p).registers.size) : (empty p).merge? s = some s := by
  rw [merge?_comm hp.symm hsize.symm]
  exact merge?_empty hp hsize

end DistinctSketch

/-! ## Sums of doubles -/

namespace Moments

/-- Moments as the library compares them: each sum with its zero made positive. -/
def unsignZeros (m : Moments) : Moments := ⟨m.count, unsignZero m.sum, unsignZero m.sumSquares⟩

/-- Two sets of moments add exactly either way. -/
def AddsExactly (a b c : Moments) : Prop :=
  Decimal.AddsExactly a.sum b.sum c.sum ∧ Decimal.AddsExactly a.sumSquares b.sumSquares c.sumSquares

lemma merge_comm (a b : Moments) : a.merge b = b.merge a := by
  simp only [merge, UInt64.add_comm a.count, float_add_comm a.sum, float_add_comm a.sumSquares]

lemma unsignZeros_merge_assoc {a b c : Moments} (h : AddsExactly a b c) :
    ((a.merge b).merge c).unsignZeros = (a.merge (b.merge c)).unsignZeros := by
  simp only [unsignZeros, merge, UInt64.add_assoc, unsignZero_add_assoc h.1, unsignZero_add_assoc h.2]

lemma unsignZeros_merge_empty (a : Moments) : (a.merge {}).unsignZeros = a.unsignZeros := by
  simp only [unsignZeros, merge, UInt64.add_zero]
  rw [unsignZero_add_zero, unsignZero_add_zero]

lemma unsignZeros_empty_merge (a : Moments) : (({} : Moments).merge a).unsignZeros = a.unsignZeros := by
  rw [merge_comm, unsignZeros_merge_empty]

end Moments

namespace CoMoments

/-- Co-moments as the library compares them: each sum with its zero made positive. -/
def unsignZeros (c : CoMoments) : CoMoments :=
  ⟨c.count, unsignZero c.sumX, unsignZero c.sumY, unsignZero c.sumXY, unsignZero c.sumXX,
    unsignZero c.sumYY⟩

/-- Two sets of co-moments add exactly either way. -/
def AddsExactly (a b c : CoMoments) : Prop :=
  Decimal.AddsExactly a.sumX b.sumX c.sumX ∧ Decimal.AddsExactly a.sumY b.sumY c.sumY ∧
    Decimal.AddsExactly a.sumXY b.sumXY c.sumXY ∧ Decimal.AddsExactly a.sumXX b.sumXX c.sumXX ∧
    Decimal.AddsExactly a.sumYY b.sumYY c.sumYY

lemma merge_comm (a b : CoMoments) : a.merge b = b.merge a := by
  simp only [merge, UInt64.add_comm a.count, float_add_comm a.sumX, float_add_comm a.sumY,
    float_add_comm a.sumXY, float_add_comm a.sumXX, float_add_comm a.sumYY]

lemma unsignZeros_merge_assoc {a b c : CoMoments} (h : AddsExactly a b c) :
    ((a.merge b).merge c).unsignZeros = (a.merge (b.merge c)).unsignZeros := by
  obtain ⟨hx, hy, hxy, hxx, hyy⟩ := h
  simp only [unsignZeros, merge, UInt64.add_assoc, unsignZero_add_assoc hx, unsignZero_add_assoc hy,
    unsignZero_add_assoc hxy, unsignZero_add_assoc hxx, unsignZero_add_assoc hyy]

lemma unsignZeros_merge_empty (a : CoMoments) : (a.merge {}).unsignZeros = a.unsignZeros := by
  simp only [unsignZeros, merge, UInt64.add_zero]
  rw [unsignZero_add_zero, unsignZero_add_zero, unsignZero_add_zero, unsignZero_add_zero,
    unsignZero_add_zero]

lemma unsignZeros_empty_merge (a : CoMoments) :
    (({} : CoMoments).merge a).unsignZeros = a.unsignZeros := by
  rw [merge_comm, unsignZeros_merge_empty]

end CoMoments

namespace Aggregate

/-! ## Aggregates -/

/-- An aggregate as the library compares it: every double with its zero made positive. -/
def unsignZeros : Aggregate → Aggregate
  | moments m => moments m.unsignZeros
  | extrema e => extrema e.unsignZeros
  | correlation c => correlation c.unsignZeros
  | quantiles s => quantiles s.unsignZeros
  | a => a

/-- Three aggregates whose sums of doubles add exactly either way; there is nothing to add
exactly in the other kinds. -/
def SumsExact : Aggregate → Aggregate → Aggregate → Prop
  | moments a, moments b, moments c => a.AddsExactly b c
  | correlation a, correlation b, correlation c => a.AddsExactly b c
  | _, _, _ => True

/-- Two aggregates that do not merge: quantile sketches whose accuracies differ in some bit,
distinct-count sketches of another precision or register count, or aggregates of two kinds. -/
def Misfit : Aggregate → Aggregate → Prop
  | quantiles s, quantiles t => s.accuracy.toBits ≠ t.accuracy.toBits
  | distinct s, distinct t => s.precision ≠ t.precision ∨ s.registers.size ≠ t.registers.size
  | a, b => a.kind ≠ b.kind

variable {k x y z : Aggregate}

/-- The partial merge is refused exactly for aggregates that misfit. -/
lemma merge?_eq_none_iff (x y : Aggregate) : merge? x y = none ↔ Misfit x y := by
  cases x <;> cases y <;> simp [merge?, Misfit, kind, QuantileSketch.merge?, QuantileSketch.compatible,
    DistinctSketch.merge?, or_iff_not_imp_left]

/-- Aggregates of one kind merge into one of that kind. -/
lemma merge?_conforms (hx : Conforms k x) (hy : Conforms k y) :
    ∃ w, merge? x y = some w ∧ Conforms k w := by
  cases k <;> cases x <;> simp only [Conforms] at hx <;> cases y <;> simp only [Conforms] at hy
  case quantiles.quantiles.quantiles =>
    simp only [merge?, QuantileSketch.merge?_of_accuracy (hx.1.trans hy.1.symm), Option.map_eq_map,
      Option.map_some, Option.some.injEq, exists_eq_left', Conforms]
    exact ⟨hx.1, Tally.ascending_merge hx.2.1 hy.2.1, Tally.ascending_merge hx.2.2 hy.2.2⟩
  case distinct.distinct.distinct =>
    simp only [merge?, DistinctSketch.merge?_of_shape (hx.1.trans hy.1.symm) (hx.2.trans hy.2.symm),
      Option.map_eq_map, Option.map_some, Option.some.injEq, exists_eq_left', Conforms]
    simp [hx.1, hx.2, hy.2]
  case frequencies.frequencies.frequencies => exact ⟨_, rfl, Tally.ascending_merge hx hy⟩
  all_goals exact ⟨_, rfl, trivial⟩

lemma unsignZeros_merge?_comm (hx : Conforms k x) (hy : Conforms k y) :
    (merge? x y).map unsignZeros = (merge? y x).map unsignZeros := by
  cases k <;> cases x <;> simp only [Conforms] at hx <;> cases y <;> simp only [Conforms] at hy
  case count.count.count => simp [merge?, UInt64.add_comm]
  case ratio.ratio.ratio => simp [merge?, RatioCount.merge_comm]
  case moments.moments.moments => simp [merge?, Moments.merge_comm]
  case extrema.extrema.extrema a b => simp [merge?, unsignZeros, Extrema.unsignZeros_merge_comm a b]
  case correlation.correlation.correlation => simp [merge?, CoMoments.merge_comm]
  case quantiles.quantiles.quantiles =>
    -- wrapping a sketch commutes with making its zeros positive
    have hwrap : unsignZeros ∘ quantiles = quantiles ∘ QuantileSketch.unsignZeros := rfl
    have h := congrArg (Option.map quantiles) (QuantileSketch.unsignZeros_merge?_comm
      ⟨hx.2.1, hx.2.2⟩ ⟨hy.2.1, hy.2.2⟩ (hx.1.trans hy.1.symm))
    simpa only [merge?, Option.map_eq_map, Option.map_map, hwrap] using h
  case distinct.distinct.distinct =>
    simp [merge?, DistinctSketch.merge?_comm (hx.1.trans hy.1.symm) (hx.2.trans hy.2.symm)]
  case frequencies.frequencies.frequencies => simp [merge?, Frequencies.merge_comm hx hy]
  case dataTypes.dataTypes.dataTypes => simp [merge?, TypeCounts.merge_comm]

/-- Wrapping values as aggregates commutes with merging them into a third, for a kind whose
aggregates merge as their values do. -/
lemma bind_map_merge?_right {α : Type} {g : α → Aggregate} {m : α → α → Option α}
    (hg : ∀ a b, merge? (g a) (g b) = g <$> m a b) (o : Option α) (c : α) :
    (g <$> o).bind (merge? · (g c)) = g <$> o.bind (m · c) := by
  cases o <;> simp [hg]

lemma bind_map_merge?_left {α : Type} {g : α → Aggregate} {m : α → α → Option α}
    (hg : ∀ a b, merge? (g a) (g b) = g <$> m a b) (o : Option α) (a : α) :
    (g <$> o).bind (merge? (g a)) = g <$> o.bind (m a) := by
  cases o <;> simp [hg]

lemma unsignZeros_merge?_assoc (hx : Conforms k x) (hy : Conforms k y) (hz : Conforms k z)
    (h : SumsExact x y z) :
    ((merge? x y).bind (merge? · z)).map unsignZeros =
      ((merge? y z).bind (merge? x)).map unsignZeros := by
  cases k <;> cases x <;> simp only [Conforms] at hx <;> cases y <;> simp only [Conforms] at hy <;>
    cases z <;> simp only [Conforms] at hz
  case count.count.count.count => simp [merge?, UInt64.add_assoc]
  case ratio.ratio.ratio.ratio => simp [merge?, RatioCount.merge_assoc]
  case moments.moments.moments.moments =>
    simp [merge?, unsignZeros, Moments.unsignZeros_merge_assoc h]
  case extrema.extrema.extrema.extrema => simp [merge?, Extrema.merge_assoc]
  case correlation.correlation.correlation.correlation =>
    simp [merge?, unsignZeros, CoMoments.unsignZeros_merge_assoc h]
  case quantiles.quantiles.quantiles.quantiles =>
    have hq : ∀ a b, merge? (quantiles a) (quantiles b) = quantiles <$> a.merge? b := fun _ _ => rfl
    rw [hq, hq, bind_map_merge?_right hq, bind_map_merge?_left hq, QuantileSketch.merge?_assoc
      ⟨hx.2.1, hx.2.2⟩ ⟨hy.2.1, hy.2.2⟩ ⟨hz.2.1, hz.2.2⟩ (hx.1.trans hy.1.symm) (hy.1.trans hz.1.symm)]
  case distinct.distinct.distinct.distinct =>
    have hd : ∀ a b, merge? (distinct a) (distinct b) = distinct <$> a.merge? b := fun _ _ => rfl
    rw [hd, hd, bind_map_merge?_right hd, bind_map_merge?_left hd, DistinctSketch.merge?_assoc
      (hx.1.trans hy.1.symm) (hx.2.trans hy.2.symm) (hy.1.trans hz.1.symm) (hy.2.trans hz.2.symm)]
  case frequencies.frequencies.frequencies.frequencies =>
    simp [merge?, Frequencies.merge_assoc hx hy hz]
  case dataTypes.dataTypes.dataTypes.dataTypes => simp [merge?, TypeCounts.merge_assoc]

/-- The empty aggregate of a computation is a left unit of merging. -/
lemma unsignZeros_empty_merge? {c : Computation} (hx : Conforms (empty c) x) :
    (merge? (empty c) x).map unsignZeros = some x.unsignZeros := by
  cases c <;> cases x <;> simp only [Conforms, empty] at hx ⊢
  case rowCount.count => simp [merge?]
  case nonNullCount.ratio | predicateCount.ratio | patternCount.ratio => simp [merge?]
  case moments.moments => simp [merge?, unsignZeros, Moments.unsignZeros_empty_merge]
  case extrema.extrema | lengthExtrema.extrema => simp [merge?]
  case correlation.correlation => simp [merge?, unsignZeros, CoMoments.unsignZeros_empty_merge]
  case quantiles.quantiles _ accuracy s =>
    simp [merge?, QuantileSketch.empty_merge? (a := accuracy.value) ⟨hx.2.1, hx.2.2⟩ hx.1]
  case distinctEstimate.distinct => simp [merge?, DistinctSketch.empty_merge? hx.1 hx.2]
  case frequencies.frequencies => simp [merge?, Frequencies.empty_merge hx]
  case dataTypes.dataTypes => simp [merge?]

/-- The empty aggregate of a computation is a right unit of merging. -/
lemma unsignZeros_merge?_empty {c : Computation} (hx : Conforms (empty c) x) :
    (merge? x (empty c)).map unsignZeros = some x.unsignZeros := by
  rw [unsignZeros_merge?_comm hx (conforms_empty c), unsignZeros_empty_merge? hx]

/-- Merging gives what the partial merge gives. -/
lemma merge_of_merge? {w : Aggregate} (h : merge? x y = some w) : merge x y = .ok w := by
  unfold merge
  rw [h]

lemma map_merge_of_map_merge? {f : Aggregate → Aggregate} {v : Aggregate}
    (h : (merge? x y).map f = some v) : f <$> merge x y = .ok v := by
  cases hm : merge? x y with
  | none => simp [hm] at h
  | some w =>
    simp only [hm, Option.map_some, Option.some.injEq] at h
    unfold merge
    rw [hm, ← h]
    rfl

/-- A merge that goes through passes its result on. -/
lemma merge_bind_of_merge? {w : Aggregate} (h : merge? x y = some w)
    (g : Aggregate → Except MergeError Aggregate) : merge x y >>= g = g w := by
  rw [merge_of_merge? h]
  rfl

/-- Merging is refused exactly for aggregates that misfit. -/
lemma merge_error_iff (x y : Aggregate) : (∃ e, merge x y = .error e) ↔ Misfit x y := by
  rw [← merge?_eq_none_iff]
  unfold merge
  cases merge? x y <;> simp

/-- The aggregates of a computation form a commutative monoid under merging, with the empty
aggregate of the computation as unit, as the library compares aggregates (every double by its
value, the two zeros taken for one).  Merges of aggregates of the computation go through and stay
among them; the sums of doubles of moments and co-moments are associative when they add exactly.
Two aggregates of any kinds fail to merge exactly when they misfit. -/
theorem merge_commMonoid_of_conforms (c : Computation) {x y z : Aggregate}
    (hx : Conforms (empty c) x) (hy : Conforms (empty c) y) (hz : Conforms (empty c) z) :
    (∃ w, merge x y = .ok w ∧ Conforms (empty c) w) ∧
    unsignZeros <$> merge x y = unsignZeros <$> merge y x ∧
    (SumsExact x y z →
      unsignZeros <$> (merge x y >>= (merge · z)) = unsignZeros <$> (merge y z >>= merge x)) ∧
    unsignZeros <$> merge (empty c) x = .ok x.unsignZeros ∧
    unsignZeros <$> merge x (empty c) = .ok x.unsignZeros ∧
    ∀ a b : Aggregate, (∃ e, merge a b = .error e) ↔ Misfit a b := by
  obtain ⟨xy, hxy, hxy'⟩ := merge?_conforms hx hy
  obtain ⟨yx, hyx, -⟩ := merge?_conforms hy hx
  obtain ⟨yz, hyz, hyz'⟩ := merge?_conforms hy hz
  obtain ⟨r, hr, -⟩ := merge?_conforms hx hyz'
  have hr' : (merge? x yz).map unsignZeros = some r.unsignZeros := by rw [hr]; rfl
  refine ⟨⟨xy, merge_of_merge? hxy, hxy'⟩, ?comm, ?assoc,
    map_merge_of_map_merge? (unsignZeros_empty_merge? hx),
    map_merge_of_map_merge? (unsignZeros_merge?_empty hx), merge_error_iff⟩
  case comm =>
    have hyx' : (merge? y x).map unsignZeros = some yx.unsignZeros := by rw [hyx]; rfl
    rw [map_merge_of_map_merge? ((unsignZeros_merge?_comm hx hy).trans hyx'),
      map_merge_of_map_merge? hyx']
  case assoc =>
    intro hs
    -- both ways the first merge goes through; what is left is the merge of its result
    have h := unsignZeros_merge?_assoc hx hy hz hs
    rw [hxy, hyz, Option.bind_some, Option.bind_some] at h
    rw [merge_bind_of_merge? hxy, merge_bind_of_merge? hyz, map_merge_of_map_merge? (h.trans hr'),
      map_merge_of_map_merge? hr']

/-- Row counts merge the same either way. -/
theorem count_merge_comm_witness :
    Conforms (empty .rowCount) (count 1) ∧ Conforms (empty .rowCount) (count 2) ∧
      Conforms (empty .rowCount) (count 3) ∧
      unsignZeros <$> merge (count 1) (count 2) = unsignZeros <$> merge (count 2) (count 1) :=
  ⟨trivial, trivial, trivial,
    (merge_commMonoid_of_conforms .rowCount (x := count 1) (y := count 2) (z := count 3)
      trivial trivial trivial).2.1⟩

end Aggregate

end DataQuality
