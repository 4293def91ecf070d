import Mathlib
import DataQuality.Proofs.Analysis.Monoid
import DataQuality.Proofs.Run.WholeScan

/-!
# Scans are monoid homomorphisms

A scan folds the rows of a table into the empty aggregate of a computation.  Scanning two runs of
rows one after the other and merging the two aggregates gives the scan of both runs: the scan is a
homomorphism from lists of rows under concatenation to aggregates under merging.  For every kind
that merges exactly this is `Aggregate.merge?_scanRows`; for moments and co-moments it holds when
the running sums of the doubles read add exactly (`Moments.merge_foldl_observe`), since a running
sum from positive zero that never rounds is the exact sum of what it added.

Two kinds forget more of the rows than their order.  A distinct-count sketch raises registers to
the greater of two ranks, which is idempotent as well as commutative, so it depends only on the
set of texts inserted (`DistinctSketch.foldl_insert_eq_of_mem_iff`).  A quantile sketch drops the
numbers that are not finite and is commutative in the others, so it depends only on the multiset
of the finite numbers inserted, the two zeros taken for one
(`QuantileSketch.unsignZeros_foldl_insert_eq_of_perm`).
-/

namespace DataQuality

open Decimal

/-! ## Folds over a set -/

section Fold

variable {α β : Type} {f : β → α → β}

/-- A fold by steps that commute and repeat to no effect is the fold over the list without its
repetitions. -/
lemma foldl_dedup [DecidableEq α] (hcomm : ∀ z x y, f (f z x) y = f (f z y) x)
    (hidem : ∀ z x, f (f z x) x = f z x) (l : List α) (z : β) :
    l.foldl f z = l.dedup.foldl f z := by
  induction l generalizing z with
  | nil => rfl
  | cons x l ih =>
    by_cases hx : x ∈ l
    · -- a later copy of `x` can be brought to the front, where the two copies act as one
      have hperm := List.perm_cons_erase hx
      have hswap : ∀ w, l.foldl f w = (x :: l.erase x).foldl f w :=
        hperm.foldl_eq' fun a _ b _ w => hcomm w a b
      rw [List.dedup_cons_of_mem hx, ← ih, List.foldl_cons, hswap, hswap, List.foldl_cons,
        List.foldl_cons, hidem]
    · rw [List.dedup_cons_of_notMem hx, List.foldl_cons, List.foldl_cons, ih]

/-- A fold by steps that commute and repeat to no effect depends only on the set of the items
folded. -/
lemma foldl_eq_of_mem_iff [DecidableEq α] (hcomm : ∀ z x y, f (f z x) y = f (f z y) x)
    (hidem : ∀ z x, f (f z x) x = f z x) {l₁ l₂ : List α} (h : ∀ x, x ∈ l₁ ↔ x ∈ l₂) (z : β) :
    l₁.foldl f z = l₂.foldl f z := by
  have hperm : l₁.dedup.Perm l₂.dedup :=
    (List.perm_ext_iff_of_nodup (List.nodup_dedup l₁) (List.nodup_dedup l₂)).mpr
      fun x => by simp only [List.mem_dedup, h]
  rw [foldl_dedup hcomm hidem l₁, foldl_dedup hcomm hidem l₂]
  exact hperm.foldl_eq' (fun a _ b _ w => hcomm w a b) z

end Fold

/-! ## What a probe reads -/

section Reads

variable (index : List (String × Nat)) (R : List Row)

/-- The numbers a probe of a column reads from rows: the cells that read as numbers. -/
def numbersAt (i : Nat) (rows : List Row) : List Float :=
  rows.filterMap fun row => (cellAt row i).asFloat?

/-- The finite numbers among them, the ones a quantile sketch keeps. -/
def finiteAt (i : Nat) (rows : List Row) : List Float :=
  (numbersAt i rows).filter fun x => !(x.isNaN || x.isInf)

/-- The numbers of two cells of a row, when both read as numbers. -/
def readPair (i j : Nat) (row : Row) : Option (Float × Float) :=
  match (cellAt row i).asFloat?, (cellAt row j).asFloat? with
  | some x, some y => some (x, y)
  | _, _ => none

/-- The pairs of numbers a probe of two columns reads. -/
def pairsAt (i j : Nat) (rows : List Row) : List (Float × Float) := rows.filterMap (readPair i j)

/-- The rendering of a cell of a row, when it is not null. -/
def readRendered (i : Nat) (row : Row) : Option String :=
  if (cellAt row i).isNull then none else some (cellAt row i).render

/-- The texts a distinct-count probe reads. -/
def renderedAt (i : Nat) (rows : List Row) : List String := rows.filterMap (readRendered i)

/-- A scan without a filter observes every row, in order. -/
lemma scanRows_none (probe : Probe) (a : Aggregate) :
    scanRows index none probe a R = R.foldl (fun (agg : Aggregate) row => agg.observe ⟨index, row⟩ probe) a := by
  rw [scanRows_eq_foldl, (List.filter_eq_self (p := passesFilter index none)).mpr fun _ _ => rfl]

/-- A probe that reads an optional value of each row steps the aggregates of one kind by the
values read, skipping the rows where it reads none. -/
lemma foldl_observe_reads {σ γ : Type} (wrap : σ → Aggregate) (step : σ → γ → σ) (probe : Probe)
    (read : Row → Option γ)
    (hprobe : ∀ s row, (wrap s).observe ⟨index, row⟩ probe = wrap (((read row).map (step s)).getD s))
    (s : σ) :
    R.foldl (fun (agg : Aggregate) row => agg.observe ⟨index, row⟩ probe) (wrap s) =
      wrap ((R.filterMap read).foldl step s) := by
  rw [List.foldl_filterMap]
  refine List.foldl_hom wrap fun s row => ?_
  rw [hprobe]
  cases read row <;> rfl

lemma scanRows_moments_numbersAt (i : Nat) (m : Moments) :
    scanRows index none (.number i) (.moments m) R =
      .moments ((numbersAt i R).foldl Moments.observe m) := by
  rw [scanRows_none]
  refine foldl_observe_reads index R Aggregate.moments Moments.observe _ _ (fun m row => ?_) m
  cases h : (cellAt row i).asFloat? <;> simp [Aggregate.observe, h]

lemma scanRows_quantiles_numbersAt (i : Nat) (s : QuantileSketch) :
    scanRows index none (.number i) (.quantiles s) R =
      .quantiles ((numbersAt i R).foldl QuantileSketch.insert s) := by
  rw [scanRows_none]
  refine foldl_observe_reads index R Aggregate.quantiles QuantileSketch.insert _ _ (fun s row => ?_) s
  cases h : (cellAt row i).asFloat? <;> simp [Aggregate.observe, h]

lemma scanRows_correlation_pairsAt (i j : Nat) (c : CoMoments) :
    scanRows index none (.pair i j) (.correlation c) R =
      .correlation ((pairsAt i j R).foldl (fun (c : CoMoments) p => c.observe p.1 p.2) c) := by
  rw [scanRows_none]
  refine foldl_observe_reads index R Aggregate.correlation
    (fun (c : CoMoments) (p : Float × Float) => c.observe p.1 p.2)
    (.pair i j) (readPair i j) (fun c row => ?_) c
  cases hx : (cellAt row i).asFloat? <;> cases hy : (cellAt row j).asFloat? <;>
    simp [Aggregate.observe, readPair, hx, hy]

lemma scanRows_distinct_renderedAt (i : Nat) (s : DistinctSketch) :
    scanRows index none (.rendered i) (.distinct s) R =
      .distinct ((renderedAt i R).foldl DistinctSketch.insert s) := by
  rw [scanRows_none]
  refine foldl_observe_reads index R Aggregate.distinct DistinctSketch.insert (.rendered i)
    (readRendered i) (fun s row => ?_) s
  by_cases h : (cellAt row i).isNull <;> simp [Aggregate.observe, readRendered, h]

@[simp]
lemma numbersAt_append (i : Nat) (xs ys : List Row) :
    numbersAt i (xs ++ ys) = numbersAt i xs ++ numbersAt i ys :=
  List.filterMap_append

@[simp]
lemma pairsAt_append (i j : Nat) (xs ys : List Row) :
    pairsAt i j (xs ++ ys) = pairsAt i j xs ++ pairsAt i j ys :=
  List.filterMap_append

end Reads

/-! ## Sums of doubles that add exactly -/

namespace Moments

/-- The running sums of moments over some numbers never round: the numbers and their squares have
exact prefix sums. -/
def SumsExact (vs : List Float) : Prop :=
  PrefixSumsExact vs ∧ PrefixSumsExact (vs.map fun x => x * x)

/-- The moments after some numbers: the count, the sum and the sum of squares, each added in turn. -/
lemma foldl_observe (vs : List Float) (m : Moments) :
    vs.foldl observe m = ⟨m.count + UInt64.ofNat vs.length, vs.foldl (· + ·) m.sum,
      (vs.map fun x => x * x).foldl (· + ·) m.sumSquares⟩ := by
  induction vs generalizing m with
  | nil => simp
  | cons v vs ih =>
    rw [List.foldl_cons, ih]
    simp [observe, UInt64.ofNat_add, UInt64.add_assoc, UInt64.add_comm 1]

/-- The moments of two runs of numbers merge into the moments of both when the running sums add
exactly, over both runs and over the second. -/
lemma merge_foldl_observe {vs ws : List Float} (h : SumsExact (vs ++ ws)) (h' : SumsExact ws) :
    (vs.foldl observe {}).merge (ws.foldl observe {}) = (vs ++ ws).foldl observe {} := by
  have hsq := h.2
  rw [List.map_append] at hsq
  simp only [foldl_observe, merge, List.length_append, UInt64.ofNat_add, List.map_append,
    foldl_add_append h.1 h'.1, foldl_add_append hsq h'.2]
  simp

end Moments

namespace CoMoments

/-- The running sums of co-moments over some pairs never round: the five sequences they add have
exact prefix sums. -/
def SumsExact (ps : List (Float × Float)) : Prop :=
  PrefixSumsExact (ps.map (·.1)) ∧ PrefixSumsExact (ps.map (·.2)) ∧
    PrefixSumsExact (ps.map fun p => p.1 * p.2) ∧ PrefixSumsExact (ps.map fun p => p.1 * p.1) ∧
    PrefixSumsExact (ps.map fun p => p.2 * p.2)

/-- The co-moments after some pairs: the count and the five sums, each added in turn. -/
lemma foldl_observe (ps : List (Float × Float)) (c : CoMoments) :
    ps.foldl (fun (c : CoMoments) p => c.observe p.1 p.2) c =
      ⟨c.count + UInt64.ofNat ps.length, (ps.map (·.1)).foldl (· + ·) c.sumX,
        (ps.map (·.2)).foldl (· + ·) c.sumY, (ps.map fun p => p.1 * p.2).foldl (· + ·) c.sumXY,
        (ps.map fun p => p.1 * p.1).foldl (· + ·) c.sumXX,
        (ps.map fun p => p.2 * p.2).foldl (· + ·) c.sumYY⟩ := by
  induction ps generalizing c with
  | nil => simp
  | cons p ps ih =>
    rw [List.foldl_cons, ih]
    simp [observe, UInt64.ofNat_add, UInt64.add_assoc, UInt64.add_comm 1]

/-- The co-moments of two runs of pairs merge into the co-moments of both when the running sums
add exactly, over both runs and over the second. -/
lemma merge_foldl_observe {ps qs : List (Float × Float)} (h : SumsExact (ps ++ qs))
    (h' : SumsExact qs) :
    (ps.foldl (fun (c : CoMoments) p => c.observe p.1 p.2) {}).merge (qs.foldl (fun (c : CoMoments) p => c.observe p.1 p.2) {}) =
      (ps ++ qs).foldl (fun (c : CoMoments) p => c.observe p.1 p.2) {} := by
  obtain ⟨hx, hy, hxy, hxx, hyy⟩ := h
  simp only [List.map_append] at hx hy hxy hxx hyy
  simp only [foldl_observe, merge, List.length_append, UInt64.ofNat_add, List.map_append,
    foldl_add_append hx h'.1, foldl_add_append hy h'.2.1, foldl_add_append hxy h'.2.2.1,
    foldl_add_append hxx h'.2.2.2.1, foldl_add_append hyy h'.2.2.2.2]
  simp

end CoMoments

/-! ## Sketches that forget the order of what they read -/

namespace DistinctSketch

lemma max_max_self_uInt8 (a b : UInt8) : max (max a b) b = max a b := by
  apply UInt8.toNat.inj
  simp only [max, UInt8.le_iff_toNat_le]
  split_ifs <;> omega

/-- Inserting a text twice raises its register once. -/
lemma insert_insert_self (s : DistinctSketch) (t : String) : (s.insert t).insert t = s.insert t := by
  rw [insert_eq_modify s t, insert_eq_modify]
  dsimp only
  generalize slot s.precision t = a
  congr 1
  ext k hk hk'
  · simp
  · simp only [Array.getElem_modify]
    split_ifs <;> simp [max_max_self_uInt8]

/-- A sketch depends only on the set of the texts inserted into it. -/
lemma foldl_insert_eq_of_mem_iff {ts us : List String} (h : ∀ t, t ∈ ts ↔ t ∈ us)
    (s : DistinctSketch) : ts.foldl insert s = us.foldl insert s :=
  foldl_eq_of_mem_iff insert_comm insert_insert_self h s

end DistinctSketch

namespace QuantileSketch

/-- A bound folded from a number, with its zero made positive, is the bound folded from the number
with its zero made positive, by a choice that does not see the sign of a zero. -/
lemma unsignZero_bound {f : Float → Float → Float}
    (hf : ∀ a b, unsignZero (f a b) = f (unsignZero a) (unsignZero b)) (o : Option Float)
    (x : Float) :
    unsignZero ((o.map (f · x)).getD x) =
      ((o.map unsignZero).map (f · (unsignZero x))).getD (unsignZero x) := by
  cases o <;> simp [hf]

/-- Inserting a number and then making the zeros positive is inserting the number with its zero
made positive into the sketch with its zeros made positive: the tests of a number and its bucket
do not see the sign of a zero. -/
lemma unsignZeros_insert (s : QuantileSketch) (x : Float) :
    (s.insert x).unsignZeros = s.unsignZeros.insert (unsignZero x) := by
  unfold insert
  simp only [isNaN_unsignZero, isInf_unsignZero, gt_iff_lt, lt_unsignZero_iff, unsignZero_lt_iff]
  split_ifs with hskip hpos hneg
  · rfl
  · simp [unsignZeros, bucket, gamma, unsignZero_of_pos hpos, unsignZero_bound unsignZero_minNum,
      unsignZero_bound unsignZero_maxNum]
  · simp [unsignZeros, bucket, gamma, unsignZero_of_neg hneg, unsignZero_bound unsignZero_minNum,
      unsignZero_bound unsignZero_maxNum]
  · simp [unsignZeros, unsignZero_bound unsignZero_minNum, unsignZero_bound unsignZero_maxNum]

lemma unsignZeros_foldl_insert (vs : List Float) (s : QuantileSketch) :
    (vs.foldl insert s).unsignZeros = (vs.map unsignZero).foldl insert s.unsignZeros := by
  induction vs generalizing s with
  | nil => rfl
  | cons x vs ih => rw [List.foldl_cons, ih, unsignZeros_insert, List.map_cons, List.foldl_cons]

/-- Numbers that are not finite change nothing. -/
lemma foldl_insert_filter (vs : List Float) (s : QuantileSketch) :
    vs.foldl insert s = (vs.filter fun x => !(x.isNaN || x.isInf)).foldl insert s := by
  induction vs generalizing s with
  | nil => rfl
  | cons x vs ih =>
    by_cases hx : (x.isNaN || x.isInf) = true
    · have hskip : s.insert x = s := by rw [insert, if_pos hx]
      rw [List.foldl_cons, hskip, ih, List.filter_cons_of_neg (by rw [hx]; decide)]
    · rw [List.foldl_cons, ih, List.filter_cons_of_pos (by rw [Bool.eq_false_iff.mpr hx]; rfl),
        List.foldl_cons]

/-- A sketch with ascending buckets, as the library compares it, depends only on the multiset of
the finite numbers inserted into it, the two zeros taken for one. -/
lemma unsignZeros_foldl_insert_eq_of_perm {s : QuantileSketch}
    (hs : Tally.Ascending s.positive.entries ∧ Tally.Ascending s.negative.entries)
    {vs ws : List Float}
    (h : ((vs.filter fun x => !(x.isNaN || x.isInf)).map unsignZero).Perm
      ((ws.filter fun x => !(x.isNaN || x.isInf)).map unsignZero)) :
    (vs.foldl insert s).unsignZeros = (ws.foldl insert s).unsignZeros := by
  rw [foldl_insert_filter vs, foldl_insert_filter ws, unsignZeros_foldl_insert,
    unsignZeros_foldl_insert]
  -- numbers with positive zeros commute, from sketches with ascending buckets
  refine foldl_eq_of_perm
    (P := fun t : QuantileSketch => Tally.Ascending t.positive.entries ∧ Tally.Ascending t.negative.entries)
    (Q := fun x => unsignZero x = x)
    (fun t x ht _ => ⟨ascending_insert_positive x ht.1, ascending_insert_negative x ht.2⟩)
    (fun t x y ht hx hy => insert_comm ht.1 ht.2 ?_ ?_) h ?_ hs
  · rw [← hx, ← hy]
    exact minNum_unsignZero_comm x y
  · rw [← hx, ← hy]
    exact maxNum_unsignZero_comm x y
  · intro x hx
    obtain ⟨y, -, rfl⟩ := List.mem_map.mp hx
    exact unsignZero_unsignZero y

end QuantileSketch

/-! ## Scans of two runs of rows -/

namespace Aggregate

variable {index : List (String × Nat)}

/-- For the kinds that merge exactly, merging the scans of two runs of rows is scanning both. -/
lemma merge_scanRows_of_isExact {c : Computation} (hk : IsExact (empty c)) (p : Probe)
    (xs ys : List Row) :
    merge (scanRows index none p (empty c) xs) (scanRows index none p (empty c) ys) =
      .ok (scanRows index none p (empty c) (xs ++ ys)) := by
  apply merge_of_merge?
  rw [merge?_scanRows hk (conforms_scanRows (conforms_empty c) index none p xs), scanRows_append]

/-- So it is for moments, when their running sums add exactly. -/
lemma merge_scanRows_moments (i : Nat) {xs ys : List Row}
    (h : Moments.SumsExact (numbersAt i (xs ++ ys))) (h' : Moments.SumsExact (numbersAt i ys)) :
    merge (scanRows index none (.number i) (moments {}) xs)
        (scanRows index none (.number i) (moments {}) ys) =
      .ok (scanRows index none (.number i) (moments {}) (xs ++ ys)) := by
  rw [numbersAt_append] at h
  simp only [scanRows_moments_numbersAt, numbersAt_append]
  exact merge_of_merge? (congrArg (some ∘ moments) (Moments.merge_foldl_observe h h'))

/-- And for co-moments. -/
lemma merge_scanRows_correlation (i j : Nat) {xs ys : List Row}
    (h : CoMoments.SumsExact (pairsAt i j (xs ++ ys))) (h' : CoMoments.SumsExact (pairsAt i j ys)) :
    merge (scanRows index none (.pair i j) (correlation {}) xs)
        (scanRows index none (.pair i j) (correlation {}) ys) =
      .ok (scanRows index none (.pair i j) (correlation {}) (xs ++ ys)) := by
  rw [pairsAt_append] at h
  simp only [scanRows_correlation_pairsAt, pairsAt_append]
  exact merge_of_merge? (congrArg (some ∘ correlation) (CoMoments.merge_foldl_observe h h'))

end Aggregate

/-- The running sums the scan of some rows keeps add exactly: for a probe of numbers those of
moments, for a probe of pairs those of co-moments.  The other probes feed no sums of doubles. -/
def SumsExactAlong : Probe → List Row → Prop
  | .number i, rows => Moments.SumsExact (numbersAt i rows)
  | .pair i j, rows => CoMoments.SumsExact (pairsAt i j rows)
  | _, _ => True

open Aggregate in
/-- Scanning rows is a homomorphism from runs of rows under concatenation to the aggregates of a
computation under merging: the merge of the scans of two runs is the scan of both, exactly for the
kinds that merge exactly and for moments and co-moments when their running sums add exactly.  A
distinct-count scan depends only on the set of texts it reads, and a quantile scan, as the library
compares sketches, only on the multiset of the finite numbers it reads, the two zeros taken for
one. -/
theorem scanRows_merge_hom {index : List (String × Nat)} {c : Computation} {p : Probe}
    (hp : c.probe index = .ok p) (xs ys : List Row) :
    (IsExact (empty c) ∨ SumsExactAlong p (xs ++ ys) ∧ SumsExactAlong p ys →
      merge (scanRows index none p (empty c) xs) (scanRows index none p (empty c) ys) =
        .ok (scanRows index none p (empty c) (xs ++ ys))) ∧
    (∀ column i, c = .distinctEstimate column → p = .rendered i →
      (∀ t, t ∈ renderedAt i xs ↔ t ∈ renderedAt i ys) →
      scanRows index none p (empty c) xs = scanRows index none p (empty c) ys) ∧
    (∀ column accuracy i, c = .quantiles column accuracy → p = .number i →
      ((finiteAt i xs).map unsignZero).Perm ((finiteAt i ys).map unsignZero) →
      (scanRows index none p (empty c) xs).unsignZeros =
        (scanRows index none p (empty c) ys).unsignZeros) := by
  refine ⟨?hom, ?distinct, ?quantiles⟩
  case hom =>
    rintro (hk | ⟨hs, hs'⟩)
    · exact merge_scanRows_of_isExact hk p xs ys
    by_cases hk : IsExact (empty c)
    · exact merge_scanRows_of_isExact hk p xs ys
    -- what is left are the sums of doubles: moments read numbers, co-moments pairs
    cases c <;> simp only [IsExact, empty, not_true_eq_false] at hk
    case moments column =>
      obtain ⟨i, -, rfl⟩ := probe_moments hp
      exact merge_scanRows_moments i hs hs'
    case correlation first second =>
      obtain ⟨i, j, -, -, rfl⟩ := probe_correlation hp
      exact merge_scanRows_correlation i j hs hs'
  case distinct =>
    rintro column i rfl rfl hset
    simp only [empty, scanRows_distinct_renderedAt, DistinctSketch.foldl_insert_eq_of_mem_iff hset]
  case quantiles =>
    rintro column accuracy i rfl rfl hperm
    simp only [empty, scanRows_quantiles_numbersAt, unsignZeros]
    rw [QuantileSketch.unsignZeros_foldl_insert_eq_of_perm ⟨Tally.ascending_empty, Tally.ascending_empty⟩
      hperm]

/-- Counting rows over two runs, one run at a time. -/
theorem rowCount_scanRows_merge_witness :
    Computation.rowCount.probe [] = .ok .rows ∧
      Aggregate.merge (scanRows [] none .rows (Aggregate.empty .rowCount) [[]])
          (scanRows [] none .rows (Aggregate.empty .rowCount) [[], []]) =
        .ok (scanRows [] none .rows (Aggregate.empty .rowCount) ([[]] ++ [[], []])) :=
  ⟨rfl, (scanRows_merge_hom rfl [[]] [[], []]).1 (Or.inl trivial)⟩

end DataQuality
