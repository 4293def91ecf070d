import Mathlib
import DataQuality.Proofs.Sketch.Estimate
import DataQuality.Proofs.Sketch.Summary

/-!
# Quantile estimates are within the accuracy

A sketch of accuracy `a` puts a magnitude `m` in the bucket `k` with `γ ^ (k - 1) < m ≤ γ ^ k`,
`γ = (1 + a) / (1 - a)`, and the bucket stands for `2 γ ^ k / (γ + 1) = (1 - a) γ ^ k`, within
`a · m` of every magnitude in it (`abs_exactBucketValue_sub_le`).  The estimate of the quantile `q`
is the number of the cell where the running count passes the rank `r = ⌊q (n - 1)⌋`, held
between the least and the greatest number; since cells are in the order of the values in them,
that is the cell of the value of index `r` among the values sorted ascending
(`firstPast_cells`, `firstPast_cells_sortedAt`).  Holding it between the least and the greatest
number brings it no further from that value (`abs_clampBy_sub_le`), and ranks `0` and `n - 1` give
the least and the greatest number exactly.

* `exactQuantile?_withinAccuracy`: on a sketch that summarizes values lying in their buckets,
  every estimate is `WithinAccuracy`.
* `exactQuantile?_withinAccuracy_of_unsaturated`: with the logarithms, the division and the
  ceiling of the bucket computed exactly, this holds of every sketch grown by insertions and
  merges, as long as no exact bucket goes past the 32-bit range the bucket is cast to.  Past it the
  cast saturates, every larger magnitude shares the last bucket, and the bound fails.
-/

namespace DataQuality

open Decimal

/-! ## The rank of a value in a sorted list -/

section Sorted

/-- Fewer than `i + 1` values lie below the value at index `i` of a sorted list. -/
lemma countP_lt_getElem_le {ws : List ℚ} (hs : ws.Pairwise (· ≤ ·)) :
    ∀ i (hi : i < ws.length), ws.countP (· < ws[i]) ≤ i := by
  induction ws with
  | nil => intro i hi; simp at hi
  | cons w ws ih =>
    intro i hi
    cases i with
    | zero =>
      -- nothing lies below the head
      rw [List.getElem_cons_zero, Nat.le_zero, List.countP_eq_zero]
      intro v hv
      rcases List.mem_cons.mp hv with rfl | hv
      · simp
      · simpa using List.rel_of_pairwise_cons hs hv
    | succ j =>
      have hj : j < ws.length := by simpa using hi
      have := ih (List.Pairwise.of_cons hs) j hj
      rw [List.getElem_cons_succ, List.countP_cons]
      split_ifs <;> omega

/-- At least `i + 1` values lie at or below the value at index `i` of a sorted list. -/
lemma lt_countP_le_getElem {ws : List ℚ} (hs : ws.Pairwise (· ≤ ·)) :
    ∀ i (hi : i < ws.length), i < ws.countP (· ≤ ws[i]) := by
  induction ws with
  | nil => intro i hi; simp at hi
  | cons w ws ih =>
    intro i hi
    cases i with
    | zero => simp
    | succ j =>
      have hj : j < ws.length := by simpa using hi
      have hw : w ≤ ws[j] := List.rel_of_pairwise_cons hs (List.getElem_mem hj)
      have := ih (List.Pairwise.of_cons hs) j hj
      rw [List.getElem_cons_succ, List.countP_cons, if_pos (by simpa using hw)]
      omega

/-- The value at index `i` of a list of values sorted ascending. -/
def sortedAt (vs : List ℚ) (i : Nat) : ℚ := (vs.mergeSort (· ≤ ·)).getD i 0

variable {vs : List ℚ} {i : Nat}

lemma sortedAt_eq (hi : i < vs.length) :
    ∃ hi' : i < (vs.mergeSort (· ≤ ·)).length, sortedAt vs i = (vs.mergeSort (· ≤ ·))[i] :=
  ⟨by simpa using hi, List.getD_eq_getElem _ _ _⟩

lemma sortedAt_mem (hi : i < vs.length) : sortedAt vs i ∈ vs := by
  obtain ⟨hi', h⟩ := sortedAt_eq hi
  rw [h]
  exact (List.mergeSort_perm vs _).mem_iff.mp (List.getElem_mem hi')

/-- Fewer than `i + 1` of the values lie below the one of index `i`. -/
lemma countP_lt_sortedAt_le (hi : i < vs.length) : vs.countP (· < sortedAt vs i) ≤ i := by
  obtain ⟨hi', h⟩ := sortedAt_eq hi
  rw [h, ← (List.mergeSort_perm vs _).countP_eq]
  exact countP_lt_getElem_le (List.pairwise_mergeSort' _ _) i hi'

/-- At least `i + 1` of the values lie at or below the one of index `i`. -/
lemma lt_countP_le_sortedAt (hi : i < vs.length) : i < vs.countP (· ≤ sortedAt vs i) := by
  obtain ⟨hi', h⟩ := sortedAt_eq hi
  rw [h, ← (List.mergeSort_perm vs _).countP_eq]
  exact lt_countP_le_getElem (List.pairwise_mergeSort' _ _) i hi'

/-- The first of the sorted values is the least. -/
lemma sortedAt_zero {lo : ℚ} (h : IsLeast {v | v ∈ vs} lo) : sortedAt vs 0 = lo := by
  have hi : 0 < vs.length := List.length_pos_of_mem h.1
  have hx := sortedAt_mem hi
  -- no value lies below the first, not even the least
  have hnone : ¬ lo < sortedAt vs 0 := fun hlt => by
    have hpos : 0 < vs.countP (· < sortedAt vs 0) :=
      List.countP_pos_iff.mpr ⟨lo, h.1, decide_eq_true hlt⟩
    have := countP_lt_sortedAt_le hi
    omega
  exact le_antisymm (not_lt.mp hnone) (h.2 hx)

/-- The last of the sorted values is the greatest. -/
lemma sortedAt_last {hi : ℚ} (h : IsGreatest {v | v ∈ vs} hi) :
    sortedAt vs (vs.length - 1) = hi := by
  have hn : vs.length - 1 < vs.length := by
    have := List.length_pos_of_mem h.1
    omega
  have hx := sortedAt_mem hn
  -- every value lies at or below the last, the greatest too
  have hall : vs.countP (· ≤ sortedAt vs (vs.length - 1)) = vs.length :=
    le_antisymm List.countP_le_length (by have := lt_countP_le_sortedAt hn; omega)
  have hle : hi ≤ sortedAt vs (vs.length - 1) := by
    simpa using List.countP_eq_length.mp hall hi h.1
  exact le_antisymm (h.2 hx) hle

/-- An estimate `v` of the number of rank `r` among the values `vs` within the relative accuracy
`A`: within `A` of that number, relative to its magnitude, and exactly the least or the greatest
value at the two ends.  A rank past the last index stands for the last. -/
def WithinAccuracy (A : ℚ) (vs : List ℚ) (r : Nat) (v : ℚ) : Prop :=
  |v - sortedAt vs (min r (vs.length - 1))| ≤ A * |sortedAt vs (min r (vs.length - 1))| ∧
    (r = 0 → v = sortedAt vs 0) ∧ (vs.length - 1 ≤ r → v = sortedAt vs (vs.length - 1))

variable {A v : ℚ}

lemma withinAccuracy_of_first (hA : 0 ≤ A) (hv : v = sortedAt vs 0) :
    WithinAccuracy A vs 0 v := by
  refine ⟨?_, fun _ => hv, fun h => ?_⟩
  · simp only [Nat.zero_min, hv, sub_self, abs_zero]
    positivity
  · rw [hv, show vs.length - 1 = 0 by omega]

lemma withinAccuracy_of_last {r : Nat} (hA : 0 ≤ A) (hr : vs.length - 1 ≤ r)
    (hv : v = sortedAt vs (vs.length - 1)) : WithinAccuracy A vs r v := by
  refine ⟨?_, fun h => ?_, fun _ => hv⟩
  · rw [min_eq_right hr, hv, sub_self, abs_zero]
    positivity
  · rw [hv, show vs.length - 1 = 0 by omega]

lemma withinAccuracy_of_middle {r : Nat} (h0 : r ≠ 0) (hr : r < vs.length - 1)
    (hv : |v - sortedAt vs r| ≤ A * |sortedAt vs r|) : WithinAccuracy A vs r v :=
  ⟨by rwa [min_eq_left hr.le], fun h => absurd h h0, fun h => absurd hr (not_lt.mpr h)⟩

end Sorted

/-! ## Buckets computed exactly -/

section ExactKeys

/-- An integer saturated into the range of a 32-bit index, `[-2 ^ 31, 2 ^ 31 - 1]`. -/
def clampToInt32 (k : Int) : Int := max (-2 ^ 31) (min k (2 ^ 31 - 1))

lemma clampToInt32_of_mem {k : Int} (h : k ∈ Set.Icc (-2 ^ 31) (2 ^ 31 - 1)) :
    clampToInt32 k = k := by
  rw [clampToInt32, min_eq_left h.2, max_eq_right h.1]

end ExactKeys

namespace QuantileSketch


/-! ## Walking the cells to the rank -/

section Walk

variable {vs : List ℚ} {cell : ℚ → ℚ}

/-- Values whose cell has left the list `L` are those that had left `c :: L` and those of `c`. -/
lemma countP_not_mem_cons {c : ℚ} {L : List ℚ} (hc : c ∉ L) :
    vs.countP (fun v => cell v ∉ L) =
      vs.countP (fun v => cell v ∉ c :: L) + vs.countP (fun v => cell v = c) := by
  induction vs with
  | nil => rfl
  | cons v vs ih =>
    simp only [List.countP_cons, ih]
    by_cases h₁ : cell v = c
    · simp [h₁, hc]
      omega
    · by_cases h₂ : cell v ∈ L
      · simp [h₁, h₂]
      · simp [h₁, h₂]
        omega

/-- The walk over cells in increasing order, each counting the values it holds, stops at the cell
of a value `x` when the rank `r` lies between the count of values below `x` and the count of values
up to it.  The walk is taken from any cell on, with the values of earlier cells counted in `seen`:
cells are monotone in values, so the values of earlier cells lie below `x`, and the values up to
`x` are in cells up to `x`'s. -/
lemma firstPast_cells (hcell : ∀ v ∈ vs, ∀ w ∈ vs, v ≤ w → cell v ≤ cell w)
    (hn : vs.length < 2 ^ 64) {x : ℚ} (hx : x ∈ vs) {r : Nat}
    (hlt : vs.countP (· < x) ≤ r) (hle : r < vs.countP (· ≤ x)) :
    ∀ (L : List ℚ) (seen : UInt64), L.Pairwise (· < ·) →
      (∀ v ∈ vs, cell v ∈ L ∨ ∀ c ∈ L, cell v < c) → cell x ∈ L →
      seen.toNat = vs.countP (fun v => cell v ∉ L) →
      firstPast (UInt64.ofNat r) seen (L.map fun c => (c, UInt64.ofNat (vs.countP (cell · = c)))) =
        some (cell x) := by
  intro L
  induction L with
  | nil => intro _ _ _ hxL; simp at hxL
  | cons c L ih =>
    intro seen hL hcover hxL hseen
    obtain ⟨hcL, hL'⟩ := List.pairwise_cons.mp hL
    have hc : c ∉ L := fun h => lt_irrefl c (hcL c h)
    have hsize : UInt64.size = 2 ^ 64 := rfl
    -- the running count after `c` counts the values whose cell is not in `L`, with no wrap
    have hsum : (seen + UInt64.ofNat (vs.countP (cell · = c))).toNat =
        vs.countP (fun v => cell v ∉ L) := by
      have hle' : vs.countP (fun v => cell v ∉ L) ≤ vs.length := List.countP_le_length
      have hsplit := @countP_not_mem_cons vs cell c L hc
      rw [UInt64.toNat_add, UInt64.toNat_ofNat_of_lt' (by omega), hseen]
      omega
    have hr : (UInt64.ofNat r).toNat = r := by
      have : r < vs.length := lt_of_lt_of_le hle List.countP_le_length
      exact UInt64.toNat_ofNat_of_lt' (by omega)
    simp only [List.map_cons, firstPast]
    rcases List.mem_cons.mp hxL with hxc | hxL'
    · -- at the cell of `x`, every value up to `x` has been counted
      have hpast : r < vs.countP (fun v => cell v ∉ L) := by
        refine lt_of_lt_of_le hle (List.countP_mono_left fun v hv hvx => ?_)
        have hvc : cell v ≤ c := hxc ▸ hcell v hv x hx (by simpa using hvx)
        simpa using fun hvL => absurd (hcL _ hvL) (not_lt.mpr hvc)
      have hgt : seen + UInt64.ofNat (vs.countP (cell · = c)) > UInt64.ofNat r := by
        rw [gt_iff_lt, UInt64.lt_iff_toNat_lt, hr, hsum]
        exact hpast
      rw [if_pos hgt, hxc]
    · -- before the cell of `x`, only values below `x` have been counted
      have hcx : c < cell x := hcL _ hxL'
      have hbelow : vs.countP (fun v => cell v ∉ L) ≤ r := by
        refine le_trans (List.countP_mono_left fun v hv hvL => ?_) hlt
        have hvc : cell v ≤ c := by
          rcases hcover v hv with h | h
          · rcases List.mem_cons.mp h with h | h
            · exact h.le
            · exact absurd h (by simpa using hvL)
          · exact (h c List.mem_cons_self).le
        simpa using lt_of_not_ge fun hxv =>
          absurd (hcell x hx v hv hxv) (not_le.mpr (hvc.trans_lt hcx))
      have hng : ¬ seen + UInt64.ofNat (vs.countP (cell · = c)) > UInt64.ofNat r := by
        rw [gt_iff_lt, UInt64.lt_iff_toNat_lt, hr, hsum, not_lt]
        exact hbelow
      rw [if_neg hng]
      refine ih _ hL' (fun v hv => ?_) hxL' hsum
      rcases hcover v hv with h | h
      · rcases List.mem_cons.mp h with h | h
        · exact Or.inr fun c' hc' => h ▸ hcL c' hc'
        · exact Or.inl h
      · exact Or.inr fun c' hc' => h c' (List.mem_cons_of_mem c hc')

end Walk

/-! ## Holding an estimate between the least and the greatest number -/

/-- Holding a number between bounds around `x` brings it no further from `x`. -/
lemma abs_clampBy_sub_le {c lo hi x : ℚ} (hlo : lo ≤ x) (hhi : x ≤ hi) :
    |clampBy c lo hi - x| ≤ |c - x| := by
  unfold clampBy
  split_ifs with h₁ h₂
  · rw [abs_of_nonpos (by linarith), abs_of_neg (by linarith)]
    linarith
  · rw [abs_of_nonneg (by linarith), abs_of_pos (by linarith)]
    linarith
  · exact le_rfl

/-! ## Buckets within the accuracy -/

section Buckets

variable {a : ℚ}

lemma one_lt_exactGamma (h₀ : 0 < a) (h₁ : a < 1) : 1 < exactGamma a :=
  (one_lt_div (by linarith)).mpr (by linarith)

/-- The value of bucket `k` is `(1 - a) γ ^ k`: the top of the bucket, lowered by the accuracy. -/
lemma exactBucketValue_eq (h₁ : a < 1) (k : Int) :
    exactBucketValue a k = (1 - a) * exactGamma a ^ k := by
  have h : 1 - a ≠ 0 := by linarith
  have hγ : exactGamma a + 1 = 2 / (1 - a) := by
    unfold exactGamma
    field_simp
    ring
  rw [exactBucketValue, hγ]
  field_simp

/-- A magnitude in bucket `k`, above `γ ^ (k - 1)` and at most `γ ^ k`, is within the accuracy of
the bucket's value. -/
lemma abs_exactBucketValue_sub_le (h₀ : 0 ≤ a) (h₁ : a < 1) {k : Int} {m : ℚ}
    (hlo : exactGamma a ^ (k - 1) < m) (hhi : m ≤ exactGamma a ^ k) :
    |exactBucketValue a k - m| ≤ a * m := by
  have hγ0 : exactGamma a ≠ 0 := (lt_of_lt_of_le one_pos (one_le_exactGamma h₀ h₁)).ne'
  -- the bottom of the bucket is its top shrunk by `(1 - a) / (1 + a)`
  have hbottom : exactGamma a ^ (k - 1) * (1 + a) = exactGamma a ^ k * (1 - a) := by
    rw [zpow_sub_one₀ hγ0, exactGamma]
    have : 1 - a ≠ 0 := by linarith
    have : 1 + a ≠ 0 := by linarith
    field_simp
  rw [exactBucketValue_eq h₁, abs_sub_le_iff]
  constructor
  · nlinarith [mul_lt_mul_of_pos_right hlo (by linarith : (0 : ℚ) < 1 + a)]
  · nlinarith [mul_le_mul_of_nonneg_left hhi (by linarith : (0 : ℚ) ≤ 1 - a)]

/-- Buckets are in the order of the magnitudes in them. -/
lemma le_of_buckets {γ : ℚ} (hγ : 1 < γ) {k k' : Int} {m m' : ℚ} (hlo : γ ^ (k - 1) < m)
    (hhi : m' ≤ γ ^ k') (h : m ≤ m') : k ≤ k' := by
  have hlt : γ ^ (k - 1) < γ ^ k' := hlo.trans_le (h.trans hhi)
  have := (zpow_lt_zpow_iff_right₀ hγ).mp hlt
  omega

end Buckets

/-! ## Cells of a summarized sketch -/

section Cells

variable {value : Int → ℚ} {K : ℚ → Int} {a : Float} {s : QuantileSketch} {vs : List ℚ}

/-- The number the cell of a value stands for: the value of the bucket of its magnitude, with its
sign, and zero for zero. -/
def cellValue (value : Int → ℚ) (K : ℚ → Int) (v : ℚ) : ℚ :=
  if v < 0 then -value (K (-v)) else if v = 0 then 0 else value (K v)

lemma count_map_filter (vs : List ℚ) (p : ℚ → Prop) [DecidablePred p] (f : ℚ → Int) (k : Int) :
    ((vs.filter (p ·)).map f).count k = vs.countP (fun v => p v ∧ f v = k) := by
  rw [List.count, List.countP_map, List.countP_filter]
  exact List.countP_congr fun v _ => by simp [and_comm]

/-- An entry of a tally of keys counts its key's occurrences. -/
lemma Tally.count_of_mem_ofKeys {ks : List Int} {e : Int × UInt64}
    (he : e ∈ (Tally.ofKeys ks).entries) : e.2 = UInt64.ofNat (ks.count e.1) := by
  have hl := (Tally.mem_iff_lookup (Tally.ascending_ofKeys ks)).mp he
  rw [Tally.lookup_ofKeys] at hl
  split_ifs at hl
  exact (Option.some.inj hl).symm

/-- Every counted key has an entry in the tally. -/
lemma Tally.exists_mem_ofKeys {ks : List Int} {k : Int} (hk : k ∈ ks) :
    ∃ n, (k, n) ∈ (Tally.ofKeys ks).entries :=
  ⟨_, (Tally.mem_iff_lookup (Tally.ascending_ofKeys ks)).mpr
    (by rw [Tally.lookup_ofKeys, if_pos hk])⟩

lemma cellValue_eq_zero_iff (hpos : ∀ k, 0 < value k) (v : ℚ) :
    cellValue value K v = 0 ↔ v = 0 := by
  unfold cellValue
  split_ifs with h₁ h₂
  · have := hpos (K (-v))
    exact ⟨fun h => by linarith, fun h => absurd h (ne_of_lt h₁)⟩
  · exact ⟨fun _ => h₂, fun _ => rfl⟩
  · exact ⟨fun h => absurd h (hpos (K v)).ne', fun h => absurd h h₂⟩

section Values

variable (hv : Function.Injective value) (hpos : ∀ k, 0 < value k)
include hv hpos

lemma cellValue_eq_value_iff (v : ℚ) (k : Int) :
    cellValue value K v = value k ↔ 0 < v ∧ K v = k := by
  unfold cellValue
  split_ifs with h₁ h₂
  · have := hpos (K (-v)); have := hpos k
    constructor
    · intro h; linarith
    · rintro ⟨h, -⟩; linarith
  · have := hpos k
    constructor
    · intro h; linarith
    · rintro ⟨h, -⟩; exact absurd h (by simp [h₂])
  · exact ⟨fun h => ⟨lt_of_le_of_ne (not_lt.mp h₁) (Ne.symm h₂), hv h⟩,
      fun ⟨_, h⟩ => h ▸ rfl⟩

lemma cellValue_eq_neg_value_iff (v : ℚ) (k : Int) :
    cellValue value K v = -value k ↔ v < 0 ∧ K (-v) = k := by
  unfold cellValue
  split_ifs with h₁ h₂
  · exact ⟨fun h => ⟨h₁, hv (neg_inj.mp h)⟩, fun ⟨_, h⟩ => h ▸ rfl⟩
  · have := hpos k
    constructor
    · intro h; linarith
    · rintro ⟨h, -⟩; exact absurd h h₁
  · have := hpos (K v); have := hpos k
    constructor
    · intro h; linarith
    · rintro ⟨h, -⟩; exact absurd h h₁

/-- Each cell of a summarized sketch counts the values whose cell it is. -/
lemma cells_counts (h : Summarizes K a s vs) :
    ∀ e ∈ cells value s, e.2 = UInt64.ofNat (vs.countP (cellValue value K · = e.1)) := by
  intro e he
  unfold cells at he
  simp only [List.mem_append, List.mem_map, List.mem_reverse, List.mem_cons] at he
  rcases he with ⟨⟨k, n⟩, hk, rfl⟩ | rfl | ⟨⟨k, n⟩, hk, rfl⟩
  · rw [h.negative] at hk
    rw [Tally.count_of_mem_ofKeys hk, count_map_filter]
    congr 1
    exact List.countP_congr fun v _ => by simp [cellValue_eq_neg_value_iff hv hpos]
  · dsimp only
    rw [h.zeroCount, List.count_eq_countP]
    congr 1
    exact List.countP_congr fun v _ => by simp [cellValue_eq_zero_iff hpos]
  · rw [h.positive] at hk
    rw [Tally.count_of_mem_ofKeys hk, count_map_filter]
    congr 1
    exact List.countP_congr fun v _ => by simp [cellValue_eq_value_iff hv hpos]

end Values

/-- The cell of every value is among the cells of a summarized sketch. -/
lemma cellValue_mem_cells (h : Summarizes K a s vs) {v : ℚ} (hv : v ∈ vs) :
    cellValue value K v ∈ (cells value s).map Prod.fst := by
  unfold cellValue cells
  simp only [List.map_append, List.map_cons, List.map_map, Function.comp_def, List.map_reverse,
    List.mem_append, List.mem_cons, List.mem_reverse, List.mem_map]
  split_ifs with h₁ h₂
  · obtain ⟨n, hn⟩ := @Tally.exists_mem_ofKeys ((vs.filter (· < 0)).map fun v => K (-v)) _
      (List.mem_map.mpr ⟨v, List.mem_filter.mpr ⟨hv, by simpa using h₁⟩, rfl⟩)
    rw [← h.negative] at hn
    exact Or.inl ⟨_, hn, rfl⟩
  · exact Or.inr (Or.inl rfl)
  · have h₃ : 0 < v := lt_of_le_of_ne (not_lt.mp h₁) (Ne.symm h₂)
    obtain ⟨n, hn⟩ := @Tally.exists_mem_ofKeys ((vs.filter (0 < ·)).map K) _
      (List.mem_map.mpr ⟨v, List.mem_filter.mpr ⟨hv, by simpa using h₃⟩, rfl⟩)
    rw [← h.positive] at hn
    exact Or.inr (Or.inr ⟨_, hn, rfl⟩)

/-- The cells of a summarized sketch, with buckets standing for positive numbers that grow with
the bucket, stand for strictly increasing numbers. -/
lemma cells_strictly_sorted (h : Summarizes K a s vs) (hv : StrictMono value)
    (hpos : ∀ k, 0 < value k) : ((cells value s).map Prod.fst).Pairwise (· < ·) := by
  have hneg : ∀ k, -value k < 0 := fun k => neg_neg_iff_pos.mpr (hpos k)
  refine pairwise_cells (fun hk => neg_lt_neg (hv hk)) (fun hk => hv hk)
    (fun k => ⟨hneg k, hpos k⟩) (fun k k' => (hneg k).trans (hpos k')) ?_ ?_
  · rw [h.positive]; exact Tally.ascending_ofKeys _
  · rw [h.negative]; exact Tally.ascending_ofKeys _

end Cells

/-! ## Estimates within the accuracy -/

section Accurate

variable {A : ℚ} {K : ℚ → Int} {vs : List ℚ}

/-- The buckets `K` gives the magnitudes of the nonzero values `vs` are the right ones: the
magnitude lies above `γ ^ (k - 1)` and at most `γ ^ k` for its bucket `k`. -/
def InBuckets (A : ℚ) (K : ℚ → Int) (vs : List ℚ) : Prop :=
  ∀ v ∈ vs, v ≠ 0 → exactGamma A ^ (K |v| - 1) < |v| ∧ |v| ≤ exactGamma A ^ K |v|

lemma exactBucketValue_pos (h₀ : 0 < A) (h₁ : A < 1) (k : Int) : 0 < exactBucketValue A k := by
  have hγ := one_lt_exactGamma h₀ h₁
  unfold exactBucketValue
  positivity

lemma exactBucketValue_strictMono (h₀ : 0 < A) (h₁ : A < 1) : StrictMono (exactBucketValue A) := by
  intro k l hkl
  have hγ := one_lt_exactGamma h₀ h₁
  unfold exactBucketValue
  gcongr

section Cells

variable (h₀ : 0 < A) (h₁ : A < 1) (hb : InBuckets A K vs)
include h₀ h₁ hb

/-- Cells of values in their buckets are in the order of the values. -/
lemma cellValue_mono : ∀ v ∈ vs, ∀ w ∈ vs, v ≤ w →
    cellValue (exactBucketValue A) K v ≤ cellValue (exactBucketValue A) K w := by
  intro v hv w hw hvw
  have hγ := one_lt_exactGamma h₀ h₁
  have hpos := exactBucketValue_pos h₀ h₁
  have hmono := (exactBucketValue_strictMono h₀ h₁).monotone
  -- the buckets of two nonzero magnitudes are in their order
  have hkey : ∀ {m m'}, m ∈ vs → m' ∈ vs → m ≠ 0 → m' ≠ 0 → |m| ≤ |m'| → K |m| ≤ K |m'| :=
    fun hm hm' h0 h0' hle => le_of_buckets hγ (hb _ hm h0).1 (hb _ hm' h0').2 hle
  unfold cellValue
  rcases lt_trichotomy v 0 with hv0 | rfl | hv0 <;> rcases lt_trichotomy w 0 with hw0 | rfl | hw0
  · have := hkey hw hv hw0.ne hv0.ne (by rw [abs_of_neg hv0, abs_of_neg hw0]; linarith)
    rw [abs_of_neg hv0, abs_of_neg hw0] at this
    simpa [hv0, hw0] using hmono this
  · simpa [hv0] using (hpos _).le
  · simpa [hv0, hw0, not_lt.mpr hw0.le, hw0.ne'] using
      ((neg_neg_iff_pos.mpr (hpos _)).trans (hpos _)).le
  · exact absurd hvw (not_le.mpr hw0)
  · simp
  · simpa [hw0, not_lt.mpr hw0.le, hw0.ne'] using (hpos _).le
  · exact absurd hvw (not_le.mpr (hw0.trans hv0))
  · exact absurd hvw (not_le.mpr hv0)
  · have := hkey hv hw hv0.ne' hw0.ne' (by rw [abs_of_pos hv0, abs_of_pos hw0]; exact hvw)
    rw [abs_of_pos hv0, abs_of_pos hw0] at this
    simpa [not_lt.mpr hv0.le, hv0.ne', not_lt.mpr hw0.le, hw0.ne'] using hmono this

/-- The cell of a value in its bucket stands for a number within the accuracy of it. -/
lemma abs_cellValue_sub_le {v : ℚ} (hv : v ∈ vs) :
    |cellValue (exactBucketValue A) K v - v| ≤ A * |v| := by
  unfold cellValue
  rcases lt_trichotomy v 0 with hv0 | rfl | hv0
  · have h := abs_exactBucketValue_sub_le h₀.le h₁ (hb v hv hv0.ne).1 (hb v hv hv0.ne).2
    rw [abs_of_neg hv0] at h ⊢
    rw [if_pos hv0, show -exactBucketValue A (K (-v)) - v = -(exactBucketValue A (K (-v)) - -v) by
      ring, abs_neg]
    exact h
  · simp
  · have h := abs_exactBucketValue_sub_le h₀.le h₁ (hb v hv hv0.ne').1 (hb v hv hv0.ne').2
    rw [abs_of_pos hv0] at h ⊢
    rwa [if_neg (not_lt.mpr hv0.le), if_neg hv0.ne']

end Cells

/-- A list of pairs whose counts are a function of their cells is that function over its cells. -/
lemma eq_map_fst_of_snd {l : List (ℚ × UInt64)} {f : ℚ → UInt64} (h : ∀ e ∈ l, e.2 = f e.1) :
    l = (l.map Prod.fst).map fun c => (c, f c) := by
  rw [List.map_map]
  conv_lhs => rw [← List.map_id l]
  exact List.map_congr_left fun e he => Prod.ext rfl (h e he)

variable {a : Float} {s : QuantileSketch}

/-- On a summarized sketch the walk to a rank below the count stops at the cell of the value of
that rank. -/
lemma firstPast_cells_sortedAt (h : Summarizes K a s vs) (h₀ : 0 < A) (h₁ : A < 1)
    (hb : InBuckets A K vs) (hn : vs.length < 2 ^ 64) {r : Nat} (hr : r < vs.length) :
    firstPast (UInt64.ofNat r) 0 (cells (exactBucketValue A) s) =
      some (cellValue (exactBucketValue A) K (sortedAt vs r)) := by
  have hpos := exactBucketValue_pos h₀ h₁
  have hmono := exactBucketValue_strictMono h₀ h₁
  have hmem : ∀ v ∈ vs, cellValue (exactBucketValue A) K v ∈
      (cells (exactBucketValue A) s).map Prod.fst := fun v hv => cellValue_mem_cells h hv
  rw [eq_map_fst_of_snd (l := cells (exactBucketValue A) s)
    (f := fun c => UInt64.ofNat (vs.countP (cellValue (exactBucketValue A) K · = c)))
    (cells_counts hmono.injective hpos h)]
  refine firstPast_cells (cellValue_mono h₀ h₁ hb) hn (sortedAt_mem hr) (countP_lt_sortedAt_le hr)
    (lt_countP_le_sortedAt hr) _ 0 (cells_strictly_sorted h hmono hpos)
    (fun v hv => Or.inl (hmem v hv)) (hmem _ (sortedAt_mem hr)) ?_
  -- every value's cell is still ahead of a walk that has not started
  rw [UInt64.toNat_zero, eq_comm, List.countP_eq_zero]
  simpa using hmem

/-- On a sketch that summarizes nonempty values in their buckets, the estimate of every quantile
with exact bucket values is within the accuracy of the value of its rank, and exactly the least or
the greatest value at the two ends. -/
theorem exactQuantile?_withinAccuracy (h : Summarizes K a s vs) (ha : value? a = some A)
    (h₀ : 0 < A) (h₁ : A < 1) (hb : InBuckets A K vs) (hne : vs ≠ []) (hn : vs.length < 2 ^ 64)
    {q : Float} (hq₀ : 0 ≤ q) (hq₁ : q ≤ 1) :
    ∃ v, s.exactQuantile? q = some v ∧ WithinAccuracy A vs (s.rankOf q).toNat v := by
  rcases h.extremes with ⟨rfl, -, -⟩ | ⟨l, u, lo, hi, hl, hu, hlo, hhi, hleast, hgreatest⟩
  · exact absurd rfl hne
  have hlen : 0 < vs.length := List.length_pos_of_ne_nil hne
  have hcount : s.count.toNat = vs.length := by
    rw [h.count, UInt64.toNat_ofNat_of_lt' hn]
  have hne0 : s.count ≠ 0 := fun h0 => by
    rw [h0] at hcount
    simp at hcount
    omega
  rw [exactQuantile?_eq hne0 hq₀ hq₁ (h.accuracy ▸ ha) hl hu hlo hhi]
  refine ⟨_, rfl, ?_⟩
  set R := s.rankOf q
  have hR : R.toNat < 2 ^ 64 := R.toNat_lt
  by_cases hR0 : R = 0
  · -- rank zero: the least number
    rw [hR0, estimateAt_zero]
    exact withinAccuracy_of_first h₀.le (sortedAt_zero hleast).symm
  by_cases hc : R + 1 ≥ s.count
  · -- a rank that reaches the count: the greatest number
    rw [estimateAt_of_count hR0 hc]
    have hlast : vs.length - 1 ≤ R.toNat := by
      rw [ge_iff_le, UInt64.le_iff_toNat_le, UInt64.toNat_add, UInt64.toNat_one, hcount] at hc
      by_cases hw : R.toNat + 1 < 2 ^ 64
      · rw [Nat.mod_eq_of_lt hw] at hc
        omega
      · omega
    exact withinAccuracy_of_last h₀.le hlast (sortedAt_last hgreatest).symm
  rw [estimateAt_of_walk hR0 hc]
  have hR0' : R.toNat ≠ 0 := fun h0 => hR0 (UInt64.toNat_inj.mp (by simpa using h0))
  by_cases hmid : R.toNat < vs.length - 1
  · -- a rank in between: the cell of its value, held between the least and the greatest
    have hwalk := firstPast_cells_sortedAt h h₀ h₁ hb hn (r := R.toNat) (by omega)
    rw [UInt64.ofNat_toNat] at hwalk
    rw [hwalk, Option.map_some, Option.getD_some]
    have hx := @sortedAt_mem vs R.toNat (by omega)
    exact withinAccuracy_of_middle hR0' hmid
      ((abs_clampBy_sub_le (hleast.2 hx) (hgreatest.2 hx)).trans
        (abs_cellValue_sub_le h₀ h₁ hb hx))
  · -- a rank past the count that did not reach it wrapped: the walk passes every cell
    have hmax : R.toNat = 2 ^ 64 - 1 := by
      rw [ge_iff_le, UInt64.le_iff_toNat_le, UInt64.toNat_add, UInt64.toNat_one, hcount] at hc
      by_contra hne'
      rw [Nat.mod_eq_of_lt (by omega)] at hc
      omega
    rw [firstPast_of_max hmax]
    exact withinAccuracy_of_last h₀.le (not_lt.mp hmid) (sortedAt_last hgreatest).symm

end Accurate

/-! ## Buckets from exact logarithms -/

section Logarithms

/-- The bucket of a positive magnitude `m` with the logarithms, the division and the ceiling
computed exactly: `⌈ln m / ln γ⌉`, before the cast to 32 bits. -/
noncomputable def exactLogKey (A : ℚ) (m : ℚ) : Int := ⌈Real.log m / Real.log (exactGamma A)⌉

/-- The bucket a sketch gives a magnitude with exact operations, cast to 32 bits as `bucket`
casts it. -/
noncomputable def exactBucket (s : QuantileSketch) (m : Float) : Int :=
  clampToInt32 (exactLogKey ((value? s.accuracy).getD 0) ((value? m).getD 0))

variable {A : ℚ}

/-- The exact bucket of a positive magnitude `m` is the `k` with `γ ^ (k - 1) < m ≤ γ ^ k`. -/
lemma buckets_exactLogKey (h₀ : 0 < A) (h₁ : A < 1) {m : ℚ} (hm : 0 < m) :
    exactGamma A ^ (exactLogKey A m - 1) < m ∧ m ≤ exactGamma A ^ exactLogKey A m := by
  have hγ : (1 : ℝ) < (exactGamma A : ℝ) := by exact_mod_cast one_lt_exactGamma h₀ h₁
  have hγ0 : (0 : ℝ) < (exactGamma A : ℝ) := zero_lt_one.trans hγ
  have hlog : 0 < Real.log (exactGamma A) := Real.log_pos hγ
  have hmR : (0 : ℝ) < m := by exact_mod_cast hm
  -- the ceiling lies within one above the quotient of logarithms
  have hle : Real.log m ≤ exactLogKey A m * Real.log (exactGamma A) :=
    (div_le_iff₀ hlog).mp (Int.le_ceil _)
  have hlt : (exactLogKey A m - 1 : ℝ) * Real.log (exactGamma A) < Real.log m := by
    have := Int.ceil_lt_add_one (Real.log m / Real.log (exactGamma A))
    exact (lt_div_iff₀ hlog).mp (by unfold exactLogKey; linarith)
  constructor
  · have h : Real.log (((exactGamma A : ℝ)) ^ (exactLogKey A m - 1)) < Real.log m := by
      rw [Real.log_zpow]
      push_cast
      exact hlt
    have := (Real.log_lt_log_iff (zpow_pos hγ0 _) hmR).mp h
    exact_mod_cast this
  · have h : Real.log m ≤ Real.log (((exactGamma A : ℝ)) ^ exactLogKey A m) := by
      rw [Real.log_zpow]
      exact hle
    have := (Real.log_le_log_iff hmR (zpow_pos hγ0 _)).mp h
    exact_mod_cast this

end Logarithms

/-! ## Quantiles of sketches with exact buckets -/

section Unsaturated

variable {a : Float} {A : ℚ} {s : QuantileSketch} {xs : List Float}

/-- Nonzero values whose exact buckets fit in 32 bits are in their buckets. -/
lemma inBuckets_of_unsaturated (h₀ : 0 < A) (h₁ : A < 1) {vs : List ℚ}
    (hsat : ∀ v ∈ vs, v ≠ 0 → exactLogKey A |v| ∈ Set.Icc (-2 ^ 31) (2 ^ 31 - 1)) :
    InBuckets A (fun m => clampToInt32 (exactLogKey A m)) vs := by
  intro v hv hv0
  simp only [clampToInt32_of_mem (hsat v hv hv0)]
  exact buckets_exactLogKey h₀ h₁ (abs_pos.mpr hv0)

/-- A sketch of accuracy `a` with exact buckets gives a positive magnitude the saturated exact
bucket of its value. -/
lemma exactBucket_of_value? (ha : value? a = some A) (hs : s.accuracy = a) {x : Float} {v : ℚ}
    (hx : value? x = some v) : exactBucket s x = clampToInt32 (exactLogKey A v) := by
  rw [exactBucket, hs, ha, hx]
  rfl

/-- In a sketch grown from empty sketches of accuracy `a` in `(0, 1)` by inserting the numbers of
`xs` and merging, with the buckets computed exactly and cast to 32 bits, every quantile is
estimated within the accuracy of the number of its rank among the finite numbers, sorted, and
exactly at the two ends, provided no exact bucket of those numbers goes past 32 bits and they are
fewer than `2 ^ 64`. -/
theorem exactQuantile?_withinAccuracy_of_unsaturated (ha : value? a = some A) (h₀ : 0 < A)
    (h₁ : A < 1) (hs : SketchOf exactBucket a s xs) (hne : finiteValues xs ≠ [])
    (hn : (finiteValues xs).length < 2 ^ 64)
    (hsat : ∀ v ∈ finiteValues xs, v ≠ 0 → exactLogKey A |v| ∈ Set.Icc (-2 ^ 31) (2 ^ 31 - 1))
    {q : Float} (hq₀ : 0 ≤ q) (hq₁ : q ≤ 1) :
    ∃ v, s.exactQuantile? q = some v ∧ WithinAccuracy A (finiteValues xs) (s.rankOf q).toNat v := by
  have hsum := sketchOf_summarizes (K := fun m => clampToInt32 (exactLogKey A m))
    (fun _ ht _ _ hx _ => exactBucket_of_value? ha ht hx) hs
  exact exactQuantile?_withinAccuracy hsum ha h₀ h₁ (inBuckets_of_unsaturated h₀ h₁ hsat) hne hn
    hq₀ hq₁

/-- A sketch of accuracy one half holding the number one, its bucket computed exactly. -/
noncomputable def halfSketch : QuantileSketch := (empty 0.5).insertWith (exactBucket (empty 0.5)) 1

lemma value?_half : value? 0.5 = some (1 / 2) := by
  have h : (0.5 : Float).toModel.unpack = .finite .positive (2 ^ 52) (-53) (by norm_num) := by rfl
  rw [value?, h, unpackedValue?]
  norm_num [Float.Model.UnpackedFloat.Sign.apply]

theorem exactQuantile?_withinAccuracy_halfSketch :
    value? 0.5 = some (1 / 2) ∧ (0 : ℚ) < 1 / 2 ∧ (1 / 2 : ℚ) < 1 ∧
      SketchOf exactBucket 0.5 halfSketch [1] ∧ finiteValues [1] ≠ [] ∧
      (finiteValues [1]).length < 2 ^ 64 ∧
      (∀ v ∈ finiteValues [1], v ≠ 0 → exactLogKey (1 / 2) |v| ∈ Set.Icc (-2 ^ 31) (2 ^ 31 - 1)) ∧
      (0 : Float) ≤ 0.5 ∧ (0.5 : Float) ≤ 1 ∧
      ∃ v, halfSketch.exactQuantile? 0.5 = some v ∧
        WithinAccuracy (1 / 2) (finiteValues [1]) (halfSketch.rankOf 0.5).toNat v := by
  have hs : SketchOf exactBucket 0.5 halfSketch [1] := SketchOf.insert 1 SketchOf.empty
  have hvals : finiteValues [1] = [1] := by simp [finiteValues, value?_one]
  have hsat : ∀ v ∈ finiteValues [1], v ≠ 0 →
      exactLogKey (1 / 2) |v| ∈ Set.Icc (-2 ^ 31) (2 ^ 31 - 1) := by
    intro v hv _
    rw [hvals, List.mem_singleton] at hv
    subst hv
    simp [exactLogKey]
  have hne : finiteValues [1] ≠ [] := by simp [hvals]
  have hn : (finiteValues [1]).length < 2 ^ 64 := by simp [hvals]
  exact ⟨value?_half, by norm_num, by norm_num, hs, hne, hn, hsat, by decide, by decide,
    exactQuantile?_withinAccuracy_of_unsaturated value?_half (by norm_num) (by norm_num) hs hne hn
      hsat (by decide) (by decide)⟩

end Unsaturated

end QuantileSketch

end DataQuality
