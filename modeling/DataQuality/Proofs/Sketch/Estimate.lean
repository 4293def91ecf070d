import Mathlib
import DataQuality.Proofs.Sketch.Reachable

/-!
# Quantile estimates grow with the quantile

`quantile?` walks the cells of a sketch (negative buckets from the greatest magnitude down, the
zeros, then positive buckets) with a running count, and takes the first cell whose count passes
the rank `⌊q (count - 1)⌋`, held between the least and the greatest number seen; rank zero and
the top rank give those two numbers exactly.

* `quantile?_eq_estimateAt` reads `quantile?` as `estimateAt`, which takes any values for the
  buckets: `bucketValue` in doubles, or `exactBucketValue`, the bucket values computed exactly.
* `firstPast_mono` and `estimateAt_mono`: over cells in ascending order a greater rank stops at a
  cell at least as great, across the three regimes of the estimate.
* `rankOf_mono`: the rank, a product of doubles rounded down to a count, grows with the quantile
  (`toCount_mul_le_mul`).
* `exactQuantile?_mono`: on every sketch reachable by insertions and merges, whatever its key
  function, the estimates with exact bucket values grow with the quantile.
-/

namespace DataQuality

open Decimal

namespace QuantileSketch

section Walk

variable {α : Type}

/-- The first value, walking `cells` in order, at which the running count from `seen` passes
`rank`: the walk of `quantile?` over values in place of buckets. -/
def firstPast (rank : UInt64) : UInt64 → List (α × UInt64) → Option α
  | _, [] => none
  | seen, (v, n) :: rest => if seen + n > rank then some v else firstPast rank (seen + n) rest

/-- The buckets `walk` stops at, read through `f`, are the values `firstPast` stops at. -/
lemma map_walk_fst (f : Int → α) (rank seen : UInt64) (l : List (Int × UInt64)) :
    (walk rank seen l).1.map f = firstPast rank seen (l.map fun e => (f e.1, e.2)) := by
  induction l generalizing seen with
  | nil => rfl
  | cons e rest ih =>
    obtain ⟨k, n⟩ := e
    simp only [walk, List.map_cons, firstPast]
    split_ifs
    · rfl
    · exact ih (seen + n)

/-- A walk that stops at no bucket ends with the count of all of them. -/
lemma walk_snd_of_fst_eq_none {rank seen : UInt64} {l : List (Int × UInt64)}
    (h : (walk rank seen l).1 = none) : (walk rank seen l).2 = seen + (l.map Prod.snd).sum := by
  induction l generalizing seen with
  | nil => simp [walk]
  | cons e rest ih =>
    obtain ⟨k, n⟩ := e
    simp only [walk] at h ⊢
    -- a bucket passing the rank would have stopped the walk
    split_ifs at h ⊢
    rw [ih h, List.map_cons, List.sum_cons, UInt64.add_assoc]

/-- Walking two lists of cells is walking the first, then the second from the count of the
first. -/
lemma firstPast_append (rank seen : UInt64) (l₁ l₂ : List (α × UInt64)) :
    firstPast rank seen (l₁ ++ l₂) =
      (firstPast rank seen l₁).or (firstPast rank (seen + (l₁.map Prod.snd).sum) l₂) := by
  induction l₁ generalizing seen with
  | nil => simp [firstPast]
  | cons e rest ih =>
    obtain ⟨v, n⟩ := e
    simp only [List.cons_append, firstPast]
    split_ifs
    · rfl
    · rw [ih, List.map_cons, List.sum_cons, UInt64.add_assoc]

/-- A walk stops at the value of one of its cells. -/
lemma mem_of_firstPast {rank seen : UInt64} {l : List (α × UInt64)} {v : α}
    (h : firstPast rank seen l = some v) : v ∈ l.map Prod.fst := by
  induction l generalizing seen with
  | nil => simp [firstPast] at h
  | cons e rest ih =>
    obtain ⟨w, n⟩ := e
    simp only [firstPast] at h
    split_ifs at h
    · simp_all
    · exact List.mem_cons_of_mem _ (ih h)

/-- No running count passes the greatest rank. -/
lemma firstPast_of_max {rank : UInt64} (hr : rank.toNat = 2 ^ 64 - 1) (seen : UInt64)
    (l : List (α × UInt64)) : firstPast rank seen l = none := by
  induction l generalizing seen with
  | nil => rfl
  | cons e rest ih =>
    obtain ⟨v, n⟩ := e
    have hnot : ¬ seen + n > rank := by
      rw [gt_iff_lt, UInt64.lt_iff_toNat_lt, hr]
      have := (seen + n).toNat_lt
      omega
    simp only [firstPast, if_neg hnot, ih]

/-- Over cells in ascending order of value, a walk to a higher rank stops, if it stops, at a value
at least as high as a walk to a lower rank, which stops too: passing the higher rank passes the
lower one. -/
lemma firstPast_mono [Preorder α] {l : List (α × UInt64)}
    (hl : (l.map Prod.fst).Pairwise (· ≤ ·)) {r₁ r₂ : UInt64} (hr : r₁ ≤ r₂) {seen : UInt64}
    {v₂ : α} (h : firstPast r₂ seen l = some v₂) :
    ∃ v₁, firstPast r₁ seen l = some v₁ ∧ v₁ ≤ v₂ := by
  induction l generalizing seen with
  | nil => simp [firstPast] at h
  | cons e rest ih =>
    obtain ⟨v, n⟩ := e
    rw [List.map_cons, List.pairwise_cons] at hl
    simp only [firstPast] at h ⊢
    by_cases h₂ : seen + n > r₂
    · -- the walk to the higher rank stops here, and so does the other
      rw [if_pos h₂] at h
      have h₁ : seen + n > r₁ := by
        rw [gt_iff_lt, UInt64.lt_iff_toNat_lt] at h₂ ⊢
        rw [UInt64.le_iff_toNat_le] at hr
        omega
      rw [if_pos h₁]
      exact ⟨v, rfl, (Option.some.inj h).le⟩
    · rw [if_neg h₂] at h
      by_cases h₁ : seen + n > r₁
      · rw [if_pos h₁]
        exact ⟨v, rfl, hl.1 v₂ (mem_of_firstPast h)⟩
      · rw [if_neg h₁]
        exact ih hl.2 h

end Walk

/-! ## The estimate, over any numbers -/

section Estimate

variable {α : Type} [LT α] [DecidableLT α] [Neg α] [OfNat α 0]

/-- A number moved into `[lo, hi]`, the way `clampInto` moves a double. -/
def clampBy (x lo hi : α) : α := if x < lo then lo else if x > hi then hi else x

/-- The cells the walk of `quantile?` passes, with the numbers they stand for when bucket `k`
stands for `value k`: the negative buckets from the most negative, the zeros, then the positive
buckets. -/
def cells (value : Int → α) (s : QuantileSketch) : List (α × UInt64) :=
  s.negative.entries.reverse.map (fun e => (-value e.1, e.2)) ++
    (0, s.zeroCount) :: s.positive.entries.map (fun e => (value e.1, e.2))

/-- The estimate `quantile?` makes of the number of rank `rank`, when bucket `k` stands for
`value k` and `lo` and `hi` are the least and greatest numbers. -/
def estimateAt (value : Int → α) (lo hi : α) (s : QuantileSketch) (rank : UInt64) : α :=
  if rank == 0 then lo else
  if rank + 1 ≥ s.count then hi else
  match walk rank 0 s.negative.entries.reverse with
  | (some k, _) => clampBy (-value k) lo hi
  | (none, seen) =>
    if seen + s.zeroCount > rank then clampBy 0 lo hi else
    match walk rank (seen + s.zeroCount) s.positive.entries with
    | (some k, _) => clampBy (value k) lo hi
    | (none, _) => hi

/-- The rank whose number estimates the fraction `q`: `⌊q (count - 1)⌋`, the product rounded as
a double. -/
def rankOf (s : QuantileSketch) (q : Float) : UInt64 :=
  UInt64.ofNat (toCount (q * countToFloat (s.count - 1)))

variable {value : Int → α} {lo hi : α} {s : QuantileSketch} {rank : UInt64}

lemma estimateAt_zero : estimateAt value lo hi s 0 = lo := rfl

lemma estimateAt_of_count (h0 : rank ≠ 0) (hc : rank + 1 ≥ s.count) :
    estimateAt value lo hi s rank = hi := by
  rw [estimateAt, if_neg (by simpa using h0), if_pos hc]

/-- Between the two ends the estimate is the number of the cell where the running count passes
the rank, held between the least and the greatest; past every cell it is the greatest. -/
lemma estimateAt_of_walk (h0 : rank ≠ 0) (hc : ¬ rank + 1 ≥ s.count) :
    estimateAt value lo hi s rank =
      ((firstPast rank 0 (cells value s)).map (clampBy · lo hi)).getD hi := by
  have hneg := map_walk_fst (fun k => -value k) rank 0 s.negative.entries.reverse
  have hpos := fun seen => map_walk_fst value rank seen s.positive.entries
  rw [estimateAt, if_neg (by simpa using h0), if_neg hc, cells, firstPast_append]
  rcases hw : walk rank 0 s.negative.entries.reverse with ⟨_ | k, seen⟩
  · -- no negative bucket passes the rank: then the zeros, then the positive buckets
    have hseen := walk_snd_of_fst_eq_none (by rw [hw])
    rw [hw] at hneg hseen
    have hsum : (s.negative.entries.reverse.map fun e => (-value e.1, e.2)).map Prod.snd =
        s.negative.entries.reverse.map Prod.snd := by
      rw [List.map_map]
      rfl
    rw [← hneg, hsum, ← (show seen = _ from hseen)]
    simp only [Option.map_none, Option.none_or, firstPast]
    split_ifs
    · rfl
    · rw [← hpos]
      rcases walk rank (seen + s.zeroCount) s.positive.entries with ⟨_ | k, _⟩ <;> rfl
  · rw [hw] at hneg
    rw [← hneg]
    rfl

/-- `quantile?` is the estimate with the numbers the sketch computes in doubles. -/
theorem quantile?_eq_estimateAt (s : QuantileSketch) (q : Float) :
    s.quantile? q = if s.count == 0 || !(0 ≤ q && q ≤ 1) then none else
      s.min.bind fun lo => s.max.map fun hi => estimateAt s.bucketValue lo hi s (s.rankOf q) := by
  unfold quantile?
  split_ifs with h
  · rfl
  cases s.min with
  | none => rfl
  | some lo =>
    cases s.max with
    | none => rfl
    | some hi =>
      simp only [Option.bind_some, Option.map_some]
      unfold estimateAt rankOf
      set r := UInt64.ofNat (toCount (q * countToFloat (s.count - 1)))
      -- the same tests on both sides, the one returning in the monad
      split_ifs
      · rfl
      · rfl
      · rcases walk r 0 s.negative.entries.reverse with ⟨_ | k, seen⟩
        · dsimp only
          split_ifs
          · rfl
          · rcases walk r (seen + s.zeroCount) s.positive.entries with ⟨_ | k', _⟩ <;> rfl
        · rfl

end Estimate

/-! ## Estimates in order -/

section Order

variable {value : Int → ℚ} {lo hi : ℚ} {s : QuantileSketch}

/-- Between bounds in order, holding a number between them is taking the nearer bound. -/
lemma clampBy_eq (h : lo ≤ hi) (x : ℚ) : clampBy x lo hi = Max.max lo (Min.min x hi) := by
  unfold clampBy
  split_ifs with h₁ h₂
  · exact (max_eq_left ((min_le_left _ _).trans h₁.le)).symm
  · rw [min_eq_right h₂.le, max_eq_right h]
  · rw [min_eq_left (not_lt.mp h₂), max_eq_right (not_lt.mp h₁)]

lemma clampBy_mono (h : lo ≤ hi) {x y : ℚ} (hxy : x ≤ y) : clampBy x lo hi ≤ clampBy y lo hi := by
  rw [clampBy_eq h, clampBy_eq h]
  exact max_le_max le_rfl (min_le_min hxy le_rfl)

lemma clampBy_mem (h : lo ≤ hi) (x : ℚ) : lo ≤ clampBy x lo hi ∧ clampBy x lo hi ≤ hi := by
  rw [clampBy_eq h]
  exact ⟨le_max_left _ _, max_le h (min_le_right _ _)⟩

/-- Every estimate lies between the least and the greatest number. -/
lemma estimateAt_mem (h : lo ≤ hi) (rank : UInt64) :
    lo ≤ estimateAt value lo hi s rank ∧ estimateAt value lo hi s rank ≤ hi := by
  by_cases h0 : rank = 0
  · rw [h0, estimateAt_zero]
    exact ⟨le_rfl, h⟩
  by_cases hc : rank + 1 ≥ s.count
  · rw [estimateAt_of_count h0 hc]
    exact ⟨h, le_rfl⟩
  rw [estimateAt_of_walk h0 hc]
  cases firstPast rank 0 (cells value s) with
  | none => exact ⟨h, le_rfl⟩
  | some v => exact clampBy_mem h v

/-- The cells are ordered by a relation `R` that orders negative buckets from the greatest
magnitude, puts zero after them and before the positive buckets, and orders positive buckets from
the least. -/
lemma pairwise_cells {R : ℚ → ℚ → Prop} (hneg : ∀ {k k' : Int}, k < k' → R (-value k') (-value k))
    (hpos : ∀ {k k' : Int}, k < k' → R (value k) (value k'))
    (hzero : ∀ k, R (-value k) 0 ∧ R 0 (value k)) (hmix : ∀ k k', R (-value k) (value k'))
    (hp : Tally.Ascending s.positive.entries) (hn : Tally.Ascending s.negative.entries) :
    ((cells value s).map Prod.fst).Pairwise R := by
  have hlt : ∀ {l : List (Int × UInt64)}, Tally.Ascending l → l.Pairwise fun a b => a.1 < b.1 :=
    fun h => h.imp fun h => compare_lt_iff_lt.mp h
  unfold cells
  simp only [List.map_append, List.map_cons, List.map_map, Function.comp_def, List.map_reverse]
  rw [List.pairwise_append, List.pairwise_cons]
  refine ⟨?_, ⟨?_, ?_⟩, ?_⟩
  · rw [List.pairwise_reverse, List.pairwise_map]
    exact (hlt hn).imp hneg
  · intro b hb
    obtain ⟨e, -, rfl⟩ := List.mem_map.mp hb
    exact (hzero e.1).2
  · rw [List.pairwise_map]
    exact (hlt hp).imp hpos
  · intro a ha b hb
    obtain ⟨e, -, rfl⟩ := List.mem_map.mp (List.mem_reverse.mp ha)
    rcases List.mem_cons.mp hb with rfl | hb
    · exact (hzero e.1).1
    · obtain ⟨e', -, rfl⟩ := List.mem_map.mp hb
      exact hmix e.1 e'.1

/-- The cells are in ascending order of the numbers they stand for when buckets stand for numbers
that grow with the bucket and are not negative: negative buckets from the greatest magnitude, then
zero, then positive buckets from the least. -/
lemma sorted_cells (hv : Monotone value) (hv0 : ∀ k, 0 ≤ value k)
    (hp : Tally.Ascending s.positive.entries) (hn : Tally.Ascending s.negative.entries) :
    ((cells value s).map Prod.fst).Pairwise (· ≤ ·) := by
  have hneg : ∀ k, -value k ≤ 0 := fun k => neg_nonpos.mpr (hv0 k)
  exact pairwise_cells (fun h => neg_le_neg (hv h.le)) (fun h => hv h.le)
    (fun k => ⟨hneg k, hv0 k⟩) (fun k k' => (hneg k).trans (hv0 k')) hp hn

/-- Estimates grow with the rank, when the cells are in ascending order. -/
theorem estimateAt_mono (h : lo ≤ hi) (hsort : ((cells value s).map Prod.fst).Pairwise (· ≤ ·))
    {r₁ r₂ : UInt64} (hr : r₁ ≤ r₂) :
    estimateAt value lo hi s r₁ ≤ estimateAt value lo hi s r₂ := by
  rw [UInt64.le_iff_toNat_le] at hr
  by_cases h₁ : r₁ = 0
  · -- the least number is the lowest estimate
    rw [h₁, estimateAt_zero]
    exact (estimateAt_mem h r₂).1
  have h₂ : r₂ ≠ 0 := by
    rintro rfl
    exact h₁ (UInt64.toNat_inj.mp (by simp at hr ⊢; omega))
  by_cases hc₂ : r₂ + 1 ≥ s.count
  · -- the greatest number is the highest
    rw [estimateAt_of_count h₂ hc₂]
    exact (estimateAt_mem h r₁).2
  rw [estimateAt_of_walk h₂ hc₂]
  by_cases hc₁ : r₁ + 1 ≥ s.count
  · -- only the greatest rank wraps past the count while a lower one does not, and no running
    -- count passes the greatest rank
    have hmax : r₂.toNat = 2 ^ 64 - 1 := by
      rw [ge_iff_le, UInt64.le_iff_toNat_le, UInt64.toNat_add, UInt64.toNat_one] at hc₁ hc₂
      have := r₂.toNat_lt
      omega
    rw [estimateAt_of_count h₁ hc₁, firstPast_of_max hmax]
    exact le_rfl
  rw [estimateAt_of_walk h₁ hc₁]
  cases hf : firstPast r₂ 0 (cells value s) with
  | none =>
    -- past every cell the estimate is the greatest number
    cases firstPast r₁ 0 (cells value s) with
    | none => exact le_rfl
    | some v => exact (clampBy_mem h v).2
  | some v₂ =>
    obtain ⟨v₁, hv₁, hle⟩ := firstPast_mono hsort (UInt64.le_iff_toNat_le.mpr hr) hf
    rw [hv₁]
    exact clampBy_mono h hle

end Order

/-! ## The rank of a quantile -/

/-- A greater quantile has a rank at least as great: the product with the count is rounded
monotonically and so is its conversion to a count. -/
lemma rankOf_mono (s : QuantileSketch) {q₁ q₂ : Float} (h₀ : 0 ≤ q₁) (h₁₂ : q₁ ≤ q₂)
    (h₂ : q₂ ≤ 1) : s.rankOf q₁ ≤ s.rankOf q₂ := by
  have hq₂ : q₂.isFinite = true :=
    isFinite_of_nonneg_of_le (float_le_trans h₀ h₁₂) h₂ (by rfl)
  have hle := toCount_mul_le_mul h₀ h₁₂ hq₂ (zero_le_countToFloat (s.count - 1))
    (isFinite_countToFloat _)
  have hlt : ∀ x, toCount x < 2 ^ 64 := fun x => by have := toCount_le x; omega
  rw [rankOf, rankOf, UInt64.le_iff_toNat_le, UInt64.toNat_ofNat_of_lt' (hlt _),
    UInt64.toNat_ofNat_of_lt' (hlt _)]
  exact hle

/-! ## Estimates with exact bucket values

With bucket values computed exactly, `2 γ ^ k / (γ + 1)` for `γ = (1 + a) / (1 - a)`, values grow
with the bucket when `0 ≤ a < 1`, so every estimate between the two ends is taken from cells in
ascending order. -/

/-- The ratio of consecutive bucket bounds, computed exactly. -/
def exactGamma (a : ℚ) : ℚ := (1 + a) / (1 - a)

/-- The number a bucket stands for, computed exactly. -/
def exactBucketValue (a : ℚ) (k : Int) : ℚ := 2 * exactGamma a ^ k / (exactGamma a + 1)

section Exact

variable {a : ℚ}

lemma one_le_exactGamma (h₀ : 0 ≤ a) (h₁ : a < 1) : 1 ≤ exactGamma a :=
  (one_le_div (by linarith)).mpr (by linarith)

lemma exactBucketValue_nonneg (h₀ : 0 ≤ a) (h₁ : a < 1) (k : Int) : 0 ≤ exactBucketValue a k := by
  have hγ := one_le_exactGamma h₀ h₁
  unfold exactBucketValue
  positivity

lemma exactBucketValue_mono (h₀ : 0 ≤ a) (h₁ : a < 1) : Monotone (exactBucketValue a) := by
  intro k l hkl
  have hγ := one_le_exactGamma h₀ h₁
  unfold exactBucketValue
  gcongr

end Exact

/-- The estimate of the quantile `q` read with exact bucket values: the rank of `quantile?`, in
doubles, and its walk over the cells, with the accuracy, the least and the greatest number read as
rationals. -/
def exactQuantile? (s : QuantileSketch) (q : Float) : Option ℚ :=
  if s.count == 0 || !(0 ≤ q && q ≤ 1) then none else
  (value? s.accuracy).bind fun a => (s.min.bind value?).bind fun lo => (s.max.bind value?).map
    fun hi => estimateAt (exactBucketValue a) lo hi s (s.rankOf q)

lemma exactQuantile?_eq {s : QuantileSketch} {q : Float} {a lo hi : ℚ} {l u : Float}
    (hne : s.count ≠ 0) (h₀ : 0 ≤ q) (h₁ : q ≤ 1) (ha : value? s.accuracy = some a)
    (hl : s.min = some l) (hu : s.max = some u) (hlo : value? l = some lo)
    (hhi : value? u = some hi) :
    s.exactQuantile? q = some (estimateAt (exactBucketValue a) lo hi s (s.rankOf q)) := by
  simp [exactQuantile?, hne, h₀, h₁, ha, hl, hu, hlo, hhi]

/-- An accuracy strictly between zero and one is read as such a rational. -/
lemma exists_value?_of_accuracy {a : Float} (h₀ : 0 < a) (h₁ : a < 1) :
    ∃ A : ℚ, value? a = some A ∧ 0 < A ∧ A < 1 := by
  have hn : a.isNaN = false := Bool.eq_false_iff.mpr fun h => not_lt_of_isNaN_left h h₁
  have hr₀ : rank 0 < rank a := (lt_iff_rank (by rfl) hn).mp h₀
  have hr₁ : rank a < rank 1 := (lt_iff_rank hn (by rfl)).mp h₁
  have hf : a.isFinite = true :=
    isFinite_of_nonneg_of_le ((le_iff_rank (by rfl) hn).mpr hr₀.le)
      ((le_iff_rank hn (by rfl)).mpr hr₁.le) (by rfl)
  obtain ⟨A, hA⟩ := exists_value?_of_isFinite hf
  have hz : value? 0 = some 0 := value?_eq_zero_iff.mpr ⟨.positive, rfl⟩
  exact ⟨A, hA, value?_lt_of_rank_lt hz hA hr₀, value?_lt_of_rank_lt hA value?_one hr₁⟩

/-- On every sketch built from an empty one by insertions and merges, whatever its key function,
the estimates with exact bucket values grow with the quantile; both exist once a number is in. -/
theorem exactQuantile?_mono {key : QuantileSketch → Float → Int} {a : Float} {s : QuantileSketch}
    (hs : Reachable key a s) (ha₀ : 0 < a) (ha₁ : a < 1) (hne : s.count ≠ 0) {q₁ q₂ : Float}
    (h₀ : 0 ≤ q₁) (h₁₂ : q₁ ≤ q₂) (h₂ : q₂ ≤ 1) :
    ∃ v₁ v₂, s.exactQuantile? q₁ = some v₁ ∧ s.exactQuantile? q₂ = some v₂ ∧ v₁ ≤ v₂ := by
  have hw := reachable_wellFormed hs
  obtain ⟨A, hA, hA₀, hA₁⟩ := exists_value?_of_accuracy ha₀ ha₁
  rw [← hw.accuracy] at hA
  obtain ⟨l, u, hl, hu, hlf, huf, hlu⟩ := hw.exists_bounds hne
  obtain ⟨lo, hlo⟩ := exists_value?_of_isFinite hlf
  obtain ⟨hi, hhi⟩ := exists_value?_of_isFinite huf
  have hq₁ : q₁ ≤ 1 := float_le_trans h₁₂ h₂
  refine ⟨_, _, exactQuantile?_eq hne h₀ hq₁ hA hl hu hlo hhi,
    exactQuantile?_eq hne (float_le_trans h₀ h₁₂) h₂ hA hl hu hlo hhi, ?_⟩
  exact estimateAt_mono (value?_le_of_rank_le hlo hhi hlu)
    (sorted_cells (exactBucketValue_mono hA₀.le hA₁) (exactBucketValue_nonneg hA₀.le hA₁)
      hw.positive hw.negative)
    (rankOf_mono s h₀ h₁₂ h₂)

/-- A sketch of accuracy 1% holding the number one. -/
def oneSketch : QuantileSketch := (empty 0.01).insertWith (empty 0.01).bucket 1

theorem exactQuantile?_mono_oneSketch :
    Reachable (fun s => s.bucket) 0.01 oneSketch ∧ (0 : Float) < 0.01 ∧ (0.01 : Float) < 1 ∧
      oneSketch.count ≠ 0 ∧ (0 : Float) ≤ 0.25 ∧ (0.25 : Float) ≤ 0.75 ∧ (0.75 : Float) ≤ 1 ∧
      ∃ v₁ v₂, oneSketch.exactQuantile? 0.25 = some v₁ ∧ oneSketch.exactQuantile? 0.75 = some v₂ ∧
        v₁ ≤ v₂ := by
  have hs : Reachable (fun s => s.bucket) 0.01 oneSketch := Reachable.insert 1 Reachable.empty
  have hc : oneSketch.count ≠ 0 := by decide
  exact ⟨hs, by decide, by decide, hc, by decide, by decide, by decide,
    exactQuantile?_mono hs (by decide) (by decide) hc (by decide) (by decide) (by decide)⟩

end QuantileSketch

end DataQuality
