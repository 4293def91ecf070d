import Mathlib
import DataQuality.Proofs.Scan.Merge

/-!
# The distinct-count estimate as registers rise

The estimate of a distinct-count sketch (`DistinctSketch.estimateIn`) is read here in exact
arithmetic (`DistinctSketch.exactEstimate`): counts as reals, integer powers and the natural
logarithm of the reals.  It is one of two estimators: the raw HyperLogLog estimate
`α m² / Σ 2^(-r)`, or linear counting `m ln (m / zeros)` when the raw estimate is at most `2.5 m`
and some register is zero (`DistinctSketch.exactEstimate_eq_ite`).

Raising registers (`DistinctSketch.Below`), as a merge or an insert does, lowers the sum of the
register weights and the number of zero registers, so it raises each estimator
(`DistinctSketch.Below.rawEstimate_le`, `DistinctSketch.Below.linearEstimate_le`), and a sketch
falls under linear counting only if every sketch below it does.  The estimate therefore grows
whenever both sketches use the same estimator (`DistinctSketch.exactEstimate_mono_of_same_rule`).
It can fall where linear counting gives way to the raw estimate: raising the last zero register
of a precision-4 sketch whose other registers are one takes the estimate from `16 ln 16`, about
44.4, to about 21.6 (`DistinctSketch.exactEstimate_falls_when_linear_counting_ends`).
-/

namespace DataQuality.DistinctSketch

/-- The estimate with exact arithmetic: counts as reals, integer powers and the natural logarithm
of the reals. -/
noncomputable def exactEstimate (s : DistinctSketch) : ℝ :=
  s.estimateIn (fun n => (n : ℝ)) (fun x k => x ^ k) Real.log

/-- The weight `2^(-r)` of a register holding `r`. -/
noncomputable def weight (r : UInt8) : ℝ := (2 : ℝ) ^ (-(r.toNat : ℤ))

@[simp] lemma weight_zero : weight 0 = 1 := by simp [weight]

@[simp] lemma weight_one : weight 1 = 1 / 2 := by
  rw [weight, show (1 : UInt8).toNat = 1 from rfl]
  norm_num

/-- The sum of the weights of the registers. -/
noncomputable def weightSum (s : DistinctSketch) : ℝ := (s.registers.toList.map weight).sum

/-- The number of registers still zero. -/
def zeroCount (s : DistinctSketch) : Nat := s.registers.toList.count 0

/-- The raw HyperLogLog estimate `α m² / Σ 2^(-r)`, `α = 0.7213 / (1 + 1.079 / m)`. -/
noncomputable def rawEstimate (s : DistinctSketch) : ℝ :=
  0.7213 / (1 + 1.079 / (s.registers.size : ℝ)) * s.registers.size * s.registers.size /
    s.weightSum

/-- The linear-counting estimate `m ln (m / zeros)`. -/
noncomputable def linearEstimate (s : DistinctSketch) : ℝ :=
  s.registers.size * Real.log (s.registers.size / s.zeroCount)

/-- The estimate falls back on linear counting: the raw estimate is at most `2.5 m` and some
register is zero. -/
def LinearCounted (s : DistinctSketch) : Prop :=
  s.rawEstimate ≤ 2.5 * s.registers.size ∧ 0 < s.zeroCount

/-- Every register of one sketch is at most the matching register of another of as many. -/
def Below (s t : DistinctSketch) : Prop :=
  s.registers.size = t.registers.size ∧
    ∀ i (hs : i < s.registers.size) (ht : i < t.registers.size), s.registers[i] ≤ t.registers[i]

/-! ## The two estimators -/

lemma foldl_add_weight (l : List UInt8) (init : ℝ) :
    l.foldl (fun acc r => acc + (2 : ℝ) ^ (-(r.toNat : ℤ))) init = init + (l.map weight).sum := by
  induction l generalizing init with
  | nil => simp
  | cons r l ih =>
    rw [List.foldl_cons, ih, List.map_cons, List.sum_cons, weight]
    ring

lemma size_filter_eq_zeroCount (s : DistinctSketch) :
    (s.registers.filter (· == 0)).size = s.zeroCount := by
  rw [zeroCount, List.count_eq_countP, List.countP_eq_length_filter, ← Array.toList_filter,
    Array.length_toList]

lemma exactEstimate_eq_ite (s : DistinctSketch) :
    s.exactEstimate = if s.rawEstimate ≤ 2.5 * s.registers.size ∧ 0 < s.zeroCount then
      s.linearEstimate else s.rawEstimate := by
  have hsum : s.registers.foldl (fun acc r => acc + (2 : ℝ) ^ (-(r.toNat : ℤ))) (-0.0) =
      s.weightSum := by
    rw [← Array.foldl_toList, foldl_add_weight, weightSum]
    norm_num
  have hone : (1.0 : ℝ) = 1 := by norm_num
  simp only [exactEstimate, estimateIn, hsum, size_filter_eq_zeroCount, hone, Bool.and_eq_true,
    decide_eq_true_eq, rawEstimate, linearEstimate]
  rfl

/-- Under the rule for linear counting the exact estimate is linear counting. -/
lemma exactEstimate_of_linearCounted {s : DistinctSketch} (h : s.LinearCounted) :
    s.exactEstimate = s.linearEstimate := by
  rw [exactEstimate_eq_ite]
  exact if_pos h

/-- Outside the rule for linear counting the exact estimate is the raw estimate. -/
lemma exactEstimate_of_not_linearCounted {s : DistinctSketch} (h : ¬s.LinearCounted) :
    s.exactEstimate = s.rawEstimate := by
  rw [exactEstimate_eq_ite]
  exact if_neg h

lemma le_max_left_uInt8 (a b : UInt8) : a ≤ max a b := by
  simp only [max, UInt8.le_iff_toNat_le]
  split_ifs with h
  · exact UInt8.le_iff_toNat_le.mp h
  · exact Nat.le_refl _

lemma weight_le {a b : UInt8} (hab : a ≤ b) : weight b ≤ weight a := by
  apply zpow_le_zpow_right₀ one_le_two
  have : a.toNat ≤ b.toNat := UInt8.le_iff_toNat_le.mp hab
  omega

/-- Raising registers lowers the sum of their weights. -/
lemma sum_weight_le {l₁ l₂ : List UInt8} (h : List.Forall₂ (· ≤ ·) l₁ l₂) :
    (l₂.map weight).sum ≤ (l₁.map weight).sum := by
  induction h with
  | nil => simp
  | cons hab _ ih =>
    simp only [List.map_cons, List.sum_cons]
    exact add_le_add (weight_le hab) ih

/-- Raising registers leaves no more of them zero. -/
lemma count_zero_le {l₁ l₂ : List UInt8} (h : List.Forall₂ (· ≤ ·) l₁ l₂) :
    l₂.count 0 ≤ l₁.count 0 := by
  induction h with
  | nil => simp
  | @cons a b _ _ hab _ ih =>
    simp only [List.count_cons, beq_iff_eq]
    -- a register that is zero above was zero below
    by_cases hb : b = 0
    · have ha : a = 0 := UInt8.le_antisymm (hb ▸ hab) UInt8.zero_le
      simp only [hb, ha, if_true]
      omega
    · simp only [hb, if_false]
      split_ifs <;> omega

lemma weightSum_pos (s : DistinctSketch) (h : 0 < s.registers.size) : 0 < s.weightSum := by
  apply List.sum_pos
  · simp only [List.mem_map]
    rintro _ ⟨r, -, rfl⟩
    exact zpow_pos two_pos _
  · exact List.ne_nil_of_length_pos (by simpa using h)

/-! ## Raising registers -/

namespace Below

variable {s t u : DistinctSketch}

lemma refl (s : DistinctSketch) : s.Below s := ⟨rfl, fun _ _ _ => UInt8.le_refl _⟩

lemma trans (hst : s.Below t) (htu : t.Below u) : s.Below u :=
  ⟨hst.1.trans htu.1, fun i hs hu =>
    UInt8.le_trans (hst.2 i hs (hst.1 ▸ hs)) (htu.2 i (hst.1 ▸ hs) hu)⟩

/-- The registers, read as lists, are below one another place by place. -/
lemma forall₂ (h : s.Below t) :
    List.Forall₂ (· ≤ ·) s.registers.toList t.registers.toList := by
  rw [List.forall₂_iff_get]
  refine ⟨by simp [h.1], fun i hs ht => ?_⟩
  simpa using h.2 i (by simpa using hs) (by simpa using ht)

lemma weightSum_le (h : s.Below t) : t.weightSum ≤ s.weightSum := sum_weight_le h.forall₂

lemma zeroCount_le (h : s.Below t) : t.zeroCount ≤ s.zeroCount := count_zero_le h.forall₂

/-- Raising registers raises the raw estimate. -/
lemma rawEstimate_le (h : s.Below t) : s.rawEstimate ≤ t.rawEstimate := by
  unfold rawEstimate
  rw [h.1]
  rcases Nat.eq_zero_or_pos t.registers.size with hm | hm
  · simp [hm]
  have hpos : (0 : ℝ) < t.registers.size := by exact_mod_cast hm
  apply div_le_div_of_nonneg_left _ (weightSum_pos t hm) h.weightSum_le
  positivity

/-- A sketch above one that does not fall back on linear counting does not either. -/
lemma linearCounted (h : s.Below t) (ht : t.LinearCounted) : s.LinearCounted := by
  refine ⟨?_, lt_of_lt_of_le ht.2 h.zeroCount_le⟩
  rw [h.1]
  exact h.rawEstimate_le.trans ht.1

/-- Raising registers, some still zero, raises the linear-counting estimate. -/
lemma linearEstimate_le (h : s.Below t) (ht : 0 < t.zeroCount) :
    s.linearEstimate ≤ t.linearEstimate := by
  unfold linearEstimate
  rw [h.1]
  have hm : (0 : ℝ) < t.registers.size := by
    have : t.zeroCount ≤ t.registers.toList.length := List.count_le_length
    simp only [Array.length_toList] at this
    exact_mod_cast (show 0 < t.registers.size by omega)
  have hzt : (0 : ℝ) < t.zeroCount := by exact_mod_cast ht
  have hz : (t.zeroCount : ℝ) ≤ s.zeroCount := by exact_mod_cast h.zeroCount_le
  apply mul_le_mul_of_nonneg_left _ hm.le
  exact Real.log_le_log (div_pos hm (hzt.trans_le hz)) (div_le_div_of_nonneg_left hm.le hzt hz)

end Below

/-- Merging raises every register. -/
lemma below_merge? {s u t : DistinctSketch} (h : s.merge? u = some t) : s.Below t := by
  unfold merge? at h
  split_ifs at h with hsame
  cases h
  simp only [Bool.and_eq_true, beq_iff_eq] at hsame
  refine ⟨by simp [hsame.2], fun i hs ht => ?_⟩
  simp only [Array.getElem_zipWith]
  exact le_max_left_uInt8 _ _

/-- Inserting a text raises its register and keeps the others. -/
lemma below_insert (s : DistinctSketch) (text : String) : s.Below (s.insert text) := by
  refine ⟨(size_registers_insert s text).symm, fun i hs ht => ?_⟩
  simp only [insert_eq_modify, Array.getElem_modify]
  split_ifs
  · exact le_max_left_uInt8 _ _
  · exact UInt8.le_refl _

/-- Inserting texts keeps the precision. -/
lemma precision_foldl_insert (s : DistinctSketch) (texts : List String) :
    (texts.foldl insert s).precision = s.precision := by
  induction texts generalizing s with
  | nil => rfl
  | cons text texts ih => rw [List.foldl_cons, ih, precision_insert]

/-- Inserting texts in turn raises registers. -/
lemma below_foldl_insert (s : DistinctSketch) (texts : List String) :
    s.Below (texts.foldl insert s) := by
  induction texts generalizing s with
  | nil => exact Below.refl s
  | cons text texts ih => exact (below_insert s text).trans (ih (s.insert text))

/-- When every register of `s` is at most the matching one of `t`: `t` falls back on linear
counting only if `s` does, and when both use the same estimator the estimate of `s` is at most
that of `t`.  Merges and inserts raise registers so. -/
theorem exactEstimate_mono_of_same_rule (s t : DistinctSketch) (hst : s.Below t) :
    (t.LinearCounted → s.LinearCounted) ∧
    ((s.LinearCounted → t.LinearCounted) → s.exactEstimate ≤ t.exactEstimate) ∧
    (∀ u w, s.merge? u = some w → s.Below w) ∧
    ∀ texts : List String, s.Below (texts.foldl insert s) := by
  refine ⟨hst.linearCounted, fun hsame => ?_, fun _ _ => below_merge?, below_foldl_insert s⟩
  by_cases hs : s.LinearCounted
  · rw [exactEstimate_of_linearCounted hs, exactEstimate_of_linearCounted (hsame hs)]
    exact hst.linearEstimate_le (hsame hs).2
  · rw [exactEstimate_of_not_linearCounted hs,
      exactEstimate_of_not_linearCounted (fun ht => hs (hst.linearCounted ht))]
    exact hst.rawEstimate_le

/-! ### Sixteen texts in a sketch of precision 4

The `k`-th of the texts below takes register `k` with rank one.  `slots_four` has the kernel
evaluate the sixteen hashes one after the other, each on its own so that none holds the memory
of the others; each slot is then read off that list. -/

lemma empty_four : empty 4 = ⟨4, Array.replicate 16 0⟩ := rfl

lemma slots_four :
    ["u", "d", "c", "b", "v", "z", "1", "7", "q", "35", "h", "83", "a", "i", "5", "70"].map
        (slot 4) =
      [(0, 1), (1, 1), (2, 1), (3, 1), (4, 1), (5, 1), (6, 1), (7, 1), (8, 1), (9, 1), (10, 1),
        (11, 1), (12, 1), (13, 1), (14, 1), (15, 1)] := by
  simp only [List.map_cons, List.map_nil, List.cons.injEq, and_true]
  and_intros
  all_goals decide +kernel

lemma slot_u : slot 4 "u" = (0, 1) := Option.some.inj (congrArg (·[0]?) slots_four)
lemma slot_d : slot 4 "d" = (1, 1) := Option.some.inj (congrArg (·[1]?) slots_four)
lemma slot_c : slot 4 "c" = (2, 1) := Option.some.inj (congrArg (·[2]?) slots_four)
lemma slot_b : slot 4 "b" = (3, 1) := Option.some.inj (congrArg (·[3]?) slots_four)
lemma slot_v : slot 4 "v" = (4, 1) := Option.some.inj (congrArg (·[4]?) slots_four)
lemma slot_z : slot 4 "z" = (5, 1) := Option.some.inj (congrArg (·[5]?) slots_four)
lemma slot_1 : slot 4 "1" = (6, 1) := Option.some.inj (congrArg (·[6]?) slots_four)
lemma slot_7 : slot 4 "7" = (7, 1) := Option.some.inj (congrArg (·[7]?) slots_four)
lemma slot_q : slot 4 "q" = (8, 1) := Option.some.inj (congrArg (·[8]?) slots_four)
lemma slot_35 : slot 4 "35" = (9, 1) := Option.some.inj (congrArg (·[9]?) slots_four)
lemma slot_h : slot 4 "h" = (10, 1) := Option.some.inj (congrArg (·[10]?) slots_four)
lemma slot_83 : slot 4 "83" = (11, 1) := Option.some.inj (congrArg (·[11]?) slots_four)
lemma slot_a : slot 4 "a" = (12, 1) := Option.some.inj (congrArg (·[12]?) slots_four)
lemma slot_i : slot 4 "i" = (13, 1) := Option.some.inj (congrArg (·[13]?) slots_four)
lemma slot_5 : slot 4 "5" = (14, 1) := Option.some.inj (congrArg (·[14]?) slots_four)
lemma slot_70 : slot 4 "70" = (15, 1) := Option.some.inj (congrArg (·[15]?) slots_four)

/-- One text raises one register of an empty precision-4 sketch; both sketches fall back on
linear counting, and the estimate grows from nothing. -/
theorem exactEstimate_mono_of_same_rule_oneText :
    (empty 4).Below ((empty 4).insert "u") ∧
    (empty 4).exactEstimate ≤ ((empty 4).insert "u").exactEstimate := by
  have hst := below_insert (empty 4) "u"
  have ht : ((empty 4).insert "u").registers = #[1, 0, 0, 0, 0, 0, 0, 0, 0, 0, 0, 0, 0, 0, 0, 0] := by
    simp only [insert_eq_modify, empty_four, slot_u]
    decide
  refine ⟨hst, (exactEstimate_mono_of_same_rule _ _ hst).2.1 fun _ => ⟨?_, ?_⟩⟩
  · rw [rawEstimate, weightSum, ht]
    norm_num
  · rw [zeroCount, ht]
    decide

/-- Fifteen texts that land in fifteen different registers of a precision-4 sketch, each with
rank one, leaving the last register zero. -/
def fifteenOfSixteen : DistinctSketch :=
  ["u", "d", "c", "b", "v", "z", "1", "7", "q", "35", "h", "83", "a", "i", "5"].foldl insert (empty 4)

lemma registers_fifteenOfSixteen :
    fifteenOfSixteen.registers = #[1, 1, 1, 1, 1, 1, 1, 1, 1, 1, 1, 1, 1, 1, 1, 0] := by
  simp only [fifteenOfSixteen, List.foldl_cons, List.foldl_nil, insert_eq_modify, empty_four,
    slot_u, slot_d, slot_c, slot_b, slot_v, slot_z, slot_1, slot_7, slot_q, slot_35, slot_h,
    slot_83, slot_a, slot_i, slot_5]
  decide

/-- The text `70` raises the last register of `fifteenOfSixteen` to one. -/
lemma registers_fifteenOfSixteen_insert :
    (fifteenOfSixteen.insert "70").registers = Array.replicate 16 1 := by
  have hp : fifteenOfSixteen.precision = 4 := by
    rw [fifteenOfSixteen, precision_foldl_insert]
    rfl
  rw [insert_eq_modify, hp, slot_70, registers_fifteenOfSixteen]
  decide

/-- Raising the last zero register of a precision-4 sketch whose other registers are one ends
linear counting and lowers the estimate, from `16 ln 16` to about 21.6. -/
theorem exactEstimate_falls_when_linear_counting_ends :
    fifteenOfSixteen.Below (fifteenOfSixteen.insert "70") ∧
    (fifteenOfSixteen.insert "70").exactEstimate < fifteenOfSixteen.exactEstimate := by
  refine ⟨below_insert _ _, ?_⟩
  have hs := registers_fifteenOfSixteen
  have ht := registers_fifteenOfSixteen_insert
  have hws : fifteenOfSixteen.weightSum = 17 / 2 := by norm_num [weightSum, hs]
  have hwt : (fifteenOfSixteen.insert "70").weightSum = 8 := by norm_num [weightSum, ht]
  have hzs : fifteenOfSixteen.zeroCount = 1 := by rw [zeroCount, hs]; decide
  have hzt : (fifteenOfSixteen.insert "70").zeroCount = 0 := by rw [zeroCount, ht]; decide
  have hms : fifteenOfSixteen.registers.size = 16 := by rw [hs]; rfl
  have hmt : (fifteenOfSixteen.insert "70").registers.size = 16 := by rw [ht]; rfl
  -- below, one register is zero and the raw estimate is small: linear counting
  have hlin : fifteenOfSixteen.LinearCounted := by
    refine ⟨?_, by rw [hzs]; exact Nat.one_pos⟩
    rw [rawEstimate, hws, hms]
    norm_num
  -- above, no register is zero: the raw estimate
  have hraw : ¬(fifteenOfSixteen.insert "70").LinearCounted := fun h => by
    have := h.2
    rw [hzt] at this
    exact Nat.lt_irrefl 0 this
  have hlog : 2 < Real.log 16 := by
    rw [show (16 : ℝ) = 2 ^ 4 by norm_num, Real.log_pow]
    have := Real.log_two_gt_d9
    push_cast
    linarith
  rw [exactEstimate_of_linearCounted hlin, exactEstimate_of_not_linearCounted hraw, linearEstimate,
    rawEstimate, hwt, hmt, hms, hzs]
  norm_num
  linarith

end DataQuality.DistinctSketch
