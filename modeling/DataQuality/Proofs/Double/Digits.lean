import Mathlib
import DataQuality.Proofs.Double.Nearest
import DataQuality.Decimal.Read

/-!
# Shortest digits read back

`Dyadic.shortest` searches grids of `1, 2, …, 17` significant digits for a decimal inside the
rounding interval of a double.  The search never runs dry: the grid of seventeen digits has a
spacing below the width of the interval, so one of the two grid points around the value lies in
it (`Dyadic.holds_at_seventeen`), and the decimal the search returns, trimmed of trailing zeros,
is still inside (`Dyadic.shortest_holds`).  Reading a decimal inside the interval back rounds
to the double again (`ofDecimal_eq_of_holds`), which is what makes the printed text of a double
a faithful record of it.

The grid is placed from the decimal exponent of the value, which is guessed from its binary
exponent and corrected: the correction only ever places the exponent at or below the true one
(`Dyadic.ten_zpow_decimalExponent_le`), which is all the search needs.
-/

namespace DataQuality.Decimal

/-! ## Exact comparisons -/

section Compare

lemma ten_zpow_eq_div (e : Int) : (10 : ℚ) ^ e = 10 ^ e.toNat / 10 ^ (-e).toNat := by
  conv_lhs => rw [← Int.toNat_sub_toNat_neg e]
  rw [zpow_sub₀ (by norm_num), zpow_natCast, zpow_natCast]

/-- Both sides `compareScaled` compares are `a · 10 ^ s` and `b · 2 ^ t` times one positive
factor that clears the negative powers. -/
lemma compareScaled_sides (a b : Nat) (s t : Int) :
    ((a * 10 ^ s.toNat * 2 ^ (-t).toNat : Nat) : ℚ) =
        a * 10 ^ s * (10 ^ (-s).toNat * 2 ^ (-t).toNat) ∧
      ((b * 2 ^ t.toNat * 10 ^ (-s).toNat : Nat) : ℚ) =
        b * 2 ^ t * (10 ^ (-s).toNat * 2 ^ (-t).toNat) := by
  rw [ten_zpow_eq_div, two_zpow_eq_div]
  push_cast
  constructor <;> field_simp

variable {a b : Nat} {s t : Int}

lemma compareScaled_eq_lt_iff :
    compareScaled a s b t = .lt ↔ (a : ℚ) * 10 ^ s < b * 2 ^ t := by
  obtain ⟨ha, hb⟩ := compareScaled_sides a b s t
  rw [compareScaled, Nat.pow_eq, Nat.pow_eq, Nat.pow_eq, Nat.pow_eq, Nat.compare_eq_lt,
    ← Nat.cast_lt (α := ℚ), ha, hb]
  exact mul_lt_mul_iff_of_pos_right (by positivity)

lemma compareScaled_eq_eq_iff :
    compareScaled a s b t = .eq ↔ (a : ℚ) * 10 ^ s = b * 2 ^ t := by
  obtain ⟨ha, hb⟩ := compareScaled_sides a b s t
  rw [compareScaled, Nat.pow_eq, Nat.pow_eq, Nat.pow_eq, Nat.pow_eq, Nat.compare_eq_eq,
    ← Nat.cast_inj (R := ℚ), ha, hb]
  exact mul_left_inj' (by positivity)

lemma compareScaled_eq_gt_iff :
    compareScaled a s b t = .gt ↔ (b : ℚ) * 2 ^ t < a * 10 ^ s := by
  obtain ⟨ha, hb⟩ := compareScaled_sides a b s t
  rw [compareScaled, Nat.pow_eq, Nat.pow_eq, Nat.pow_eq, Nat.pow_eq, Nat.compare_eq_gt,
    ← Nat.cast_lt (α := ℚ), ha, hb]
  exact mul_lt_mul_iff_of_pos_right (by positivity)

lemma pow10AtMost_iff {e : Int} {m : Nat} {q : Int} :
    pow10AtMost e m q = true ↔ (10 : ℚ) ^ e ≤ m * 2 ^ q := by
  rw [pow10AtMost, bne_iff_ne, ne_eq, compareScaled_eq_gt_iff, Nat.cast_one, one_mul, not_lt]

/-- The lower end test of `Interval.contains`. -/
lemma aboveLow_iff (closed : Bool) (l : Nat) (q : Int) (c : Nat) (s : Int) :
    (match compareScaled c s l q with
      | .gt => true
      | .eq => closed
      | .lt => false) = true ↔
      (l : ℚ) * 2 ^ q < c * 10 ^ s ∨ closed = true ∧ (l : ℚ) * 2 ^ q = c * 10 ^ s := by
  rcases h : compareScaled c s l q
  · have hlt := compareScaled_eq_lt_iff.mp h
    simp only [Bool.false_eq_true, false_iff, not_or, not_and]
    exact ⟨not_lt.mpr hlt.le, fun _ => hlt.ne'⟩
  · have heq := compareScaled_eq_eq_iff.mp h
    simp [heq]
  · have hgt := compareScaled_eq_gt_iff.mp h
    simp [hgt]

/-- The upper end test of `Interval.contains`. -/
lemma belowHigh_iff (closed : Bool) (h : Nat) (q : Int) (c : Nat) (s : Int) :
    (match compareScaled c s h q with
      | .lt => true
      | .eq => closed
      | .gt => false) = true ↔
      (c : ℚ) * 10 ^ s < h * 2 ^ q ∨ closed = true ∧ (c : ℚ) * 10 ^ s = h * 2 ^ q := by
  rcases hc : compareScaled c s h q
  · have hlt := compareScaled_eq_lt_iff.mp hc
    simp [hlt]
  · have heq := compareScaled_eq_eq_iff.mp hc
    simp [heq]
  · have hgt := compareScaled_eq_gt_iff.mp hc
    simp only [Bool.false_eq_true, false_iff, not_or, not_and]
    exact ⟨not_lt.mpr hgt.le, fun _ => hgt.ne'⟩

/-- `Interval.contains` decides `Interval.Holds` at a decimal. -/
theorem Interval.contains_iff (i : Interval) (c : Nat) (s : Int) :
    i.contains c s = true ↔ i.Holds (c * 10 ^ s) := by
  rw [Interval.contains, Bool.and_eq_true, Interval.Holds]
  exact and_congr (aboveLow_iff _ _ _ _ _) (belowHigh_iff _ _ _ _ _)

end Compare

/-! ## The decimal exponent -/

section Exponent

variable {m : Nat} {q : Int}

/-- Raising keeps the guess within four of an exponent whose power fits below the value. -/
lemma raiseExponent_spec :
    ∀ {fuel : Nat} {e : Int}, (10 : ℚ) ^ (e - 4) ≤ m * 2 ^ q →
      (10 : ℚ) ^ (raiseExponent m q fuel e - 4) ≤ m * 2 ^ q
  | 0, _, h => h
  | fuel + 1, e, h => by
    rw [raiseExponent]
    split_ifs with hup
    · apply raiseExponent_spec
      calc (10 : ℚ) ^ (e + 1 - 4) ≤ 10 ^ (e + 1) := zpow_le_zpow_right₀ (by norm_num) (by omega)
        _ ≤ m * 2 ^ q := pow10AtMost_iff.mp hup
    · exact h

/-- Lowering from a guess at most `fuel` above the exponent ends on a power below the value. -/
lemma lowerExponent_spec :
    ∀ {fuel : Nat} {e : Int}, (10 : ℚ) ^ (e - fuel) ≤ m * 2 ^ q →
      (10 : ℚ) ^ lowerExponent m q fuel e ≤ m * 2 ^ q
  | 0, e, h => by simpa [lowerExponent] using h
  | fuel + 1, e, h => by
    rw [lowerExponent]
    split_ifs with hdown
    · exact pow10AtMost_iff.mp hdown
    · apply lowerExponent_spec
      rwa [show e - 1 - (fuel : Int) = e - ((fuel + 1 : Nat) : Int) by push_cast; ring]

/-- Ten cubed is below two to the tenth, so a decimal exponent `j` with `10 j ≤ 3 k` gives a
power of ten below `2 ^ k`. -/
lemma ten_pow_le_two_pow {j k : Nat} (h : 10 * j ≤ 3 * k) : 10 ^ j ≤ 2 ^ k := by
  rw [← Nat.pow_le_pow_iff_left (n := 10) (by norm_num)]
  calc (10 ^ j) ^ 10 = 10 ^ (10 * j) := by rw [← pow_mul, mul_comm]
    _ ≤ 10 ^ (3 * k) := Nat.pow_le_pow_right (by norm_num) h
    _ = (10 ^ 3) ^ k := pow_mul 10 3 k
    _ ≤ (2 ^ 10) ^ k := Nat.pow_le_pow_left (by norm_num) k
    _ = (2 ^ k) ^ 10 := by rw [← pow_mul, ← pow_mul, mul_comm]

/-- Two to the 93rd is below ten to the 28th, so `28 k ≤ 93 j` gives `2 ^ k ≤ 10 ^ j`. -/
lemma two_pow_le_ten_pow {j k : Nat} (h : 28 * k ≤ 93 * j) : 2 ^ k ≤ 10 ^ j := by
  rw [← Nat.pow_le_pow_iff_left (n := 93) (by norm_num)]
  calc (2 ^ k) ^ 93 = (2 ^ 93) ^ k := by rw [← pow_mul, ← pow_mul, mul_comm]
    _ ≤ (10 ^ 28) ^ k := Nat.pow_le_pow_left (by norm_num) k
    _ = 10 ^ (28 * k) := (pow_mul 10 28 k).symm
    _ ≤ 10 ^ (93 * j) := Nat.pow_le_pow_right (by norm_num) h
    _ = (10 ^ j) ^ 93 := by rw [← pow_mul, mul_comm]

/-- The guess `⌊ℓ · 0.30103⌋` of the decimal exponent of `2 ^ ℓ` is at most four too high:
`0.30103` exceeds `log₁₀ 2` by less than `10⁻⁵`, far too little to matter over the exponents
of doubles. -/
lemma ten_zpow_guess_le {g l : Int} (hg : g * 100000 ≤ l * 30103) (hl : -2000 ≤ l ∧ l ≤ 2000) :
    (10 : ℚ) ^ (g - 4) ≤ 2 ^ l := by
  rcases le_or_gt 0 l with hl₀ | hl₀
  · rcases le_or_gt 0 (g - 4) with hg₀ | hg₀
    · -- both exponents are natural numbers
      have hnat : 10 ^ (g - 4).toNat ≤ 2 ^ l.toNat := ten_pow_le_two_pow (by omega)
      rw [← Int.toNat_of_nonneg hg₀, ← Int.toNat_of_nonneg hl₀, zpow_natCast, zpow_natCast]
      exact_mod_cast hnat
    · exact (zpow_le_one_of_nonpos₀ (by norm_num) hg₀.le).trans (one_le_zpow₀ (by norm_num) hl₀)
  · -- both exponents are negative: compare the reciprocals
    have hnat : 2 ^ (-l).toNat ≤ 10 ^ (4 - g).toNat := two_pow_le_ten_pow (by omega)
    have hten : (10 : ℚ) ^ (g - 4) = ((10 : ℚ) ^ (4 - g).toNat)⁻¹ := by
      rw [← zpow_natCast, Int.toNat_of_nonneg (by omega), ← zpow_neg, neg_sub]
    have htwo : (2 : ℚ) ^ l = ((2 : ℚ) ^ (-l).toNat)⁻¹ := by
      rw [← zpow_natCast, Int.toNat_of_nonneg (by omega), zpow_neg, inv_inv]
    rw [hten, htwo]
    exact inv_anti₀ (by positivity) (by exact_mod_cast hnat)

lemma Dyadic.value_pos {d : Dyadic} (hm : 0 < d.mantissa) : 0 < d.value := by
  unfold Dyadic.value
  have : (0 : ℚ) < d.mantissa := by exact_mod_cast hm
  positivity

/-- The decimal exponent is never above the true one: its power of ten fits below the value. -/
theorem Dyadic.ten_zpow_decimalExponent_le {d : Dyadic} (hd : d.Finite) :
    (10 : ℚ) ^ d.decimalExponent ≤ d.value := by
  obtain ⟨hm, hshape⟩ := hd
  have hlog : d.mantissa.log2 ≤ 52 := by
    have hm53 : d.mantissa < 2 ^ 53 := by rcases hshape with h | h <;> omega
    have := (Nat.log2_lt (by omega)).mpr hm53
    omega
  -- the binary exponent `ℓ` of the value: `2 ^ ℓ ≤ m · 2 ^ q`
  have hbin : (2 : ℚ) ^ ((d.mantissa.log2 : Int) + d.exponent) ≤ d.value := by
    rw [zpow_add₀ two_ne_zero, zpow_natCast, Dyadic.value]
    exact mul_le_mul_of_nonneg_right (by exact_mod_cast Nat.log2_self_le (by omega))
      (zpow_pos two_pos _).le
  unfold Dyadic.decimalExponent
  apply lowerExponent_spec
  rw [Nat.cast_ofNat]
  apply raiseExponent_spec
  refine le_trans (ten_zpow_guess_le (Int.ediv_mul_le _ (by norm_num)) ?_) hbin
  rcases hshape with h | h <;> omega

end Exponent

/-! ## The grid search -/

section Search

lemma Dyadic.floorAt_eq (d : Dyadic) (s : Int) : d.floorAt s = ⌊d.value / 10 ^ s⌋₊ := by
  rw [Dyadic.floorAt, ← Nat.floor_div_eq_div (K := ℚ)]
  congr 1
  rw [Dyadic.value, ten_zpow_eq_div, two_zpow_eq_div]
  simp only [Nat.pow_eq]
  push_cast
  field_simp

/-- The grid point at or below the value. -/
lemma Dyadic.floorAt_le {d : Dyadic} (hm : 0 < d.mantissa) (s : Int) :
    (d.floorAt s : ℚ) * 10 ^ s ≤ d.value := by
  rw [d.floorAt_eq, ← le_div_iff₀ (zpow_pos (by norm_num) _)]
  exact Nat.floor_le (div_nonneg (Dyadic.value_pos hm).le (zpow_pos (by norm_num) _).le)

/-- The grid point above it lies strictly above the value. -/
lemma Dyadic.lt_floorAt_succ (d : Dyadic) (s : Int) :
    d.value < ((d.floorAt s : ℚ) + 1) * 10 ^ s := by
  rw [d.floorAt_eq, ← div_lt_iff₀ (zpow_pos (by norm_num) _)]
  exact Nat.lt_floor_add_one _

lemma Dyadic.nearer_cases (d : Dyadic) (c : Nat) (s : Int) :
    d.nearer c s = c ∨ d.nearer c s = c + 1 := by
  unfold Dyadic.nearer
  split
  · exact .inl rfl
  · exact .inr rfl
  · split_ifs
    · exact .inl rfl
    · exact .inr rfl

/-- Whatever the search returns lies in the interval. -/
lemma Dyadic.searchGrids_contains {d : Dyadic} {i : Interval} {top : Int} {x : Scientific} :
    ∀ {fuel n : Nat}, d.searchGrids i top fuel n = some x → i.contains x.digits x.exponent = true
  | 0, _, h => by simp [Dyadic.searchGrids] at h
  | fuel + 1, n, h => by
    unfold Dyadic.searchGrids at h
    dsimp only at h
    -- one case per verdict on the two grid points around the value
    split at h
    · rename_i hlow hhigh
      cases h
      rcases d.nearer_cases (d.floorAt (top - n + 1)) (top - n + 1) with hc | hc <;> rw [hc]
      · exact hlow
      · exact hhigh
    · rename_i hlow _
      cases h
      exact hlow
    · rename_i _ hhigh
      cases h
      exact hhigh
    · exact Dyadic.searchGrids_contains h

/-- The search succeeds when some grid within its reach has a grid point in the interval. -/
lemma Dyadic.searchGrids_isSome {d : Dyadic} {i : Interval} {top : Int} {k : Nat}
    (hk : i.contains (d.floorAt (top - k + 1)) (top - k + 1) = true ∨
      i.contains (d.floorAt (top - k + 1) + 1) (top - k + 1) = true) :
    ∀ {fuel n : Nat}, n ≤ k → k < n + fuel → (d.searchGrids i top fuel n).isSome
  | 0, _, _, h => by omega
  | fuel + 1, n, hn, hfuel => by
    unfold Dyadic.searchGrids
    dsimp only
    rcases hn.lt_or_eq with hn | rfl
    · -- the grid of `n` digits may fail; the next one is still within reach
      split
      · rfl
      · rfl
      · rfl
      · exact Dyadic.searchGrids_isSome hk (by omega) (by omega)
    · split <;> simp_all

/-- On the grid of seventeen significant digits one of the two points around the value lies
in its interval: the spacing `10 ^ s` is below `m · 2 ^ q / 10 ^ 16`, which is less than the
width `(1/2 + gap below) · 2 ^ q` of the interval. -/
theorem Dyadic.holds_at_seventeen {d : Dyadic} (hd : d.Finite) {s : Int}
    (htop : (10 : ℚ) ^ (s + 16) ≤ d.value) :
    d.interval.Holds (d.floorAt s * 10 ^ s) ∨ d.interval.Holds ((d.floorAt s + 1 : Nat) * 10 ^ s) := by
  obtain ⟨hm, hshape⟩ := hd
  have hq : (0 : ℚ) < 2 ^ d.exponent := zpow_pos two_pos _
  have hg : (0 : ℚ) < 10 ^ s := zpow_pos (by norm_num) _
  have hfloor := d.floorAt_le hm s
  have hsucc := d.lt_floorAt_succ s
  -- the mantissa is small enough that `10 ^ 16` grid steps fit below the upper half of the gap
  have hwidth : (d.mantissa : ℚ) < (d.gapBelow + 1 / 2) * 10 ^ 16 := by
    unfold Dyadic.gapBelow
    split_ifs with hb
    · rw [hb.1]
      norm_num
    · have hm53 : d.mantissa < 2 ^ 53 := by rcases hshape with h | h <;> omega
      have : (d.mantissa : ℚ) < 2 ^ 53 := by exact_mod_cast hm53
      linarith
  have hstep : (10 : ℚ) ^ s < (d.gapBelow + 1 / 2) * 2 ^ d.exponent := by
    have h16 : (10 : ℚ) ^ (s + 16) = 10 ^ s * 10 ^ 16 := by
      rw [zpow_add₀ (by norm_num)]
      norm_num
    have hbelow : (10 : ℚ) ^ s * 10 ^ 16 < (d.gapBelow + 1 / 2) * 2 ^ d.exponent * 10 ^ 16 :=
      calc (10 : ℚ) ^ s * 10 ^ 16 ≤ d.mantissa * 2 ^ d.exponent := by rw [← h16]; exact htop
        _ < (d.gapBelow + 1 / 2) * 10 ^ 16 * 2 ^ d.exponent := mul_lt_mul_of_pos_right hwidth hq
        _ = (d.gapBelow + 1 / 2) * 2 ^ d.exponent * 10 ^ 16 := by ring
    exact lt_of_mul_lt_mul_right hbelow (by norm_num)
  have hgap0 : 0 < d.gapBelow := by
    unfold Dyadic.gapBelow
    split_ifs <;> norm_num
  have hβ : 0 < d.gapBelow * 2 ^ d.exponent := mul_pos hgap0 hq
  -- the ends of the interval, measured from the value
  have hlow : (d.interval.low : ℚ) * 2 ^ d.interval.scale = d.value - d.gapBelow * 2 ^ d.exponent := by
    rw [d.interval_low_eq hm, Dyadic.value]
    ring
  have hhigh : (d.interval.high : ℚ) * 2 ^ d.interval.scale = d.value + 2 ^ d.exponent / 2 := by
    rw [d.interval_high_eq, Dyadic.value]
    ring
  rcases lt_or_ge (d.value - d.floorAt s * 10 ^ s) (d.gapBelow * 2 ^ d.exponent) with hnear | hfar
  · -- the point below is within the gap below the value
    left
    refine ⟨.inl ?_, .inl ?_⟩
    · rw [hlow]
      linarith
    · rw [hhigh]
      linarith
  · -- the point above is less than a step above, and a step is below the gap above
    right
    push_cast
    refine ⟨.inl ?_, .inl ?_⟩
    · rw [hlow]
      linarith
    · rw [hhigh]
      linarith

end Search

/-! ## Trimming and reading back -/

section ReadBack

/-- The rational a decimal stands for. -/
def Scientific.value (x : Scientific) : ℚ := x.digits * 10 ^ x.exponent

/-- Dropping trailing zeros keeps the value. -/
lemma Scientific.trim_value : ∀ (x : Scientific) (fuel : Nat), (x.trim fuel).value = x.value
  | x, 0 => rfl
  | x, fuel + 1 => by
    rw [Scientific.trim]
    split_ifs with h
    · rw [Scientific.trim_value]
      obtain ⟨d, hd⟩ : 10 ∣ x.digits := Nat.dvd_of_mod_eq_zero h.2
      simp only [Scientific.value, hd, Nat.mul_div_cancel_left _ (by norm_num : 0 < 10)]
      rw [zpow_add₀ (by norm_num)]
      push_cast
      ring
    · rfl

/-- The shortest decimal of a nonzero finite double lies in its rounding interval. -/
theorem Dyadic.shortest_holds {d : Dyadic} (hd : d.Finite) : d.interval.Holds d.shortest.value := by
  have htop := Dyadic.ten_zpow_decimalExponent_le hd
  -- the grid of seventeen digits is the last one searched, and it always succeeds
  have hfound : (d.searchGrids d.interval d.decimalExponent 17 1).isSome := by
    have h17 := Dyadic.holds_at_seventeen hd (s := d.decimalExponent - ((17 : Nat) : Int) + 1)
      (by rwa [show d.decimalExponent - ((17 : Nat) : Int) + 1 + 16 = d.decimalExponent by omega])
    rw [← Interval.contains_iff, ← Interval.contains_iff] at h17
    exact Dyadic.searchGrids_isSome h17 (by omega) (by omega)
  obtain ⟨x, hx⟩ := Option.isSome_iff_exists.mp hfound
  have hm : d.mantissa ≠ 0 := by have := hd.1; omega
  rw [Dyadic.shortest, if_neg hm]
  simp only [hx, Option.getD_some, Scientific.trim_value]
  exact (Interval.contains_iff _ _ _).mp (Dyadic.searchGrids_contains hx)

/-- The number of decimal digits of a positive `c` places it between two powers of ten. -/
lemma ten_pow_length_bounds {c : Nat} (hc : 0 < c) :
    10 ^ ((toString c).length - 1) ≤ c ∧ c < 10 ^ (toString c).length := by
  show 10 ^ ((Nat.repr c).length - 1) ≤ c ∧ c < 10 ^ (Nat.repr c).length
  have hlen : 0 < (Nat.repr c).length := Nat.length_repr_pos
  refine ⟨?_, (Nat.length_repr_le_iff hlen).mp le_rfl⟩
  rcases Nat.eq_zero_or_pos ((Nat.repr c).length - 1) with h0 | hpos
  · rw [h0]
    exact hc
  · by_contra hlt
    have := (Nat.length_repr_le_iff hpos).mpr (not_le.mp hlt)
    omega

/-- Every rational in the interval of a finite double lies between `2 ^ -1075` and `2 ^ 1024`. -/
lemma Dyadic.bounds_of_finite {d : Dyadic} (hd : d.Finite) {r : ℚ} (h : d.interval.Holds r) :
    (2 : ℚ) ^ (-1075 : Int) ≤ r ∧ r ≤ 2 ^ (1024 : Int) := by
  obtain ⟨hm, hshape⟩ := hd
  have hm53 : d.mantissa < 2 ^ 53 := by rcases hshape with h | h <;> omega
  have hq : (2 : ℚ) ^ (-1074 : Int) ≤ 2 ^ d.exponent :=
    zpow_le_zpow_right₀ (by norm_num) (by rcases hshape with h | h <;> omega)
  have hq' : (2 : ℚ) ^ d.exponent ≤ 2 ^ (971 : Int) :=
    zpow_le_zpow_right₀ (by norm_num) (by rcases hshape with h | h <;> omega)
  have hlowr : (d.interval.low : ℚ) * 2 ^ d.interval.scale ≤ r := by
    rcases h.1 with h | ⟨-, h⟩ <;> linarith
  have hhighr : r ≤ (d.interval.high : ℚ) * 2 ^ d.interval.scale := by
    rcases h.2 with h | ⟨-, h⟩ <;> linarith
  rw [d.interval_low_eq hm] at hlowr
  rw [d.interval_high_eq] at hhighr
  constructor
  · -- at least half a unit of the least exponent
    have hhalf : (1 / 2 : ℚ) ≤ d.mantissa - d.gapBelow := by
      have : (1 : ℚ) ≤ d.mantissa := by exact_mod_cast hm
      linarith [d.gapBelow_le]
    calc (2 : ℚ) ^ (-1075 : Int) = 1 / 2 * 2 ^ (-1074 : Int) := by
          rw [show (-1075 : Int) = -1 + -1074 by norm_num, zpow_add₀ two_ne_zero]
          norm_num
      _ ≤ (d.mantissa - d.gapBelow) * 2 ^ d.exponent :=
        mul_le_mul hhalf hq (by positivity) (by linarith)
      _ ≤ r := hlowr
  · -- at most `2 ^ 53` units of the greatest exponent
    have hmant : (d.mantissa : ℚ) + 1 / 2 ≤ 2 ^ 53 := by
      have : (d.mantissa : ℚ) + 1 ≤ 2 ^ 53 := by exact_mod_cast hm53
      linarith
    calc r ≤ (d.mantissa + 1 / 2) * 2 ^ d.exponent := hhighr
      _ ≤ 2 ^ 53 * 2 ^ (971 : Int) := mul_le_mul hmant hq' (by positivity) (by positivity)
      _ = 2 ^ (1024 : Int) := by
          rw [← zpow_natCast, ← zpow_add₀ two_ne_zero]
          norm_num

/-- A positive decimal in the interval of a finite double has its point position between
`-323` and `310`: the range in which `ofDecimal` rounds instead of settling on zero or
infinity. -/
theorem Dyadic.pointPosition_bounds {d : Dyadic} (hd : d.Finite) {x : Scientific}
    (hx : 0 < x.digits) (h : d.interval.Holds x.value) :
    -330 ≤ x.pointPosition ∧ x.pointPosition ≤ 310 := by
  obtain ⟨hlow, hhigh⟩ := Dyadic.bounds_of_finite hd h
  obtain ⟨hlen₁, hlen₂⟩ := ten_pow_length_bounds hx
  have hlen : 0 < (toString x.digits).length := Nat.length_repr_pos
  have hten : (1 : ℚ) < 10 := by norm_num
  have hpos : (0 : ℚ) < 10 ^ x.exponent := zpow_pos (by norm_num) _
  -- the two powers of two bounding the value, as powers of ten
  have hbig : (2 : ℚ) ^ (1024 : Int) ≤ 10 ^ (309 : Int) := by
    rw [zpow_ofNat, zpow_ofNat]
    exact_mod_cast two_pow_le_ten_pow (by norm_num)
  have hsmall : (10 : ℚ) ^ (-324 : Int) ≤ 2 ^ (-1075 : Int) := by
    rw [zpow_neg, zpow_neg, zpow_ofNat, zpow_ofNat]
    exact inv_anti₀ (by positivity) (by exact_mod_cast two_pow_le_ten_pow (by norm_num))
  unfold Scientific.pointPosition Scientific.digitText
  constructor
  · have hval : x.value < 10 ^ (((toString x.digits).length : Int) + x.exponent) := by
      rw [zpow_add₀ (by norm_num), zpow_natCast, Scientific.value]
      exact mul_lt_mul_of_pos_right (by exact_mod_cast hlen₂) hpos
    have := (zpow_lt_zpow_iff_right₀ hten).mp (hsmall.trans_lt (hlow.trans_lt hval))
    omega
  · have hval : (10 : ℚ) ^ ((((toString x.digits).length - 1 : Nat) : Int) + x.exponent) ≤ x.value := by
      rw [zpow_add₀ (by norm_num), zpow_natCast, Scientific.value]
      exact mul_le_mul_of_nonneg_right (by exact_mod_cast hlen₁) hpos.le
    have := (zpow_le_zpow_iff_right₀ hten).mp (hval.trans (hhigh.trans hbig))
    omega

/-- The value of a decimal as the ratio `ofDecimal` rounds. -/
lemma Scientific.value_eq_ratio (x : Scientific) :
    x.value = ((x.digits * 10 ^ x.exponent.toNat : Nat) : ℚ) / ((10 ^ (-x.exponent).toNat : Nat) : ℚ) := by
  rw [Scientific.value, ten_zpow_eq_div]
  push_cast
  ring

/-- A positive decimal in the interval of a finite double reads back as the double. -/
theorem ofDecimal_eq_of_holds {x : Float} {negative : Bool} {d : Dyadic}
    (hx : decode x = .finite negative d) (hm : 0 < d.mantissa) {y : Scientific}
    (hy : 0 < y.digits) (h : d.interval.Holds y.value) : ofDecimal negative y.digits y.exponent = x := by
  have hfin := Dyadic.finite_of_decode hx hm
  obtain ⟨hlo, hhi⟩ := Dyadic.pointPosition_bounds hfin hy h
  rw [Scientific.value_eq_ratio] at h
  unfold ofDecimal
  rw [if_neg hy.ne']
  dsimp only
  -- the magnitude guards do not fire inside the range of doubles
  have hbelow : ¬ ((toString y.digits).length + y.exponent : Int) > 310 := not_lt.mpr hhi
  have habove : ¬ ((toString y.digits).length + y.exponent : Int) < -330 := not_lt.mpr hlo
  rw [if_neg hbelow, if_neg habove, Nat.pow_eq, Nat.pow_eq]
  split_ifs with hexp
  · -- a whole number: the denominator is one
    have hden : (-y.exponent).toNat = 0 := by omega
    rw [hden, pow_zero] at h
    exact ofRatio_eq_of_holds hx hm (Nat.mul_pos hy (by positivity)) one_pos h
  · -- a fraction: the numerator is the digits
    have hnum : y.exponent.toNat = 0 := by omega
    rw [hnum, pow_zero, mul_one] at h
    exact ofRatio_eq_of_holds hx hm hy (by positivity) h

/-- Every decimal in the interval of a double other than zero is positive. -/
lemma Dyadic.digits_pos_of_holds {d : Dyadic} (hd : d.Finite) {y : Scientific}
    (h : d.interval.Holds y.value) : 0 < y.digits := by
  have hval : (0 : ℚ) < y.value :=
    lt_of_lt_of_le (zpow_pos two_pos _) (Dyadic.bounds_of_finite hd h).1
  rw [Scientific.value] at hval
  by_contra h0
  rw [show y.digits = 0 by omega] at hval
  simp at hval

end ReadBack

end DataQuality.Decimal
