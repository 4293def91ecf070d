import Mathlib
import DataQuality.Proofs.Double.Whole

/-!
# Exact sums and products of the doubles of integers

Every integer of at most fifty-three bits is a double, and the sum or product of two such
doubles is the double of the integer sum or product as long as that too has at most fifty-three
bits: `ofInt_add_ofInt` and `ofInt_add_ofInt_mul`, the two steps by which sums of numbers and of
their products accumulate.

The proof runs in the logical model of `Float`.  Its rounding only ever sees the value of a
mantissa and exponent: scaling the mantissa by `2 ^ k` and lowering the exponent by `k` rounds to
the same number (`normalize_scale`), so two representations of one rational number normalize alike
(`normalize_eq_of_value`).  A sum or product of two finite numbers is the normalization of an
exact mantissa and exponent, hence of the integer result at exponent zero, which is the model's own
conversion `UnpackedFloat.ofInt`.  Last, the doubles `ofInt` reads from the number's fields are
those of the model's conversion (`unpack_ofInt`).
-/

namespace DataQuality.Decimal

open Float.Model Float.Model.UnpackedFloat

/-! ## Rounding sees only the value -/

section Scaling

open ExtendedMantissa

/-- Repeating a step `j + k` times is repeating it `k` times, then `j` more. -/
lemma repeat_add {α : Type} (f : α → α) (j k : Nat) (a : α) :
    Nat.repeat f (j + k) a = Nat.repeat f j (Nat.repeat f k a) := by
  induction j with
  | zero => simp [Nat.repeat]
  | succ j ih => rw [Nat.add_right_comm, Nat.repeat, ih, Nat.repeat]

/-- Shifting an exact mantissa right `k` places undoes a scaling by `2 ^ k`, losing no bit. -/
lemma repeat_shiftRightOne_exact (k x : Nat) :
    Nat.repeat shiftRightOne k ⟨x * 2 ^ k, false, false⟩ = ⟨x, false, false⟩ := by
  induction k generalizing x with
  | zero => simp [Nat.repeat]
  | succ k ih =>
    rw [Nat.repeat, show x * 2 ^ (k + 1) = 2 * x * 2 ^ k by ring, ih]
    simp [shiftRightOne]

lemma shiftRight_exact_mul_two_pow (x j k : Nat) :
    ofMantissaAndAccuracy (x * 2 ^ k) .exact >>> (j + k) = ofMantissaAndAccuracy x .exact >>> j := by
  show Nat.repeat shiftRightOne (j + k) _ = Nat.repeat shiftRightOne j _
  rw [repeat_add]
  exact congrArg _ (repeat_shiftRightOne_exact k x)

/-- Shifting to an exponent above the given one sees only the value of the number. -/
lemma shiftToExponent_scale (m k : Nat) {e t : Int} (h : e ≤ t) :
    shiftToExponent (m * 2 ^ k) (e - k) .exact t = shiftToExponent m e .exact t := by
  have hshift : (t - (e - k)).toNat = (t - e).toNat + k := by omega
  simp only [shiftToExponent, hshift, shiftRight_exact_mul_two_pow]
  congr 1
  omega

lemma log2_mul_two_pow {m : Nat} (hm : 0 < m) (k : Nat) : (m * 2 ^ k).log2 = m.log2 + k := by
  induction k with
  | zero => simp
  | succ k ih =>
    rw [show m * 2 ^ (k + 1) = 2 * (m * 2 ^ k) by ring, Nat.log2_two_mul (by positivity), ih]
    omega

/-- The position of the leading bit is a property of the value. -/
lemma totalExponent_scale {m : Nat} (hm : 0 < m) (k : Nat) (e : Int) :
    totalExponent (m * 2 ^ k) (e - k) = totalExponent m e := by
  simp only [totalExponent, log2_mul_two_pow hm]
  omega

variable (spec : Format) (s : Sign)

lemma roundWithAccuracy_scale {m : Nat} (hm : 0 < m) (k : Nat) {e : Int}
    (he : e ≤ spec.targetExponent (totalExponent m e)) :
    roundWithAccuracy spec s (m * 2 ^ k) (e - k) .exact = roundWithAccuracy spec s m e .exact := by
  have hshift : shiftToTargetExponent spec (m * 2 ^ k) (e - k) .exact =
      shiftToTargetExponent spec m e .exact := by
    simp only [shiftToTargetExponent, totalExponent_scale hm]
    exact shiftToExponent_scale m k he
  simp only [roundWithAccuracy, hshift]

/-- Rounding a positive number sees only its value. -/
lemma round_scale {m : Nat} (hm : 0 < m) (k : Nat) (e : Int) :
    UnpackedFloat.round spec s (m * 2 ^ k) (e - k) = UnpackedFloat.round spec s m e := by
  have htot := totalExponent_scale hm k e
  unfold UnpackedFloat.round decreaseExponent
  simp only [htot, Nat.shiftLeft_eq]
  set t := spec.targetExponent (totalExponent m e)
  -- both numbers are lowered to at most the target exponent, where one is a scaling of the other
  set d := (e - t).toNat
  set d' := (e - ↑k - t).toNat
  have hm' : m * 2 ^ k * 2 ^ d' = m * 2 ^ d * 2 ^ (k + d' - d) := by
    rw [Nat.mul_assoc, Nat.mul_assoc, ← Nat.pow_add, ← Nat.pow_add]
    congr 2
    omega
  have he' : e - ↑k - ↑d' = e - ↑d - ↑(k + d' - d) := by omega
  rw [hm', he', roundWithAccuracy_scale spec s (by positivity)]
  rw [totalExponent_scale hm]
  omega

/-- Normalizing sees only the value of a signed mantissa and exponent. -/
lemma normalize_scale (M : Int) (k : Nat) (E : Int) (z : Sign) :
    normalize spec (M * 2 ^ k) (E - k) z = normalize spec M E z := by
  have hk : (0 : Int) < 2 ^ k := by positivity
  rcases lt_trichotomy M 0 with hM | rfl | hM
  · have hlt : M * 2 ^ k < 0 := Int.mul_neg_of_neg_of_pos hM hk
    have hnat : (-(M * 2 ^ k)).toNat = (-M).toNat * 2 ^ k := by
      rw [← Int.neg_mul]
      lift -M to Nat using (by omega) with n
      have hcast : ((n * 2 ^ k : Nat) : Int) = n * 2 ^ k := by push_cast; ring
      rw [← hcast, Int.toNat_natCast, Int.toNat_natCast]
    simp only [UnpackedFloat.normalize, compare_lt_iff_lt.mpr hM, compare_lt_iff_lt.mpr hlt, hnat]
    exact round_scale spec .negative (by omega) k E
  · simp [UnpackedFloat.normalize]
  · have hgt : 0 < M * 2 ^ k := Int.mul_pos hM hk
    have hnat : (M * 2 ^ k).toNat = M.toNat * 2 ^ k := by
      lift M to Nat using hM.le with n
      have hcast : ((n * 2 ^ k : Nat) : Int) = n * 2 ^ k := by push_cast; ring
      rw [← hcast, Int.toNat_natCast, Int.toNat_natCast]
    simp only [UnpackedFloat.normalize, compare_gt_iff_gt.mpr hM, compare_gt_iff_gt.mpr hgt, hnat]
    exact round_scale spec .positive (by omega) k E

/-- A signed mantissa and exponent normalize as the integer they are worth. -/
lemma normalize_eq_of_value {M a E : Int} (z : Sign) (h : (a : ℚ) = M * 2 ^ E) :
    normalize spec M E z = normalize spec a 0 z := by
  rcases le_or_gt E 0 with hE | hE
  · -- the mantissa is the integer scaled up
    obtain ⟨k, rfl⟩ : ∃ k : Nat, E = -k := ⟨E.natAbs, by omega⟩
    have hM : M = a * 2 ^ k := by
      have : (M : ℚ) = a * 2 ^ k := by
        rw [h, zpow_neg, zpow_natCast, mul_assoc, inv_mul_cancel₀ (by positivity), mul_one]
      exact_mod_cast this
    rw [hM, ← normalize_scale spec a k 0 z, zero_sub]
  · -- the integer is the mantissa scaled up
    obtain ⟨k, rfl⟩ : ∃ k : Nat, E = k := ⟨E.toNat, by omega⟩
    have ha : a = M * 2 ^ k := by
      have : (a : ℚ) = M * 2 ^ k := by rw [h, zpow_natCast]
      exact_mod_cast this
    rw [ha, ← sub_self (k : Int), normalize_scale]

end Scaling

/-! ## Numbers that need no rounding -/

section Canonical

variable (spec : Format) (s : Sign)

/-- At or below its target exponent a number is rounded by the shifts alone. -/
lemma round_eq_roundWithAccuracy {m : Nat} {e : Int}
    (he : e ≤ spec.targetExponent (totalExponent m e)) :
    UnpackedFloat.round spec s m e = roundWithAccuracy spec s m e .exact := by
  have hshift : (e - spec.targetExponent (totalExponent m e)).toNat = 0 := by omega
  simp only [UnpackedFloat.round, decreaseExponent, hshift, Nat.shiftLeft_zero, Int.natCast_zero,
    Int.sub_zero]

lemma normalize_apply {m : Nat} (hm : 0 < m) (e : Int) (z : Sign) :
    normalize spec (s.apply m) e z = UnpackedFloat.round spec s m e := by
  cases s
  · have hlt : -(m : Int) < 0 := by omega
    simp [UnpackedFloat.normalize, Sign.apply, compare_lt_iff_lt.mpr hlt]
  · have hgt : 0 < (m : Int) := by omega
    simp [UnpackedFloat.normalize, Sign.apply, compare_gt_iff_gt.mpr hgt]

/-- A mantissa of fifty-three bits at an exponent of the normal range is at its target exponent:
the shift moves nothing. -/
lemma shiftToTargetExponent_normal {m : Nat} {e : Int} (hm : 2 ^ 52 ≤ m) (hm' : m < 2 ^ 53)
    (he : -1074 ≤ e) :
    shiftToTargetExponent Format.binary64 m e .exact = (⟨m, false, false⟩, e) := by
  have hlog : m.log2 = 52 := (Nat.log2_eq_iff (by omega)).mpr ⟨hm, hm'⟩
  have ht : Format.binary64.targetExponent (totalExponent m e) = e := by
    simp only [Format.targetExponent, totalExponent, hlog, Format.mantissaBits, Format.minExponent]
    norm_num
    omega
  simp only [shiftToTargetExponent, shiftToExponent, ht, sub_self, Int.toNat_zero, Int.natCast_zero,
    add_zero]
  rfl

/-- A normal number is already rounded. -/
lemma round_binary64_normal {m : Nat} {e : Int} (hm : 2 ^ 52 ≤ m) (hm' : m < 2 ^ 53)
    (he : -1074 ≤ e) :
    UnpackedFloat.round Format.binary64 s m e = .finite s m e (by omega) := by
  have hlog : m.log2 = 52 := (Nat.log2_eq_iff (by omega)).mpr ⟨hm, hm'⟩
  have ht : e ≤ Format.binary64.targetExponent (totalExponent m e) := by
    simp only [Format.targetExponent, totalExponent, hlog, Format.mantissaBits, Format.minExponent]
    omega
  have hround : ExtendedMantissa.roundedMantissa ⟨m, false, false⟩ = m := rfl
  rw [round_eq_roundWithAccuracy _ _ ht]
  simp only [roundWithAccuracy, shiftToTargetExponent_normal hm hm' he, hround]
  rw [dif_neg (by omega)]

end Canonical

/-! ## The exact double of an integer -/

section Integers

variable {n : Int}

/-- A nonzero integer of at most fifty-three bits is its sign applied to the fields of its
magnitude. -/
lemma cast_eq_fields (h0 : n ≠ 0) (h : n.natAbs ≤ 2 ^ 53) :
    (n : ℚ) = ((signOf (decide (n < 0))).apply (wholeFields n.natAbs).1 : Int) *
      2 ^ (wholeFields n.natAbs).2 := by
  have hexact := (wholeFields_exact (Int.natAbs_pos.mpr h0) h).1
  rcases lt_or_gt_of_ne h0 with hneg | hpos
  · have habs : (n : ℚ) = -(n.natAbs : ℚ) := by
      rw [Nat.cast_natAbs, Int.cast_abs, abs_of_neg (by exact_mod_cast hneg), neg_neg]
    rw [decide_eq_true hneg, habs, hexact]
    simp [signOf, Sign.apply]
  · have habs : (n : ℚ) = (n.natAbs : ℚ) := by
      rw [Nat.cast_natAbs, Int.cast_abs, abs_of_pos (by exact_mod_cast hpos)]
    rw [decide_eq_false (by omega), habs, hexact]
    simp [signOf, Sign.apply]

/-- The model's conversion of a nonzero integer of at most fifty-three bits: the normal number of
its sign and the fields of its magnitude. -/
lemma ofInt_binary64 (h0 : n ≠ 0) (h : n.natAbs ≤ 2 ^ 53) :
    UnpackedFloat.ofInt Format.binary64 n =
      .finite (signOf (decide (n < 0))) (wholeFields n.natAbs).1 (wholeFields n.natAbs).2
        (by have := wholeFields_bounds (Int.natAbs_pos.mpr h0); omega) := by
  obtain ⟨hm, hm', hu⟩ := wholeFields_bounds (Int.natAbs_pos.mpr h0)
  rw [UnpackedFloat.ofInt, ← normalize_eq_of_value _ _ (cast_eq_fields h0 h),
    normalize_apply _ _ (by omega), round_binary64_normal _ hm hm' (by omega)]

lemma ofInt_binary64_zero : UnpackedFloat.ofInt Format.binary64 0 = .zero .positive := rfl

/-- The model's conversion of a nonzero integer of at most fifty-three bits is a normal number
worth the integer. -/
lemma exists_ofInt_binary64 (h0 : n ≠ 0) (h : n.natAbs ≤ 2 ^ 53) :
    ∃ s m e hm, UnpackedFloat.ofInt Format.binary64 n = .finite s m e hm ∧ 2 ^ 52 ≤ m ∧
      (n : ℚ) = s.apply m * 2 ^ e :=
  ⟨_, _, _, _, ofInt_binary64 h0 h, (wholeFields_bounds (Int.natAbs_pos.mpr h0)).1,
    cast_eq_fields h0 h⟩

end Integers

/-! ## Sums and products -/

section Arithmetic

/-- A mantissa shifted left onto a smaller exponent keeps its value. -/
lemma apply_shiftLeft (s : Sign) (m : Nat) {e t : Int} (h : t ≤ e) :
    ((s.apply ((m <<< (e - t).toNat : Nat) : Int) : Int) : ℚ) * 2 ^ t = (s.apply m : ℚ) * 2 ^ e := by
  obtain ⟨d, rfl⟩ : ∃ d : Nat, e = t + d := ⟨(e - t).toNat, by omega⟩
  have hd : (t + d - t).toNat = d := by omega
  rw [hd, Nat.shiftLeft_eq, zpow_add₀ two_ne_zero, zpow_natCast]
  cases s <;> simp [Sign.apply] <;> ring

/-- The sign of a product applied to the product of the magnitudes. -/
lemma apply_mul (s₁ s₂ : Sign) (x y : Int) : (s₁ * s₂).apply (x * y) = s₁.apply x * s₂.apply y := by
  cases s₁ <;> cases s₂ <;> simp only [Sign.apply] <;> ring

variable {s₁ s₂ : Sign} {m₁ m₂ : Nat} {e₁ e₂ : Int} {a b : Int}

/-- The sum of two finite numbers worth two integers is the normalized integer sum. -/
lemma add_finite_of_value (spec : Format) (h₁ : 0 < m₁) (h₂ : 0 < m₂)
    (ha : (a : ℚ) = s₁.apply m₁ * 2 ^ e₁) (hb : (b : ℚ) = s₂.apply m₂ * 2 ^ e₂) :
    add spec (.finite s₁ m₁ e₁ h₁) (.finite s₂ m₂ e₂ h₂) = normalize spec (a + b) 0 .positive := by
  show normalize spec _ (min e₁ e₂) .positive = _
  apply normalize_eq_of_value
  rw [Int.cast_add, Int.cast_add, add_mul, apply_shiftLeft _ _ (min_le_left _ _),
    apply_shiftLeft _ _ (min_le_right _ _), ha, hb]

/-- The product of two finite numbers worth two integers, one of them normal, is the normalized
integer product: the product of the mantissas is below its target exponent, so it is rounded
like any number. -/
lemma mul_finite_of_value (h₁ : 0 < m₁) (h₂ : 0 < m₂) (hm : 2 ^ 52 ≤ m₁)
    (ha : (a : ℚ) = s₁.apply m₁ * 2 ^ e₁) (hb : (b : ℚ) = s₂.apply m₂ * 2 ^ e₂) :
    mul Format.binary64 (.finite s₁ m₁ e₁ h₁) (.finite s₂ m₂ e₂ h₂) =
      normalize Format.binary64 (a * b) 0 .positive := by
  show roundWithAccuracy _ (s₁ * s₂) (m₁ * m₂) (e₁ + e₂) .exact = _
  have hlog : 52 ≤ (m₁ * m₂).log2 :=
    (Nat.le_log2 (by positivity)).mpr (le_trans hm (Nat.le_mul_of_pos_right _ h₂))
  have htarget : e₁ + e₂ ≤ Format.binary64.targetExponent (totalExponent (m₁ * m₂) (e₁ + e₂)) := by
    simp only [Format.targetExponent, totalExponent, Format.mantissaBits, Format.minExponent]
    omega
  rw [← round_eq_roundWithAccuracy _ _ htarget, ← normalize_apply _ _ (by positivity) _ .positive]
  apply normalize_eq_of_value
  rw [Nat.cast_mul, apply_mul, Int.cast_mul, Int.cast_mul, zpow_add₀ two_ne_zero, ha, hb]
  ring

/-- The model's conversions of two integers of at most fifty-three bits add to the conversion of
their sum. -/
lemma add_ofInt_binary64 (ha : a.natAbs ≤ 2 ^ 53) (hb : b.natAbs ≤ 2 ^ 53) :
    add Format.binary64 (UnpackedFloat.ofInt Format.binary64 a)
      (UnpackedFloat.ofInt Format.binary64 b) = UnpackedFloat.ofInt Format.binary64 (a + b) := by
  rcases eq_or_ne a 0 with rfl | ha0 <;> rcases eq_or_ne b 0 with rfl | hb0
  · rfl
  · obtain ⟨s, m, e, hm, hb', -⟩ := exists_ofInt_binary64 hb0 hb
    rw [ofInt_binary64_zero, hb', zero_add, hb']
    rfl
  · obtain ⟨s, m, e, hm, ha', -⟩ := exists_ofInt_binary64 ha0 ha
    rw [ofInt_binary64_zero, ha', add_zero, ha']
    rfl
  · obtain ⟨s₁, m₁, e₁, hm₁, ha', -, hva⟩ := exists_ofInt_binary64 ha0 ha
    obtain ⟨s₂, m₂, e₂, hm₂, hb', -, hvb⟩ := exists_ofInt_binary64 hb0 hb
    rw [ha', hb']
    exact add_finite_of_value _ hm₁ hm₂ hva hvb

/-- The model's conversions of two integers of at most fifty-three bits whose product is not zero
multiply to the conversion of their product. -/
lemma mul_ofInt_binary64 (ha : a.natAbs ≤ 2 ^ 53) (hb : b.natAbs ≤ 2 ^ 53) (hab : a * b ≠ 0) :
    mul Format.binary64 (UnpackedFloat.ofInt Format.binary64 a)
      (UnpackedFloat.ofInt Format.binary64 b) = UnpackedFloat.ofInt Format.binary64 (a * b) := by
  obtain ⟨ha0, hb0⟩ := mul_ne_zero_iff.mp hab
  obtain ⟨s₁, m₁, e₁, hm₁, ha', hn₁, hva⟩ := exists_ofInt_binary64 ha0 ha
  obtain ⟨s₂, m₂, e₂, hm₂, hb', -, hvb⟩ := exists_ofInt_binary64 hb0 hb
  rw [ha', hb']
  exact mul_finite_of_value hm₁ hm₂ hn₁ hva hvb

/-- A product of zero is a zero, of the sign of the product of the signs. -/
lemma mul_ofInt_binary64_of_eq_zero (ha : a.natAbs ≤ 2 ^ 53) (hb : b.natAbs ≤ 2 ^ 53)
    (hab : a * b = 0) :
    ∃ σ, mul Format.binary64 (UnpackedFloat.ofInt Format.binary64 a)
      (UnpackedFloat.ofInt Format.binary64 b) = .zero σ := by
  rcases mul_eq_zero.mp hab with rfl | rfl
  · rcases eq_or_ne b 0 with rfl | hb0
    · exact ⟨_, rfl⟩
    · obtain ⟨s, m, e, hm, hb', -⟩ := exists_ofInt_binary64 hb0 hb
      rw [ofInt_binary64_zero, hb']
      exact ⟨_, rfl⟩
  · rcases eq_or_ne a 0 with rfl | ha0
    · exact ⟨_, rfl⟩
    · obtain ⟨s, m, e, hm, ha', -⟩ := exists_ofInt_binary64 ha0 ha
      rw [ofInt_binary64_zero, ha']
      exact ⟨_, rfl⟩

/-- Adding a zero of either sign to the conversion of an integer leaves it. -/
lemma add_zero_ofInt_binary64 (ha : a.natAbs ≤ 2 ^ 53) (σ : Sign) :
    add Format.binary64 (UnpackedFloat.ofInt Format.binary64 a) (.zero σ) =
      UnpackedFloat.ofInt Format.binary64 a := by
  rcases eq_or_ne a 0 with rfl | ha0
  · cases σ <;> rfl
  · obtain ⟨s, m, e, hm, ha', -⟩ := exists_ofInt_binary64 ha0 ha
    rw [ha']
    rfl

end Arithmetic

/-! ## Doubles -/

section Doubles

/-- Packing the unpacking of a double gives the double back. -/
lemma pack_unpack_model (x : Float.Model) : Float.Model.pack x.unpack = x := by
  obtain ⟨bits, valid⟩ := x
  simp only [Float.Model.pack, Float.Model.unpack, pack_unpack_of_valid valid,
    UInt64.ofBitVec_toBitVec]

/-- A zero keeps its sign through packing. -/
lemma unpack_pack_zero (σ : Sign) : (Float.Model.pack (.zero σ)).unpack = .zero σ := by
  simp [Float.Model.pack, Float.Model.unpack, UnpackedFloat.pack]

variable {n s a b : Int}

/-- The double of an integer of at most fifty-three bits is the model's exact conversion. -/
lemma unpack_ofInt (h : n.natAbs ≤ 2 ^ 53) :
    (ofInt n).toModel.unpack = UnpackedFloat.ofInt Format.binary64 n := by
  rcases eq_or_ne n 0 with rfl | h0
  · rw [ofInt_binary64_zero, show (0 : Int) = ((0 : Nat) : Int) from rfl, ofInt_natCast_zero,
      unpack_assemble_zero]
  have hN : 0 < n.natAbs := Int.natAbs_pos.mpr h0
  obtain ⟨hm, hm', hu⟩ := wholeFields_bounds hN
  have hu' := (wholeFields_exact hN h).2
  have hmant : 2 ^ 52 + ((wholeFields n.natAbs).1 - 2 ^ 52) = (wholeFields n.natAbs).1 := by omega
  have hexp : (((wholeFields n.natAbs).2 + 1075).toNat : Int) - 1075 = (wholeFields n.natAbs).2 := by
    omega
  rw [ofInt, ofRatio_whole _ hN, if_neg (by omega),
    unpack_assemble_normal (by omega) (by omega) (by omega), ofInt_binary64 h0 h]
  simp only [hmant, hexp]

/-- The sum of the doubles of two integers is the double of their sum, when all three have at
most fifty-three bits. -/
theorem ofInt_add_ofInt (ha : a.natAbs ≤ 2 ^ 53) (hb : b.natAbs ≤ 2 ^ 53)
    (hab : (a + b).natAbs ≤ 2 ^ 53) : ofInt a + ofInt b = ofInt (a + b) := by
  have hmodel : (ofInt a + ofInt b).toModel = (ofInt (a + b)).toModel := by
    show Float.Model.add (ofInt a).toModel (ofInt b).toModel = _
    rw [Float.Model.add, unpack_ofInt ha, unpack_ofInt hb, add_ofInt_binary64 ha hb,
      ← unpack_ofInt hab, pack_unpack_model]
  exact congrArg Float.ofModel hmodel

/-- The product of the doubles of two integers is the double of their product, when it is not
zero and all three have at most fifty-three bits. -/
theorem ofInt_mul_ofInt (ha : a.natAbs ≤ 2 ^ 53) (hb : b.natAbs ≤ 2 ^ 53)
    (hab : (a * b).natAbs ≤ 2 ^ 53) (h0 : a * b ≠ 0) : ofInt a * ofInt b = ofInt (a * b) := by
  have hmodel : (ofInt a * ofInt b).toModel = (ofInt (a * b)).toModel := by
    show Float.Model.mul (ofInt a).toModel (ofInt b).toModel = _
    rw [Float.Model.mul, unpack_ofInt ha, unpack_ofInt hb, mul_ofInt_binary64 ha hb h0,
      ← unpack_ofInt hab, pack_unpack_model]
  exact congrArg Float.ofModel hmodel

/-- Adding the product of the doubles of two integers to the double of a third is exact, when
every integer involved has at most fifty-three bits.  A product of zero may be a negative zero,
which adds nothing. -/
theorem ofInt_add_ofInt_mul (hs : s.natAbs ≤ 2 ^ 53) (ha : a.natAbs ≤ 2 ^ 53)
    (hb : b.natAbs ≤ 2 ^ 53) (hab : (a * b).natAbs ≤ 2 ^ 53) (hsum : (s + a * b).natAbs ≤ 2 ^ 53) :
    ofInt s + ofInt a * ofInt b = ofInt (s + a * b) := by
  rcases eq_or_ne (a * b) 0 with h0 | h0
  · obtain ⟨σ, hσ⟩ := mul_ofInt_binary64_of_eq_zero ha hb h0
    have hmodel : (ofInt s + ofInt a * ofInt b).toModel = (ofInt (s + a * b)).toModel := by
      show Float.Model.add (ofInt s).toModel (Float.Model.mul (ofInt a).toModel (ofInt b).toModel) = _
      rw [Float.Model.mul, unpack_ofInt ha, unpack_ofInt hb, hσ, Float.Model.add, unpack_pack_zero,
        unpack_ofInt hs, add_zero_ofInt_binary64 hs, h0, add_zero, ← unpack_ofInt hs,
        pack_unpack_model]
    exact congrArg Float.ofModel hmodel
  · rw [ofInt_mul_ofInt ha hb hab h0, ofInt_add_ofInt hs hab hsum]

end Doubles

end DataQuality.Decimal
