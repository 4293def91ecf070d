import Mathlib
import DataQuality.Proofs.Double.Rounding
import DataQuality.Decimal.Shortest

/-!
# The double nearest a ratio

Every finite double other than zero, `m · 2 ^ q`, owns an interval of rationals that round to it
(`Dyadic.interval`): the points halfway to its two neighbours bound it, and they belong to it
exactly when `m` is even, since ties go to the even mantissa.  `ofRatio` rounds a positive ratio
to the double whose interval holds it (`ofRatio_eq_of_holds`).

The proof follows `ofRatio` step by step.  Its binary logarithm is the true one
(`floorLog2_spec`), so the unit it rounds at is the exponent `q` of the double, except just below
a power of two at the bottom of a binade, where it is one place lower and the rounded mantissa
carries back up to `2 ^ 52`; and the nearest whole number of units is `m`
(`roundHalfEven_eq_of_near`).  The fields it assembles read back as `m` and `q`
(`decode_assemble_normal`, `decode_assemble_subnormal`), and a double is determined by what its
fields read (`eq_of_decode_eq`).
-/

namespace DataQuality.Decimal

open Float.Model Float.Model.UnpackedFloat

/-! ## Doubles by their fields -/

section Fields

/-- The value `m · 2 ^ q` of a dyadic magnitude. -/
def Dyadic.value (d : Dyadic) : ℚ := d.mantissa * 2 ^ d.exponent

/-- The magnitudes of the finite doubles other than zero: a normal mantissa of fifty-three bits
at an exponent from `-1074` to `971`, or a subnormal one below `2 ^ 52` at `-1074`. -/
def Dyadic.Finite (d : Dyadic) : Prop :=
  0 < d.mantissa ∧ (2 ^ 52 ≤ d.mantissa ∧ d.mantissa < 2 ^ 53 ∧ -1074 ≤ d.exponent ∧
    d.exponent ≤ 971 ∨ d.mantissa < 2 ^ 52 ∧ d.exponent = -1074)

/-- The fields of a finite double read as a finite magnitude. -/
lemma Dyadic.finite_of_decode {x : Float} {negative : Bool} {d : Dyadic}
    (h : decode x = .finite negative d) (hm : 0 < d.mantissa) : d.Finite := by
  unfold decode at h
  simp only [Nat.pow_eq, beq_iff_eq] at h
  -- the infinities and not-a-number are no finite magnitude
  split_ifs at h with h₁ h₂
  · cases h
    exact ⟨hm, .inr ⟨Nat.mod_lt _ (by norm_num), rfl⟩⟩
  · cases h
    have hb : x.toBits.toNat / 2 ^ 52 % 2048 < 2048 := Nat.mod_lt _ (by norm_num)
    have hf : x.toBits.toNat % 2 ^ 52 < 2 ^ 52 := Nat.mod_lt _ (by norm_num)
    refine ⟨hm, .inl ⟨by simp, by simp; omega, by simp; omega, by simp; omega⟩⟩

/-- A finite double without mantissa is a zero, stored with the least exponent. -/
lemma Dyadic.eq_zero_of_decode {x : Float} {negative : Bool} {d : Dyadic}
    (h : decode x = .finite negative d) (hm : d.mantissa = 0) : d = ⟨0, -1074⟩ := by
  unfold decode at h
  simp only [Nat.pow_eq, beq_iff_eq] at h
  split_ifs at h
  · cases h
    exact Dyadic.mk.injEq _ _ _ _ ▸ ⟨hm, rfl⟩
  · cases h
    dsimp only at hm
    omega

/-- An unpacked double is determined by the fields it reads as, unless it is not a number. -/
lemma unpackedBinary64_inj {u v : UnpackedFloat} (h : unpackedBinary64 u = unpackedBinary64 v)
    (hu : unpackedBinary64 u ≠ .nan) : u = v := by
  cases u with
  | notANumber => exact absurd rfl hu
  | infinity s =>
    cases v <;> simp only [unpackedBinary64, reduceCtorEq, Binary64.infinite.injEq] at h
    cases s <;> rename_i t <;> cases t <;> simp_all
  | zero s =>
    cases v with
    | zero t => cases s <;> cases t <;> simp_all [unpackedBinary64]
    | finite t m e hm => simp [unpackedBinary64] at h; omega
    | _ => simp [unpackedBinary64] at h
  | finite s m e hm =>
    cases v with
    | zero t => simp [unpackedBinary64] at h; omega
    | finite t m' e' hm' =>
      simp only [unpackedBinary64, Binary64.finite.injEq, Dyadic.mk.injEq] at h
      obtain ⟨hs, rfl, rfl⟩ := h
      cases s <;> cases t <;> simp_all
    | _ => simp [unpackedBinary64] at h

/-- A double is determined by what its fields read, unless it is not a number. -/
lemma eq_of_decode_eq {x y : Float} (h : decode x = decode y) (hx : decode x ≠ .nan) : x = y := by
  rw [decode_eq_unpack, decode_eq_unpack] at h
  rw [decode_eq_unpack] at hx
  exact eq_of_unpack_eq (unpackedBinary64_inj h hx)

lemma signOf_beq_negative (negative : Bool) : (signOf negative == .negative) = negative := by
  cases negative <;> rfl

/-- The fields of an assembled normal double read back. -/
lemma decode_assemble_normal (negative : Bool) {e f : Nat} (he0 : 0 < e) (he : e < 2047)
    (hf : f < 2 ^ 52) :
    decode (assemble negative e f) = .finite negative ⟨2 ^ 52 + f, (e : Int) - 1075⟩ := by
  rw [decode_eq_unpack, unpack_assemble_normal he0 he hf, unpackedBinary64, signOf_beq_negative]

/-- The double assembled from a zero exponent field and a fraction is the subnormal number of
that fraction. -/
lemma unpack_assemble_subnormal {negative : Bool} {f : Nat} (hf0 : 0 < f) (hf : f < 2 ^ 52) :
    (assemble negative 0 f).toModel.unpack = .finite (signOf negative) f (-1074) hf0 := by
  have hs : (signOf negative).toBitVec.toNat < 2 := (signOf negative).toBitVec.isLt
  have hbits := toNat_toBitVec_ofNat
    (n := (signOf negative).toBitVec.toNat * 2 ^ 63 + 0 * 2 ^ 52 + f) (by omega)
  rw [toModel_assemble, unpack_ofBits, unpack_subnormal (hbits.trans (by ring)) hf0 hf]
  exact unpack_pack_subnormal _ hf0 hf

/-- The fields of an assembled subnormal double read back. -/
lemma decode_assemble_subnormal (negative : Bool) {f : Nat} (hf0 : 0 < f) (hf : f < 2 ^ 52) :
    decode (assemble negative 0 f) = .finite negative ⟨f, -1074⟩ := by
  rw [decode_eq_unpack, unpack_assemble_subnormal hf0 hf, unpackedBinary64, signOf_beq_negative]

/-- The zeros read as no units of the least exponent. -/
lemma decode_assemble_zero (negative : Bool) :
    decode (assemble negative 0 0) = .finite negative ⟨0, -1074⟩ := by
  cases negative <;> rfl

/-- A finite double without mantissa is the zero of its sign. -/
lemma assemble_zero_eq_of_decode {x : Float} {negative : Bool} {d : Dyadic}
    (hx : decode x = .finite negative d) (h0 : d.mantissa = 0) : assemble negative 0 0 = x := by
  have hdec : decode (assemble negative 0 0) = decode x := by
    rw [hx, decode_assemble_zero, Dyadic.eq_zero_of_decode hx h0]
  exact eq_of_decode_eq hdec (by rw [hdec, hx]; exact Binary64.noConfusion)

/-- A double whose fields read as a finite magnitude is not an infinity. -/
lemma isInf_eq_false_of_decode {x : Float} {negative : Bool} {d : Dyadic}
    (hx : decode x = .finite negative d) : x.isInf = false := by
  change x.toModel.unpack.isInf = false
  rw [decode_eq_unpack] at hx
  cases h : x.toModel.unpack with
  | notANumber => rw [h] at hx; cases hx
  | infinity s => rw [h] at hx; cases hx
  | zero s => rfl
  | finite s m e hm => rfl

end Fields

/-! ## Powers of two as ratios -/

section Ratios

/-- A power of two with an integer exponent, as a ratio of two powers of two. -/
lemma two_zpow_eq_div (e : Int) : (2 : ℚ) ^ e = 2 ^ e.toNat / 2 ^ (-e).toNat := by
  conv_lhs => rw [← Int.toNat_sub_toNat_neg e]
  rw [zpow_sub₀ two_ne_zero, zpow_natCast, zpow_natCast]

/-- `ratioAtLeastPow2` compares the ratio with the power of two. -/
lemma ratioAtLeastPow2_iff {num den : Nat} (hden : 0 < den) (e : Int) :
    ratioAtLeastPow2 num den e = true ↔ (2 : ℚ) ^ e ≤ num / den := by
  have hd : (0 : ℚ) < den := by exact_mod_cast hden
  rw [ratioAtLeastPow2, decide_eq_true_iff, two_zpow_eq_div,
    div_le_div_iff₀ (by positivity) hd, Nat.pow_eq, Nat.pow_eq, ge_iff_le, ← Nat.cast_le (α := ℚ)]
  push_cast
  constructor <;> intro h <;> linarith

/-- `floorLog2` is `⌊log₂ (num / den)⌋`: the ratio lies from its power of two to the next. -/
lemma floorLog2_spec {num den : Nat} (hnum : 0 < num) (hden : 0 < den) :
    (2 : ℚ) ^ floorLog2 num den ≤ num / den ∧ (num / den : ℚ) < 2 ^ (floorLog2 num den + 1) := by
  have hn₁ := Nat.log2_self_le hnum.ne'
  have hn₂ := Nat.lt_log2_self (n := num)
  have hd₁ := Nat.log2_self_le hden.ne'
  have hd₂ := Nat.lt_log2_self (n := den)
  have hd : (0 : ℚ) < den := by exact_mod_cast hden
  -- the ratio lies strictly between the powers two places apart around the guess
  have hlow : (2 : ℚ) ^ ((num.log2 : Int) - den.log2 - 1) < num / den := by
    rw [show ((num.log2 : Int) - den.log2 - 1) = num.log2 - ((den.log2 + 1 : Nat) : Int) by push_cast; ring,
      zpow_sub₀ two_ne_zero, zpow_natCast, zpow_natCast, div_lt_div_iff₀ (by positivity) hd]
    have h₁ : ((2 ^ num.log2 : Nat) : ℚ) ≤ num := by exact_mod_cast hn₁
    have h₂ : (den : ℚ) < ((2 ^ (den.log2 + 1) : Nat) : ℚ) := by exact_mod_cast hd₂
    push_cast at h₁ h₂
    nlinarith [pow_pos (two_pos : (0 : ℚ) < 2) num.log2]
  have hhigh : (num / den : ℚ) < 2 ^ ((num.log2 : Int) - den.log2 + 1) := by
    rw [show ((num.log2 : Int) - den.log2 + 1) = ((num.log2 + 1 : Nat) : Int) - den.log2 by push_cast; ring,
      zpow_sub₀ two_ne_zero, zpow_natCast, zpow_natCast, div_lt_div_iff₀ hd (by positivity)]
    have h₁ : (num : ℚ) < ((2 ^ (num.log2 + 1) : Nat) : ℚ) := by exact_mod_cast hn₂
    have h₂ : ((2 ^ den.log2 : Nat) : ℚ) ≤ den := by exact_mod_cast hd₁
    push_cast at h₁ h₂
    nlinarith [pow_pos (two_pos : (0 : ℚ) < 2) (num.log2 + 1)]
  unfold floorLog2
  dsimp only
  split_ifs with h
  · exact ⟨(ratioAtLeastPow2_iff hden _).mp h, hhigh⟩
  · refine ⟨le_of_lt ?_, ?_⟩
    · exact hlow
    · rw [sub_add_cancel]
      exact lt_of_not_ge fun h' => h ((ratioAtLeastPow2_iff hden _).mpr h')

/-- A ratio of a scaled numerator and a scaled denominator is the ratio over a power of two. -/
lemma scaled_ratio_eq (num den : Nat) (u : Int) :
    ((num * 2 ^ (-u).toNat : Nat) : ℚ) / ((den * 2 ^ u.toNat : Nat) : ℚ) = (num / den : ℚ) / 2 ^ u := by
  rw [two_zpow_eq_div]
  push_cast
  rw [div_div_eq_mul_div, div_mul_eq_mul_div, div_div, mul_comm (den : ℚ)]

/-- Rounding to the nearest whole number, ties to even, gives a whole number within a half of the
quotient, and the even one when the quotient lies halfway. -/
lemma roundHalfEven_eq_of_near {a b m : Nat} (hb : 0 < b) (hlo : (m : ℚ) - 1 / 2 ≤ a / b)
    (hhi : (a : ℚ) / b ≤ m + 1 / 2)
    (htie : (a : ℚ) / b = m - 1 / 2 ∨ (a : ℚ) / b = m + 1 / 2 → m % 2 = 0) :
    roundHalfEven a b = m := by
  have hbq : (0 : ℚ) < b := by exact_mod_cast hb
  -- the quotient is its whole part and the share of the remainder
  have hsplit : (a : ℚ) / b = (a / b : Nat) + ((a % b : Nat) : ℚ) / b := by
    conv_lhs => rw [← Nat.div_add_mod a b]
    push_cast
    field_simp
  have hr₀ : (0 : ℚ) ≤ ((a % b : Nat) : ℚ) / b := by positivity
  have hr₁ : ((a % b : Nat) : ℚ) / b < 1 := by
    rw [div_lt_one hbq]
    exact_mod_cast Nat.mod_lt a hb
  have hq₁ : a / b ≤ m := by
    have : ((a / b : Nat) : ℚ) < m + 1 := by linarith
    exact Nat.lt_succ_iff.mp (by exact_mod_cast this)
  have hq₂ : m ≤ a / b + 1 := by
    have : (m : ℚ) < (a / b : Nat) + 2 := by linarith
    exact Nat.lt_succ_iff.mp (by exact_mod_cast this)
  unfold roundHalfEven
  dsimp only
  rcases (show m = a / b ∨ m = a / b + 1 by omega) with rfl | rfl
  · -- the whole part itself: the remainder is at most half the divisor
    have hle : 2 * (a % b) ≤ b := by
      have : (2 * (a % b : Nat) : ℚ) ≤ b := by
        have h := (div_le_iff₀ hbq).mp (show ((a % b : Nat) : ℚ) / b ≤ 1 / 2 by linarith)
        linarith
      exact_mod_cast this
    rw [if_neg]
    rintro (h | ⟨h, hodd⟩)
    · omega
    · have heq : ((a % b : Nat) : ℚ) / b = 1 / 2 := by
        rw [div_eq_iff hbq.ne']
        have : (2 : ℚ) * ((a % b : Nat) : ℚ) = b := by exact_mod_cast h
        linarith
      have := htie (.inr (by rw [hsplit, heq]))
      omega
  · -- the next whole number: the remainder is at least half the divisor
    have hge : b ≤ 2 * (a % b) := by
      have : (b : ℚ) ≤ 2 * (a % b : Nat) := by
        have h := (le_div_iff₀ hbq).mp (show (1 / 2 : ℚ) ≤ ((a % b : Nat) : ℚ) / b by
          push_cast at hlo; linarith)
        linarith
      exact_mod_cast this
    rw [if_pos]
    rcases hge.lt_or_eq with h | h
    · exact .inl h
    · refine .inr ⟨h.symm, ?_⟩
      have heq : ((a % b : Nat) : ℚ) / b = 1 / 2 := by
        rw [div_eq_iff hbq.ne']
        have : (2 : ℚ) * ((a % b : Nat) : ℚ) = b := by exact_mod_cast h.symm
        linarith
      have := htie (.inl (by rw [hsplit, heq]; push_cast; ring))
      omega

end Ratios

/-! ## Rounding intervals -/

section Intervals

/-- Whether an interval holds a rational; its ends count when the interval is closed. -/
def Interval.Holds (i : Interval) (r : ℚ) : Prop :=
  ((i.low : ℚ) * 2 ^ i.scale < r ∨ i.closed = true ∧ (i.low : ℚ) * 2 ^ i.scale = r) ∧
    (r < (i.high : ℚ) * 2 ^ i.scale ∨ i.closed = true ∧ r = (i.high : ℚ) * 2 ^ i.scale)

/-- The gap from a double down to the lower end of its interval, in units of its last place:
a quarter at the bottom of a binade above the least exponent, where the neighbour below is
twice as close, and half elsewhere. -/
def Dyadic.gapBelow (d : Dyadic) : ℚ :=
  if d.mantissa = 2 ^ 52 ∧ d.exponent > -1074 then 1 / 4 else 1 / 2

lemma Dyadic.gapBelow_le (d : Dyadic) : d.gapBelow ≤ 1 / 2 := by
  unfold Dyadic.gapBelow
  split_ifs <;> norm_num

/-- The interval is scaled by four: a quarter of the unit `2 ^ q`. -/
lemma Dyadic.two_zpow_interval_scale (d : Dyadic) :
    (2 : ℚ) ^ d.interval.scale = 2 ^ d.exponent / 4 := by
  rw [show d.interval.scale = d.exponent - 2 from rfl, zpow_sub₀ two_ne_zero]
  norm_num

lemma Dyadic.interval_low_eq (d : Dyadic) (hm : 0 < d.mantissa) :
    (d.interval.low : ℚ) * 2 ^ d.interval.scale = (d.mantissa - d.gapBelow) * 2 ^ d.exponent := by
  rw [d.two_zpow_interval_scale]
  simp only [Dyadic.interval, Dyadic.gapBelow, Nat.pow_eq]
  split_ifs <;> rw [Nat.cast_sub (by omega)] <;> push_cast <;> ring

lemma Dyadic.interval_high_eq (d : Dyadic) :
    (d.interval.high : ℚ) * 2 ^ d.interval.scale = (d.mantissa + 1 / 2) * 2 ^ d.exponent := by
  rw [d.two_zpow_interval_scale]
  simp only [Dyadic.interval]
  push_cast
  ring

lemma Dyadic.interval_closed_iff (d : Dyadic) : d.interval.closed = true ↔ d.mantissa % 2 = 0 := by
  simp [Dyadic.interval]

/-- A rational in the interval of `m · 2 ^ q`, counted in units `2 ^ q`, lies within half a unit
of `m`, and reaches that distance only when `m` is even; at the bottom of a binade above the least
exponent it lies at most a quarter of a unit below `m`. -/
lemma Dyadic.bounds_of_holds {d : Dyadic} (hm : 0 < d.mantissa) {r : ℚ} (h : d.interval.Holds r) :
    (d.mantissa : ℚ) - 1 / 2 ≤ r / 2 ^ d.exponent ∧ r / 2 ^ d.exponent ≤ d.mantissa + 1 / 2 ∧
      (r / 2 ^ d.exponent = d.mantissa - 1 / 2 ∨ r / 2 ^ d.exponent = d.mantissa + 1 / 2 →
        d.mantissa % 2 = 0) ∧
      (d.mantissa = 2 ^ 52 ∧ d.exponent > -1074 → (d.mantissa : ℚ) - 1 / 4 ≤ r / 2 ^ d.exponent) := by
  have hq : (0 : ℚ) < 2 ^ d.exponent := zpow_pos two_pos _
  obtain ⟨hlow, hhigh⟩ := h
  rw [d.interval_low_eq hm, d.interval_closed_iff] at hlow
  rw [d.interval_high_eq, d.interval_closed_iff] at hhigh
  rw [div_le_iff₀ hq, le_div_iff₀ hq, le_div_iff₀ hq, div_eq_iff hq.ne', div_eq_iff hq.ne']
  unfold Dyadic.gapBelow at hlow
  by_cases hb : d.mantissa = 2 ^ 52 ∧ d.exponent > -1074
  · -- the gap below is a quarter of a unit, so the lower end is never reached
    rw [if_pos hb] at hlow
    refine ⟨?_, ?_, ?_, fun _ => ?_⟩
    · rcases hlow with hlow | ⟨-, hlow⟩ <;> linarith
    · rcases hhigh with hhigh | ⟨-, hhigh⟩ <;> linarith
    · rintro (hend | hend)
      · rcases hlow with hlow | ⟨-, hlow⟩ <;> linarith
      · rcases hhigh with hhigh | ⟨hc, -⟩
        · linarith
        · exact hc
    · rcases hlow with hlow | ⟨-, hlow⟩ <;> linarith
  · rw [if_neg hb] at hlow
    refine ⟨?_, ?_, ?_, fun h => absurd h hb⟩
    · rcases hlow with hlow | ⟨-, hlow⟩ <;> linarith
    · rcases hhigh with hhigh | ⟨-, hhigh⟩ <;> linarith
    · rintro (hend | hend)
      · rcases hlow with hlow | ⟨hc, -⟩
        · linarith
        · exact hc
      · rcases hhigh with hhigh | ⟨hc, -⟩
        · linarith
        · exact hc

/-- The double assembled from the fields of a finite magnitude reads back as it. -/
lemma decode_assemble_fields {d : Dyadic} (hd : d.Finite) (negative : Bool) :
    decode (if d.mantissa < 2 ^ 52 then assemble negative 0 d.mantissa
      else assemble negative (d.exponent + 1075).toNat (d.mantissa - 2 ^ 52)) =
      .finite negative d := by
  obtain ⟨m, q⟩ := d
  obtain ⟨hm, ⟨hlo, hhi, hqlo, hqhi⟩ | ⟨hsub, hq⟩⟩ := hd
  · -- a normal magnitude: the implicit leading bit and the biased exponent
    simp only at hm hlo hhi hqlo hqhi ⊢
    have hfields : (⟨2 ^ 52 + (m - 2 ^ 52), ((q + 1075).toNat : Int) - 1075⟩ : Dyadic) = ⟨m, q⟩ := by
      rw [Dyadic.mk.injEq]
      omega
    rw [if_neg (by omega), decode_assemble_normal _ (by omega) (by omega) (by omega), hfields]
  · simp only at hm hsub hq ⊢
    rw [if_pos hsub, decode_assemble_subnormal _ hm hsub, hq]

end Intervals

/-! ## The double nearest a ratio -/

section Nearest

/-- A positive ratio in the rounding interval of a finite double other than zero rounds to that
double. -/
theorem ofRatio_eq_of_holds {x : Float} {negative : Bool} {d : Dyadic}
    (hx : decode x = .finite negative d) (hd : 0 < d.mantissa) {num den : Nat} (hnum : 0 < num)
    (hden : 0 < den) (hin : d.interval.Holds (num / den)) : ofRatio negative num den = x := by
  have hfin := Dyadic.finite_of_decode hx hd
  obtain ⟨hlo, hhi, htie, hbottom⟩ := Dyadic.bounds_of_holds hd hin
  obtain ⟨hL₁, hL₂⟩ := floorLog2_spec hnum hden
  have hq : (0 : ℚ) < 2 ^ d.exponent := zpow_pos two_pos _
  obtain ⟨-, hshape⟩ := hfin
  have hm53 : d.mantissa < 2 ^ 53 := by rcases hshape with h | h <;> omega
  have hq971 : d.exponent ≤ 971 := by rcases hshape with h | h <;> omega
  have hq1074 : -1074 ≤ d.exponent := by rcases hshape with h | h <;> omega
  -- the ratio, a power of two times its count of units
  have hr : ((num : ℚ) / den) = (num / den : ℚ) / 2 ^ d.exponent * 2 ^ d.exponent := by
    field_simp
  have hunits : ∀ k : Int, (2 : ℚ) ^ (d.exponent + k) = 2 ^ k * 2 ^ d.exponent := fun k => by
    rw [zpow_add₀ two_ne_zero, mul_comm]
  -- the ratio is below `2 ^ (q + 53)`, so its binary logarithm is below `q + 53`
  have hLlt : floorLog2 num den < d.exponent + 53 := by
    have hm : (d.mantissa : ℚ) + 1 / 2 < 2 ^ (53 : Int) := by
      have : (d.mantissa : ℚ) + 1 ≤ 2 ^ 53 := by exact_mod_cast hm53
      norm_num at this ⊢
      linarith
    have hrhi : (num / den : ℚ) < 2 ^ (d.exponent + 53) := by
      rw [hr, hunits]
      exact mul_lt_mul_of_pos_right (by linarith) hq
    exact (zpow_lt_zpow_iff_right₀ (one_lt_two : (1 : ℚ) < 2)).mp (lt_of_le_of_lt hL₁ hrhi)
  -- the fields `ofRatio` assembles are those of the double
  have hfields : ofRatio negative num den =
      if d.mantissa < 2 ^ 52 then assemble negative 0 d.mantissa
      else assemble negative (d.exponent + 1075).toNat (d.mantissa - 2 ^ 52) := by
    by_cases hcarry : d.mantissa = 2 ^ 52 ∧ d.exponent > -1074 ∧
        (num / den : ℚ) < 2 ^ (d.exponent + 52)
    · -- just below the bottom of a binade: one place lower, and the mantissa carries
      obtain ⟨hm, hqb, hrlt⟩ := hcarry
      have hquarter := hbottom ⟨hm, hqb⟩
      rw [hm] at hquarter
      have hrge : (2 : ℚ) ^ (d.exponent + 51) ≤ num / den := by
        rw [hr, hunits]
        refine mul_le_mul_of_nonneg_right ?_ hq.le
        push_cast at hquarter
        norm_num at hquarter ⊢
        linarith
      have hL : floorLog2 num den = d.exponent + 51 := by
        have h₁ := (zpow_lt_zpow_iff_right₀ (one_lt_two : (1 : ℚ) < 2)).mp (lt_of_le_of_lt hrge hL₂)
        have h₂ := (zpow_lt_zpow_iff_right₀ (one_lt_two : (1 : ℚ) < 2)).mp (lt_of_le_of_lt hL₁ hrlt)
        omega
      have hu : max (floorLog2 num den - 52) (-1074) = d.exponent - 1 := by omega
      have hround : roundHalfEven (num * 2 ^ (-(d.exponent - 1)).toNat)
          (den * 2 ^ (d.exponent - 1).toNat) = 2 ^ 53 := by
        have hhalf : (num / den : ℚ) / 2 ^ (d.exponent - 1) = 2 * ((num / den : ℚ) / 2 ^ d.exponent) := by
          rw [zpow_sub₀ two_ne_zero]
          field_simp
        apply roundHalfEven_eq_of_near (by positivity)
        · rw [scaled_ratio_eq, hhalf]
          push_cast at hquarter ⊢
          norm_num at hquarter ⊢
          linarith
        · rw [scaled_ratio_eq, hhalf]
          have : (num / den : ℚ) / 2 ^ d.exponent < 2 ^ (52 : Int) := by
            rw [div_lt_iff₀ hq, ← hunits]
            exact hrlt
          push_cast
          norm_num at this ⊢
          linarith
        · intro _
          norm_num
      rw [ofRatio, if_neg (by omega)]
      simp only [Nat.pow_eq, hu, hround, if_true, sub_add_cancel]
      rw [if_neg (show ¬(d.exponent > 971) by omega), hm, if_neg (lt_irrefl _)]
    · -- the unit is the exponent of the double, and the mantissa is the nearest count of units
      have hu : max (floorLog2 num den - 52) (-1074) = d.exponent := by
        rcases hshape with ⟨hnorm, -, -, -⟩ | ⟨-, hqmin⟩
        · by_cases hqb : d.exponent = -1074
          · omega
          · -- a normal double above the least exponent lies at `2 ^ (q + 52)` or above
            have hrge : (2 : ℚ) ^ (d.exponent + 52) ≤ num / den := by
              by_cases hm : d.mantissa = 2 ^ 52
              · exact le_of_not_gt fun h => hcarry ⟨hm, by omega, h⟩
              · rw [hr, hunits]
                refine mul_le_mul_of_nonneg_right ?_ hq.le
                have : (4503599627370497 : ℚ) ≤ d.mantissa := by
                  exact_mod_cast (show 2 ^ 52 + 1 ≤ d.mantissa by omega)
                norm_num
                linarith
            have := (zpow_lt_zpow_iff_right₀ (one_lt_two : (1 : ℚ) < 2)).mp (lt_of_le_of_lt hrge hL₂)
            omega
        · omega
      have hround : roundHalfEven (num * 2 ^ (-d.exponent).toNat) (den * 2 ^ d.exponent.toNat) =
          d.mantissa := by
        apply roundHalfEven_eq_of_near (by positivity)
        · rw [scaled_ratio_eq]
          exact hlo
        · rw [scaled_ratio_eq]
          exact hhi
        · rw [scaled_ratio_eq]
          exact htie
      rw [ofRatio, if_neg (by omega)]
      simp only [Nat.pow_eq, hu, hround, if_neg (show d.mantissa ≠ 2 ^ 53 by omega),
        if_neg (show ¬(d.exponent > 971) by omega)]
  rw [hfields]
  refine eq_of_decode_eq ?_ (by rw [decode_assemble_fields ⟨hd, hshape⟩]; exact Binary64.noConfusion)
  rw [decode_assemble_fields ⟨hd, hshape⟩, hx]

end Nearest

end DataQuality.Decimal
