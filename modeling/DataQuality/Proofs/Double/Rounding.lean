import Mathlib
import DataQuality.Proofs.Double.Exact

/-!
# Rounding is monotone

A rank is computed as the count of a product `q · c` of doubles, and ranks of larger `q` must not
come out smaller.  This file proves the two facts behind that, in the logical model of `Float`.

* *Multiplying is monotone.*  For non-negative finite doubles `x ≤ y` and a non-negative finite
  `c`, the product `x * c` ranks no higher than `y * c` (`rank_mul_le_mul`).
* *Counting is monotone.*  The conversion `toCount` grows with the rank of a double below
  not-a-number (`toCount_le_of_rank_le`), so the counts of the two products are ordered
  (`toCount_mul_le_mul`).

The model rounds a positive mantissa `m` at exponent `e` by shifting it right to its last place
`lastPlace m e`, fifty-two places below its leading bit and never below the least exponent.  The
shifts keep a round bit and a sticky bit, and together they round half to even: the first shift
keeps `roundHalfEven m (2 ^ k)` units (`roundedMantissa_repeat_shiftRightOne`), and the result is
`roundedAt` of those units, with the carry of a mantissa that reached `2 ^ 53` into the next
exponent.
Its rank once packed is `roundedRank`, read off the units and the last place.  Two numbers read at
one exponent round in order (`roundedRank_le_roundedRank`): at one last place because rounding half
to even is monotone in the numerator, and at a higher last place because the larger number is
normal there.  A double unpacks at its own last place, in the canonical shape that makes the
order of ranks the order of values (`mul_two_pow_le_of_lex`).  `decode`, which `toCount` reads,
reads the same fields as the unpacking (`decode_eq_unpack`).

The same canonical shape reads the order of finite doubles as the order of their exact values:
a higher rank is a value at least as great (`value?_le_of_rank_le`), strictly greater unless the
two differ only in the sign of a zero (`value?_lt_of_rank_lt`).
-/

namespace DataQuality.Decimal

open Float.Model Float.Model.UnpackedFloat

/-! ## The first shift rounds half to even -/

section Shift
open ExtendedMantissa

lemma repeat_shiftRightOne_succ (m k : Nat) :
    Nat.repeat shiftRightOne (k + 1) ⟨m, false, false⟩ =
      ⟨m / 2 ^ (k + 1), m / 2 ^ k % 2 != 0, m % 2 ^ k != 0⟩ := by
  induction k with
  | zero => simp [Nat.repeat, shiftRightOne, Nat.mod_one]
  | succ k ih =>
    rw [Nat.repeat, ih]
    simp only [shiftRightOne, Nat.div_div_eq_div_mul, ← Nat.pow_succ]
    congr 1
    rw [Nat.mod_pow_succ]
    cases h₁ : m / 2 ^ k % 2 != 0 <;> cases h₂ : m % 2 ^ k != 0 <;> simp_all

lemma roundedMantissa_repeat_shiftRightOne (m k : Nat) :
    (Nat.repeat shiftRightOne k ⟨m, false, false⟩).roundedMantissa = roundHalfEven m (2 ^ k) := by
  cases k with
  | zero =>
    simp [Nat.repeat, roundedMantissa, accuracy, Accuracy.roundToNearestEven, roundHalfEven,
      Nat.mod_one]
  | succ k =>
    rw [repeat_shiftRightOne_succ]
    have hsplit : m % 2 ^ (k + 1) = m % 2 ^ k + 2 ^ k * (m / 2 ^ k % 2) := Nat.mod_pow_succ
    have hlow : m % 2 ^ k < 2 ^ k := Nat.mod_lt _ (by positivity)
    have hbit : m / 2 ^ k % 2 = 0 ∨ m / 2 ^ k % 2 = 1 := by omega
    unfold roundHalfEven
    rw [hsplit, pow_succ]
    -- the round bit and the sticky bit tell where the dropped bits lie against half a unit
    rcases hbit with hb | hb <;> rw [hb] <;> cases hs : m % 2 ^ k != 0 <;>
      simp only [bne_iff_ne, ne_eq, bne_eq_false_iff_eq] at hs <;>
      simp only [roundedMantissa, accuracy, Accuracy.roundToNearestEven, bne_self_eq_false,
        show (1 != 0) = true from rfl] <;>
      split_ifs <;> omega
end Shift

/-! ## Rounding a positive number -/

/-- What rounding leaves of a mantissa `r` at its target exponent `t`: zero when nothing is left,
and `2^52` at the next exponent when the mantissa carried to `2^53`. -/
def roundedAt (s : Sign) (r : Nat) (t : Int) : UnpackedFloat :=
  if h : r = 0 then .zero s
  else if r = 2 ^ 53 then .finite s (2 ^ 52) (t + 1) (by positivity)
  else .finite s r t (Nat.pos_of_ne_zero h)

lemma log2_lt_of_lt_two_pow {r k : Nat} (hr : r < 2 ^ k) (hk : 0 < k) : r.log2 < k := by
  rcases Nat.eq_zero_or_pos r with rfl | hpos
  · simpa using hk
  · exact (Nat.log2_lt (by omega)).mpr hr

/-- A mantissa below `2 ^ 53` at an exponent of the range is already at its target exponent. -/
lemma shiftToTargetExponent_of_lt {r : Nat} {t : Int} (hr : r < 2 ^ 53) (ht : -1074 ≤ t) :
    shiftToTargetExponent Format.binary64 r t .exact = (⟨r, false, false⟩, t) := by
  have hlog := log2_lt_of_lt_two_pow hr (by norm_num)
  have htarget : Format.binary64.targetExponent (totalExponent r t) ≤ t := by
    simp only [Format.targetExponent, totalExponent, Format.mantissaBits, Format.minExponent]
    omega
  have hshift : (Format.binary64.targetExponent (totalExponent r t) - t).toNat = 0 := by omega
  simp only [shiftToTargetExponent, shiftToExponent, hshift, Int.natCast_zero, add_zero]
  rfl

/-- A mantissa that carried to `2 ^ 53` moves to the next exponent, losing no bit. -/
lemma shiftToTargetExponent_carry {t : Int} (ht : -1074 ≤ t) :
    shiftToTargetExponent Format.binary64 (2 ^ 53) t .exact = (⟨2 ^ 52, false, false⟩, t + 1) := by
  have htarget : Format.binary64.targetExponent (totalExponent (2 ^ 53) t) = t + 1 := by
    simp only [Format.targetExponent, totalExponent, Nat.log2_two_pow, Format.mantissaBits,
      Format.minExponent]
    omega
  simp only [shiftToTargetExponent, shiftToExponent, htarget, show (t + 1 - t).toNat = 1 by omega]
  rfl

/-- The exponent of the last place kept when `m · 2 ^ e` is rounded to a double: fifty-two places
below its leading bit, and never below the least exponent. -/
def lastPlace (m : Nat) (e : Int) : Int := Format.binary64.targetExponent (totalExponent m e)

/-- The units of `2 ^ lastPlace m e` that rounding keeps of `m · 2 ^ e`, ties to even. -/
def roundedUnits (m : Nat) (e : Int) : Nat := roundHalfEven m (2 ^ (lastPlace m e - e).toNat)

lemma minExponent_le_lastPlace (m : Nat) (e : Int) : -1074 ≤ lastPlace m e :=
  le_max_right _ Format.binary64.minExponent

variable {m : Nat} {e : Int}

/-- The last place: fifty-two places below the leading bit, and never below the least exponent. -/
lemma lastPlace_eq (m : Nat) (e : Int) : lastPlace m e = max (m.log2 + e - 52) (-1074) := by
  simp only [lastPlace, Format.targetExponent, totalExponent, Format.mantissaBits,
    Format.minExponent]
  norm_num
  omega

/-- At or below its last place a mantissa keeps at most `2 ^ 53` units, the carry included. -/
lemma roundedUnits_le (he : e ≤ lastPlace m e) : roundedUnits m e ≤ 2 ^ 53 := by
  have ht : totalExponent m e - Format.binary64.mantissaBits ≤ lastPlace m e := le_max_left _ _
  simp only [totalExponent, Format.mantissaBits] at ht
  have hlt : m < 2 ^ (m.log2 + 1) := Nat.lt_log2_self
  have hpow : 2 ^ (m.log2 + 1) ≤ 2 ^ 53 * 2 ^ (lastPlace m e - e).toNat := by
    rw [← Nat.pow_add]
    exact Nat.pow_le_pow_right (by norm_num) (by omega)
  have hdiv : m / 2 ^ (lastPlace m e - e).toNat < 2 ^ 53 :=
    (Nat.div_lt_iff_lt_mul (by positivity)).mpr (by linarith)
  exact (roundHalfEven_le _ _).trans hdiv

/-- Rounding a positive mantissa at or below its last place keeps `roundedUnits m e` units of
`2 ^ lastPlace m e`. -/
lemma roundWithAccuracy_eq_roundedAt (s : Sign) (he : e ≤ lastPlace m e) :
    roundWithAccuracy Format.binary64 s m e .exact =
      roundedAt s (roundedUnits m e) (lastPlace m e) := by
  have hmin := minExponent_le_lastPlace m e
  have hfirst : shiftToTargetExponent Format.binary64 m e .exact =
      (Nat.repeat ExtendedMantissa.shiftRightOne (lastPlace m e - e).toNat ⟨m, false, false⟩,
        lastPlace m e) := by
    simp only [shiftToTargetExponent, shiftToExponent, lastPlace]
    congr 1
    simp only [lastPlace] at he
    omega
  have hbound := roundedUnits_le he
  unfold roundWithAccuracy roundedAt
  rw [hfirst]
  simp only [roundedMantissa_repeat_shiftRightOne, roundedUnits] at hbound ⊢
  -- the rounded mantissa either fits, or carried to `2 ^ 53`
  rcases hbound.lt_or_eq with hlt | heq
  · simp only [shiftToTargetExponent_of_lt hlt hmin, hlt.ne, if_false]
  · simp only [heq, shiftToTargetExponent_carry hmin]
    rfl

/-! ## The rank of a rounded number -/

/-- The rank of the positive double rounded to `r` units of `2 ^ t`: zero when nothing is left,
infinity past the greatest exponent, and otherwise the exponent and mantissa after the carry. -/
def roundedRank (r : Nat) (t : Int) : ℤ ×ₗ (ℤ ×ₗ ℤ) :=
  if r = 0 then toLex (0, toLex (0, 0))
  else if r = 2 ^ 53 then
    if 971 < t + 1 then toLex (2, toLex (0, 0)) else toLex (1, toLex (t + 1, 2 ^ 52))
  else if 971 < t then toLex (2, toLex (0, 0)) else toLex (1, toLex (t, r))

lemma unpack_model_pack (u : UnpackedFloat) :
    (Float.Model.pack u).unpack = unpack Format.binary64 (pack Format.binary64 u) := rfl

/-- A pattern whose exponent field is zero and whose fraction is not unpacks to a subnormal
number at the least exponent. -/
lemma unpack_subnormal {b : BitVec 64} {s : Sign} {f : Nat}
    (hb : b.toNat = s.toBitVec.toNat * 2 ^ 63 + f) (hf0 : 0 < f) (hf : f < 2 ^ 52) :
    unpack Format.binary64 b = .finite s f (-1074) hf0 := by
  have hs : s.toBitVec.toNat < 2 := s.toBitVec.isLt
  have hexp : (@unpackExponent Format.binary64 b).toNat = 0 := by
    rw [toNat_unpackExponent, hb]; omega
  have hman : (@unpackMantissa Format.binary64 b).toNat = f := by
    rw [toNat_unpackMantissa, hb]; omega
  have hsign : @unpackSign Format.binary64 b = s.toBitVec := by
    apply BitVec.eq_of_toNat_eq
    rw [toNat_unpackSign, hb]; omega
  have hall : @unpackExponent Format.binary64 b ≠ -1#_ := by
    intro h; have := congrArg BitVec.toNat h; rw [hexp] at this; simp at this
  have hzero : @unpackExponent Format.binary64 b = 0#_ :=
    BitVec.eq_of_toNat_eq (by simpa using hexp)
  have hmz : @unpackMantissa Format.binary64 b ≠ 0#_ := by
    intro h; have := congrArg BitVec.toNat h; rw [hman] at this; simp at this; omega
  simp only [UnpackedFloat.unpack, hzero, hmz, if_false, if_true, dif_neg, not_false_eq_true,
    hsign, Sign.ofBitVec_toBitVec]
  simp [hman, Format.exponentBias]

/-- A subnormal number packs and unpacks to itself. -/
lemma unpack_pack_subnormal (s : Sign) {m : Nat} (hm : 0 < m) (hm' : m < 2 ^ 52) :
    unpack Format.binary64 (pack Format.binary64 (.finite s m (-1074) hm)) =
      .finite s m (-1074) hm := by
  have hlog : m.log2 < 52 := log2_lt_of_lt_two_pow hm' (by norm_num)
  have hbits : (pack Format.binary64 (.finite s m (-1074) hm)).toNat =
      s.toBitVec.toNat * 2 ^ 63 + m := by
    unfold UnpackedFloat.pack
    rw [if_neg (by simp [Format.exponentBias]),
      if_neg (by simp [Format.mantissaBits]; omega), toNat_packComponents]
    simp
    omega
  exact unpack_subnormal hbits hm hm'

/-- A positive number past the greatest exponent packs to infinity. -/
lemma unpack_pack_overflow {m : Nat} {e : Int} (hm : 0 < m) (he : 971 < e) :
    unpack Format.binary64 (pack Format.binary64 (.finite .positive m e hm)) =
      .infinity .positive := by
  have hinf : pack Format.binary64 (.finite .positive m e hm) = packedInfinity _ .positive := by
    unfold UnpackedFloat.pack
    rw [if_pos (by simp [Format.exponentBias]; omega)]
  rw [hinf]
  exact unpack_infinity (by simp [packedInfinity, toNat_packComponents, Sign.toBitVec])

/-- A positive number rounded to `r` units of `2 ^ t`, with `r` at most `2 ^ 53` and normal unless
at the least exponent, has the rank `roundedRank r t` once packed. -/
lemma unpackedRank_pack_roundedAt {r : Nat} {t : Int} (hr : r ≤ 2 ^ 53) (ht : -1074 ≤ t)
    (hn : r < 2 ^ 52 → t = -1074) :
    unpackedRank (Float.Model.pack (roundedAt .positive r t)).unpack = roundedRank r t := by
  rw [unpack_model_pack]
  unfold roundedAt roundedRank
  by_cases h0 : r = 0
  · rw [dif_pos h0, if_pos h0, ← unpack_model_pack, unpack_pack_zero]
    rfl
  rw [dif_neg h0, if_neg h0]
  by_cases hc : r = 2 ^ 53
  · -- the carry: `2 ^ 52` at the next exponent
    rw [if_pos hc, if_pos hc]
    by_cases ho : 971 < t + 1
    · rw [if_pos ho, unpack_pack_overflow _ ho]
      rfl
    · rw [if_neg ho, unpack_pack_normal _ le_rfl (by norm_num) (by omega) (by omega)]
      rfl
  rw [if_neg hc, if_neg hc]
  by_cases ho : 971 < t
  · rw [if_pos ho, unpack_pack_overflow _ ho]
    rfl
  rw [if_neg ho]
  rcases lt_or_ge r (2 ^ 52) with hs | hs
  · -- a subnormal number, at the least exponent
    obtain rfl := hn hs
    rw [unpack_pack_subnormal _ _ hs]
    rfl
  · rw [unpack_pack_normal _ hs (by omega) ht (by omega)]
    rfl

/-- Positive rounded numbers rank at least as high as zero. -/
lemma zero_le_roundedRank (r : Nat) (t : Int) : toLex (0, toLex (0, 0)) ≤ roundedRank r t := by
  unfold roundedRank
  split_ifs <;> simp [Prod.Lex.toLex_le_toLex]

/-- Rounded numbers are numbers. -/
lemma roundedRank_lt_nan (r : Nat) (t : Int) : roundedRank r t < toLex (3, toLex (0, 0)) := by
  unfold roundedRank
  split_ifs <;> simp [Prod.Lex.toLex_lt_toLex]

/-- At one exponent, more units rank higher. -/
lemma roundedRank_mono {r₁ r₂ : Nat} {t : Int} (h : r₁ ≤ r₂) (h₂ : r₂ ≤ 2 ^ 53) :
    roundedRank r₁ t ≤ roundedRank r₂ t := by
  unfold roundedRank
  split_ifs <;> simp [Prod.Lex.toLex_le_toLex] <;> omega

/-- A normal number at a greater exponent ranks higher, whatever the carry below it. -/
lemma roundedRank_le_of_lt {r₁ r₂ : Nat} {t₁ t₂ : Int} (ht : t₁ < t₂) (h₂ : 2 ^ 52 ≤ r₂)
    (h₂' : r₂ ≤ 2 ^ 53) : roundedRank r₁ t₁ ≤ roundedRank r₂ t₂ := by
  unfold roundedRank
  split_ifs <;> simp [Prod.Lex.toLex_le_toLex] <;> omega

/-! ## Rounding is monotone -/

section Rounding

variable {E : Int} {V V₁ V₂ : Nat}

/-- The last place moves up with the number. -/
lemma lastPlace_mono (h₁ : 0 < V₁) (h : V₁ ≤ V₂) : lastPlace V₁ E ≤ lastPlace V₂ E := by
  have hlog : V₁.log2 ≤ V₂.log2 :=
    (Nat.le_log2 (by omega)).mpr ((Nat.log2_self_le h₁.ne').trans h)
  rw [lastPlace_eq, lastPlace_eq]
  omega

/-- Above the least exponent rounding keeps at least `2 ^ 52` units: the result is normal. -/
lemma two_pow_52_le_roundedUnits (hV : 0 < V) (he : E ≤ lastPlace V E)
    (ht : -1074 < lastPlace V E) : 2 ^ 52 ≤ roundedUnits V E := by
  have hk : 52 + (lastPlace V E - E).toNat = V.log2 := by
    rw [lastPlace_eq] at he ht ⊢
    omega
  calc 2 ^ 52 ≤ V / 2 ^ (lastPlace V E - E).toNat := by
        rw [Nat.le_div_iff_mul_le (by positivity), ← Nat.pow_add, hk]
        exact Nat.log2_self_le hV.ne'
    _ ≤ roundedUnits V E := div_le_roundHalfEven _ _

/-- Rounding is monotone: of two positive mantissas at one exponent `E`, the larger rounds to a
rank at least as high. -/
lemma roundedRank_le_roundedRank (h₁ : 0 < V₁) (h : V₁ ≤ V₂) (he₂ : E ≤ lastPlace V₂ E) :
    roundedRank (roundedUnits V₁ E) (lastPlace V₁ E) ≤
      roundedRank (roundedUnits V₂ E) (lastPlace V₂ E) := by
  have hb₂ := roundedUnits_le he₂
  rcases (lastPlace_mono h₁ h).lt_or_eq with hlt | heq
  · -- the larger number is normal, at a greater exponent
    have hmin := minExponent_le_lastPlace V₁ E
    exact roundedRank_le_of_lt hlt (two_pow_52_le_roundedUnits (by omega) he₂ (by omega)) hb₂
  · -- one last place: the units are ordered as the mantissas
    have hu : roundedUnits V₁ E ≤ roundedUnits V₂ E := by
      unfold roundedUnits
      rw [heq]
      exact roundHalfEven_mono _ h
    rw [heq]
    exact roundedRank_mono hu hb₂

end Rounding

/-! ## Products of non-negative doubles -/

section Products

variable {m₁ m₂ : Nat} {e₁ e₂ : Int}

/-- A finite double sits at its last place. -/
lemma lastPlace_of_unpack {x : Float} {s : Sign} {hm : 0 < m₁}
    (h : x.toModel.unpack = .finite s m₁ e₁ hm) : lastPlace m₁ e₁ = e₁ :=
  targetExponent_of_unpack h

/-- A positive mantissa at its last place has at most fifty-three bits, and exactly fifty-three
unless it sits at the least exponent. -/
lemma shape_of_lastPlace_eq (hm : 0 < m₁) (h : lastPlace m₁ e₁ = e₁) :
    m₁ < 2 ^ 53 ∧ -1074 ≤ e₁ ∧ (2 ^ 52 ≤ m₁ ∨ e₁ = -1074) := by
  rw [lastPlace_eq] at h
  have hlog : m₁.log2 ≤ 52 := by omega
  refine ⟨Nat.lt_of_lt_of_le Nat.lt_log2_self (Nat.pow_le_pow_right (by norm_num) (by omega)),
    by omega, ?_⟩
  rcases eq_or_ne e₁ (-1074) with he | he
  · exact Or.inr he
  · have hlog' : m₁.log2 = 52 := by omega
    exact Or.inl (hlog' ▸ Nat.log2_self_le hm.ne')

/-- The exact product of two doubles at their last places is at or below its own last place: a
normal factor gives it fifty-three bits, and two subnormal factors put it far below the least
exponent. -/
lemma add_le_lastPlace_mul (hm₁ : 0 < m₁) (hm₂ : 0 < m₂) (h₁ : lastPlace m₁ e₁ = e₁)
    (h₂ : lastPlace m₂ e₂ = e₂) : e₁ + e₂ ≤ lastPlace (m₁ * m₂) (e₁ + e₂) := by
  obtain ⟨-, hl₁, hn₁⟩ := shape_of_lastPlace_eq hm₁ h₁
  obtain ⟨-, hl₂, hn₂⟩ := shape_of_lastPlace_eq hm₂ h₂
  rw [lastPlace_eq]
  rcases hn₁ with hn₁ | rfl
  · have : 52 ≤ (m₁ * m₂).log2 :=
      (Nat.le_log2 (by positivity)).mpr (hn₁.trans (Nat.le_mul_of_pos_right _ hm₂))
    omega
  rcases hn₂ with hn₂ | rfl
  · have : 52 ≤ (m₁ * m₂).log2 :=
      (Nat.le_log2 (by positivity)).mpr (hn₂.trans (Nat.le_mul_of_pos_left _ hm₁))
    omega
  · omega

/-- Two doubles at their last places are ordered by value as by rank; read at a common lower
exponent `E`, their mantissas are ordered. -/
lemma mul_two_pow_le_of_lex {E : Int} (hm₁ : 0 < m₁) (hm₂ : 0 < m₂) (h₁ : lastPlace m₁ e₁ = e₁)
    (h₂ : lastPlace m₂ e₂ = e₂) (hE₁ : E ≤ e₁) (hE₂ : E ≤ e₂)
    (hle : toLex (e₁, (m₁ : ℤ)) ≤ toLex (e₂, (m₂ : ℤ))) :
    m₁ * 2 ^ (e₁ - E).toNat ≤ m₂ * 2 ^ (e₂ - E).toNat := by
  obtain ⟨hlt₁, hl₁, -⟩ := shape_of_lastPlace_eq hm₁ h₁
  obtain ⟨-, -, hn₂⟩ := shape_of_lastPlace_eq hm₂ h₂
  rcases Prod.Lex.toLex_le_toLex.mp hle with hlt | ⟨heq, hm⟩
  · -- at a lower exponent fifty-three bits are worth less than a normal mantissa above
    have hn : 2 ^ 52 ≤ m₂ := hn₂.resolve_right (by omega)
    calc m₁ * 2 ^ (e₁ - E).toNat ≤ 2 ^ 53 * 2 ^ (e₁ - E).toNat := Nat.mul_le_mul_right _ hlt₁.le
      _ = 2 ^ 52 * 2 ^ ((e₁ - E).toNat + 1) := by ring
      _ ≤ 2 ^ 52 * 2 ^ (e₂ - E).toNat :=
        Nat.mul_le_mul_left _ (Nat.pow_le_pow_right (by norm_num) (by omega))
      _ ≤ m₂ * 2 ^ (e₂ - E).toNat := Nat.mul_le_mul_right _ hn
  · simp only at heq hm
    rw [heq]
    exact Nat.mul_le_mul_right _ (by omega)

lemma lastPlace_scale (hm : 0 < m₁) (k : Nat) (e : Int) :
    lastPlace (m₁ * 2 ^ k) (e - k) = lastPlace m₁ e := by
  simp only [lastPlace, totalExponent_scale hm]

/-- The rank of a positive number rounded from an exponent at or below its last place. -/
lemma unpackedRank_pack_roundWithAccuracy {V : Nat} {E : Int} (hV : 0 < V)
    (he : E ≤ lastPlace V E) :
    unpackedRank
        (Float.Model.pack (roundWithAccuracy Format.binary64 .positive V E .exact)).unpack =
      roundedRank (roundedUnits V E) (lastPlace V E) := by
  have hmin := minExponent_le_lastPlace V E
  rw [roundWithAccuracy_eq_roundedAt _ he]
  refine unpackedRank_pack_roundedAt (roundedUnits_le he) hmin fun hs => ?_
  by_contra hne
  have := two_pow_52_le_roundedUnits hV he (by omega)
  omega

/-- The rank of the product of two positive doubles: the rounding of the exact product, its
mantissa scaled up by `2 ^ k` to be read at the exponent `E`. -/
lemma rank_mul_of_positive {x c : Float} {k : Nat} {E : Int} {hm₁ : 0 < m₁} {hm₂ : 0 < m₂}
    (hx : x.toModel.unpack = .finite .positive m₁ e₁ hm₁)
    (hc : c.toModel.unpack = .finite .positive m₂ e₂ hm₂) (hE : e₁ + e₂ = E + k) :
    rank (x * c) = roundedRank (roundedUnits (m₁ * m₂ * 2 ^ k) E) (lastPlace (m₁ * m₂ * 2 ^ k) E) ∧
      E ≤ lastPlace (m₁ * m₂ * 2 ^ k) E := by
  have hle := add_le_lastPlace_mul hm₁ hm₂ (lastPlace_of_unpack hx) (lastPlace_of_unpack hc)
  have hE' : E = e₁ + e₂ - k := by omega
  have hlast : E ≤ lastPlace (m₁ * m₂ * 2 ^ k) E := by
    rw [hE', lastPlace_scale (by positivity)]
    omega
  refine ⟨?_, hlast⟩
  have hmul : (x * c).toModel =
      Float.Model.pack
        (roundWithAccuracy Format.binary64 .positive (m₁ * m₂ * 2 ^ k) E .exact) := by
    show Float.Model.pack (mul Format.binary64 x.toModel.unpack c.toModel.unpack) = _
    rw [hx, hc, hE', roundWithAccuracy_scale _ _ (by positivity) k hle]
    rfl
  rw [rank, hmul, unpackedRank_pack_roundWithAccuracy (by positivity) hlast]

end Products

/-! ## Multiplying non-negative doubles is monotone -/

section Monotone

/-- Zero has the rank of every zero. -/
lemma rank_zero : rank 0 = toLex (0, toLex (0, 0)) := rfl

/-- The finite doubles are those ranked strictly between the two infinities. -/
lemma isFinite_iff_rank (x : Float) :
    x.isFinite = true ↔ toLex (-2, toLex (0, 0)) < rank x ∧ rank x < toLex (2, toLex (0, 0)) := by
  change x.toModel.unpack.isFinite = true ↔ _
  unfold rank
  cases x.toModel.unpack with
  | infinity s => cases s <;> simp [unpackedRank, UnpackedFloat.isFinite, Prod.Lex.toLex_lt_toLex]
  | notANumber => simp [unpackedRank, UnpackedFloat.isFinite, Prod.Lex.toLex_lt_toLex]
  | zero s => simp [unpackedRank, UnpackedFloat.isFinite, Prod.Lex.toLex_lt_toLex]
  | finite s m e hm =>
    cases s <;> simp [unpackedRank, UnpackedFloat.isFinite, Prod.Lex.toLex_lt_toLex]

lemma isNaN_of_isFinite {x : Float} (h : x.isFinite = true) : x.isNaN = false := by
  change x.toModel.unpack.isFinite = true at h
  change x.toModel.unpack.isNaN = false
  cases hu : x.toModel.unpack <;> simp_all [UnpackedFloat.isFinite, UnpackedFloat.isNaN]

/-- Nothing is at most not-a-number. -/
lemma not_le_of_isNaN_right {x y : Float} (hy : y.isNaN = true) : ¬ x ≤ y := by
  rw [le_iff_compare]
  change y.toModel.unpack.isNaN = true at hy
  cases hu : y.toModel.unpack <;> cases x.toModel.unpack <;>
    simp_all [UnpackedFloat.isNaN, UnpackedFloat.compare]

/-- The order of doubles is transitive: comparable doubles are numbers, compared by rank. -/
lemma float_le_trans {x y z : Float} (hxy : x ≤ y) (hyz : y ≤ z) : x ≤ z := by
  have hx : x.isNaN = false := Bool.eq_false_iff.mpr fun h => not_le_of_isNaN_left h hxy
  have hy : y.isNaN = false := Bool.eq_false_iff.mpr fun h => not_le_of_isNaN_left h hyz
  have hz : z.isNaN = false := Bool.eq_false_iff.mpr fun h => not_le_of_isNaN_right h hyz
  rw [le_iff_rank hx hy] at hxy
  rw [le_iff_rank hy hz] at hyz
  exact (le_iff_rank hx hz).mpr (hxy.trans hyz)

/-- A non-negative double below a finite one is finite. -/
lemma isFinite_of_nonneg_of_le {x b : Float} (h0 : 0 ≤ x) (h : x ≤ b) (hb : b.isFinite = true) :
    x.isFinite = true := by
  have hxn : x.isNaN = false := by
    cases hn : x.isNaN
    · rfl
    · exact absurd h (not_le_of_isNaN_left hn)
  rw [le_iff_rank (by rfl) hxn, rank_zero] at h0
  rw [le_iff_rank hxn (isNaN_of_isFinite hb)] at h
  rw [isFinite_iff_rank] at hb ⊢
  exact ⟨lt_of_lt_of_le (by simp [Prod.Lex.toLex_lt_toLex]) h0, lt_of_le_of_lt h hb.2⟩

/-- A finite double of rank at least zero's is a zero or a positive number. -/
lemma unpack_of_rank_nonneg {x : Float} (h : rank 0 ≤ rank x) (hf : x.isFinite = true) :
    (∃ σ, x.toModel.unpack = .zero σ) ∨ ∃ m e hm, x.toModel.unpack = .finite .positive m e hm := by
  change x.toModel.unpack.isFinite = true at hf
  rw [rank_zero, rank] at h
  cases hu : x.toModel.unpack with
  | zero σ => exact Or.inl ⟨σ, rfl⟩
  | finite s m e hm =>
    cases s with
    | positive => exact Or.inr ⟨m, e, hm, rfl⟩
    | negative => simp [hu, unpackedRank, Prod.Lex.toLex_le_toLex] at h
  | infinity s => simp [hu, UnpackedFloat.isFinite] at hf
  | notANumber => simp [hu, UnpackedFloat.isFinite] at hf

/-- A zero times a finite double is a zero. -/
lemma rank_mul_of_zero_left {x c : Float} {σ : Sign} (hx : x.toModel.unpack = .zero σ)
    (hc : c.isFinite = true) : rank (x * c) = rank 0 := by
  change c.toModel.unpack.isFinite = true at hc
  obtain ⟨τ, hτ⟩ : ∃ τ, mul Format.binary64 (.zero σ) c.toModel.unpack = .zero τ := by
    cases hu : c.toModel.unpack <;>
      simp only [hu, UnpackedFloat.isFinite, Bool.false_eq_true] at hc <;> exact ⟨_, rfl⟩
  show unpackedRank
    (Float.Model.pack (mul Format.binary64 x.toModel.unpack c.toModel.unpack)).unpack = _
  rw [hx, hτ, unpack_pack_zero]
  rfl

/-- A finite double times a zero is a zero. -/
lemma rank_mul_of_zero_right {x c : Float} {σ : Sign} (hc : c.toModel.unpack = .zero σ)
    (hx : x.isFinite = true) : rank (x * c) = rank 0 := by
  change x.toModel.unpack.isFinite = true at hx
  obtain ⟨τ, hτ⟩ : ∃ τ, mul Format.binary64 x.toModel.unpack (.zero σ) = .zero τ := by
    cases hu : x.toModel.unpack <;>
      simp only [hu, UnpackedFloat.isFinite, Bool.false_eq_true] at hx <;> exact ⟨_, rfl⟩
  show unpackedRank
    (Float.Model.pack (mul Format.binary64 x.toModel.unpack c.toModel.unpack)).unpack = _
  rw [hc, hτ, unpack_pack_zero]
  rfl

/-- A double ranked below not-a-number is a number. -/
lemma isNaN_eq_false_of_rank_lt {x : Float} (h : rank x < toLex (3, toLex (0, 0))) :
    x.isNaN = false := by
  change x.toModel.unpack.isNaN = false
  unfold rank at h
  cases hu : x.toModel.unpack <;> simp_all [unpackedRank, UnpackedFloat.isNaN]

/-- The product of two non-negative finite doubles is a number ranked at least as high as zero. -/
lemma rank_mul_of_nonneg {y c : Float} (hy : rank 0 ≤ rank y) (hyf : y.isFinite = true)
    (hc : rank 0 ≤ rank c) (hcf : c.isFinite = true) :
    rank 0 ≤ rank (y * c) ∧ rank (y * c) < toLex (3, toLex (0, 0)) := by
  have hzero : rank 0 < toLex (3, toLex (0, 0)) := by simp [rank_zero, Prod.Lex.toLex_lt_toLex]
  rcases unpack_of_rank_nonneg hc hcf with ⟨τ, hτ⟩ | ⟨mc, ec, hmc, hcu⟩
  · rw [rank_mul_of_zero_right hτ hyf]
    exact ⟨le_rfl, hzero⟩
  rcases unpack_of_rank_nonneg hy hyf with ⟨σ, hσ⟩ | ⟨m, e, hm, hyu⟩
  · rw [rank_mul_of_zero_left hσ hcf]
    exact ⟨le_rfl, hzero⟩
  · obtain ⟨h, -⟩ := rank_mul_of_positive (k := 0) (E := e + ec) hyu hcu (by omega)
    rw [h]
    exact ⟨zero_le_roundedRank _ _, roundedRank_lt_nan _ _⟩

/-- Multiplying by a non-negative finite double keeps the order of the non-negative finite
doubles: rounding is monotone. -/
theorem rank_mul_le_mul {x y c : Float} (hx : 0 ≤ x) (hxy : x ≤ y) (hy : y.isFinite = true)
    (hc : 0 ≤ c) (hcf : c.isFinite = true) : rank (x * c) ≤ rank (y * c) := by
  have hxf := isFinite_of_nonneg_of_le hx hxy hy
  rw [le_iff_rank (by rfl) (isNaN_of_isFinite hxf)] at hx
  rw [le_iff_rank (isNaN_of_isFinite hxf) (isNaN_of_isFinite hy)] at hxy
  rw [le_iff_rank (by rfl) (isNaN_of_isFinite hcf)] at hc
  rcases unpack_of_rank_nonneg hc hcf with ⟨τ, hτ⟩ | ⟨mc, ec, hmc, hcu⟩
  · -- a zero factor: both products are zeros
    rw [rank_mul_of_zero_right hτ hxf, rank_mul_of_zero_right hτ hy]
  rcases unpack_of_rank_nonneg hx hxf with ⟨σ, hσ⟩ | ⟨m₁, e₁, hm₁, hxu⟩
  · rw [rank_mul_of_zero_left hσ hcf]
    exact (rank_mul_of_nonneg (hx.trans hxy) hy hc hcf).1
  rcases unpack_of_rank_nonneg (hx.trans hxy) hy with ⟨σ, hσ⟩ | ⟨m₂, e₂, hm₂, hyu⟩
  · rw [rank, hxu, rank, hσ] at hxy
    simp [unpackedRank, Prod.Lex.toLex_le_toLex] at hxy
  -- both factors positive: read both exact products at the lower of the two exponents
  have hlex : toLex (e₁, (m₁ : ℤ)) ≤ toLex (e₂, (m₂ : ℤ)) := by
    rw [rank, hxu, rank, hyu] at hxy
    simpa [unpackedRank, Prod.Lex.toLex_le_toLex] using hxy
  have hV := mul_two_pow_le_of_lex hm₁ hm₂ (lastPlace_of_unpack hxu) (lastPlace_of_unpack hyu)
    (min_le_left e₁ e₂) (min_le_right e₁ e₂) hlex
  obtain ⟨h₁, -⟩ := rank_mul_of_positive (k := (e₁ - min e₁ e₂).toNat) (E := min e₁ e₂ + ec)
    hxu hcu (by omega)
  obtain ⟨h₂, hlast⟩ := rank_mul_of_positive (k := (e₂ - min e₁ e₂).toNat) (E := min e₁ e₂ + ec)
    hyu hcu (by omega)
  rw [h₁, h₂]
  refine roundedRank_le_roundedRank (by positivity) ?_ hlast
  calc m₁ * mc * 2 ^ (e₁ - min e₁ e₂).toNat = m₁ * 2 ^ (e₁ - min e₁ e₂).toNat * mc := by ring
    _ ≤ m₂ * 2 ^ (e₂ - min e₁ e₂).toNat * mc := Nat.mul_le_mul_right _ hV
    _ = m₂ * mc * 2 ^ (e₂ - min e₁ e₂).toNat := by ring

end Monotone

/-! ## Counts -/

section Counts

/-- An unpacked double read as a sign and an exact magnitude, the way `decode` reads the fields:
a zero as no units of the least exponent. -/
def unpackedBinary64 : UnpackedFloat → Binary64
  | .notANumber => .nan
  | .infinity s => .infinite (s == .negative)
  | .zero s => .finite (s == .negative) ⟨0, -1074⟩
  | .finite s m e _ => .finite (s == .negative) ⟨m, e⟩

/-- Reading a double's fields is reading its unpacking. -/
lemma decode_eq_unpack (x : Float) : decode x = unpackedBinary64 x.toModel.unpack := by
  obtain ⟨b, hb⟩ : ∃ b : BitVec 64, x.toModel.toBits.toBitVec = b := ⟨_, rfl⟩
  have hbits : x.toBits.toNat = b.toNat := by rw [← hb]; rfl
  have hunpack : x.toModel.unpack = UnpackedFloat.unpack Format.binary64 b := by
    rw [Float.Model.unpack, hb]
  have hE := toNat_unpackExponent b
  have hM := toNat_unpackMantissa b
  have hS := toNat_unpackSign b
  have hall : (@unpackExponent Format.binary64 b = -1#_) ↔ b.toNat / 2 ^ 52 % 2048 = 2047 := by
    rw [← BitVec.toNat_inj, hE]; simp
  have hzero : (@unpackExponent Format.binary64 b = 0#_) ↔ b.toNat / 2 ^ 52 % 2048 = 0 := by
    rw [← BitVec.toNat_inj, hE]; simp
  have hfrac : (@unpackMantissa Format.binary64 b = 0#_) ↔ b.toNat % 2 ^ 52 = 0 := by
    rw [← BitVec.toNat_inj, hM]; simp
  have hsign : Sign.ofBitVec (@unpackSign Format.binary64 b) =
      if b.toNat / 2 ^ 63 % 2 = 1 then .negative else .positive := by
    unfold Sign.ofBitVec
    by_cases h : b.toNat / 2 ^ 63 % 2 = 1
    · rw [if_pos h, if_neg]
      intro h0
      have := congrArg BitVec.toNat h0
      rw [hS] at this
      simp at this
      omega
    · rw [if_neg h, if_pos]
      apply BitVec.eq_of_toNat_eq
      rw [hS]
      simp
      omega
  have happend : (1#1 ++ @unpackMantissa Format.binary64 b).toNat = 2 ^ 52 + b.toNat % 2 ^ 52 := by
    rw [BitVec.toNat_append,
      ← Nat.shiftLeft_add_eq_or_of_lt (@unpackMantissa Format.binary64 b).isLt,
      hM]
    simp [Nat.shiftLeft_eq]
  rw [hunpack]
  unfold decode UnpackedFloat.unpack
  simp only [hbits, hall, hzero, hfrac, Nat.pow_eq, beq_iff_eq, hsign, happend, hM, hE]
  split_ifs <;> simp_all [unpackedBinary64, Format.exponentBias] <;> omega

/-- The count a double converts to, read from its unpacking: the integer part of a positive number
capped at the greatest count, the greatest count for positive infinity, and zero otherwise. -/
def unpackedCount : UnpackedFloat → Nat
  | .finite .positive m e _ => min (m * 2 ^ e.toNat / 2 ^ (-e).toNat) (2 ^ 64 - 1)
  | .infinity .positive => 2 ^ 64 - 1
  | _ => 0

lemma toCount_eq_unpackedCount (x : Float) : toCount x = unpackedCount x.toModel.unpack := by
  rw [toCount, decode_eq_unpack]
  cases x.toModel.unpack with
  | infinity s => cases s <;> rfl
  | notANumber => rfl
  | zero s => cases s <;> simp only [unpackedBinary64, unpackedCount, Dyadic.toRatio, zero_mul,
      Nat.zero_div] <;> rfl
  | finite s m e hm => cases s <;> simp [unpackedBinary64, unpackedCount, Dyadic.toRatio]

/-- The integer part of `m · 2 ^ e`, read at a lower exponent `E` at most zero. -/
lemma floor_eq_at {m : Nat} {e E : Int} (hE : E ≤ e) (hE0 : E ≤ 0) :
    m * 2 ^ e.toNat / 2 ^ (-e).toNat = m * 2 ^ (e - E).toNat / 2 ^ (-E).toNat := by
  rcases le_or_gt 0 e with he | he
  · have hsplit : 2 ^ (e - E).toNat = 2 ^ e.toNat * 2 ^ (-E).toNat := by
      rw [← Nat.pow_add]; congr 1; omega
    rw [show (-e).toNat = 0 by omega, hsplit, ← Nat.mul_assoc,
      Nat.mul_div_cancel _ (by positivity)]
    simp
  · have hsplit : 2 ^ (-E).toNat = 2 ^ (e - E).toNat * 2 ^ (-e).toNat := by
      rw [← Nat.pow_add]; congr 1; omega
    rw [show e.toNat = 0 by omega, hsplit, Nat.mul_comm m (2 ^ (e - E).toNat),
      Nat.mul_div_mul_left _ _ (by positivity)]
    simp

/-- A number ranked above zero is a positive finite double or positive infinity. -/
lemma unpack_of_zero_lt_rank {y : Float} (h : rank 0 < rank y) (hy : y.isNaN = false) :
    (∃ m e hm, y.toModel.unpack = .finite .positive m e hm) ∨
      y.toModel.unpack = .infinity .positive := by
  change y.toModel.unpack.isNaN = false at hy
  rw [rank_zero, rank] at h
  cases hu : y.toModel.unpack with
  | finite s m e hm =>
    cases s with
    | positive => exact Or.inl ⟨m, e, hm, rfl⟩
    | negative => simp [hu, unpackedRank, Prod.Lex.toLex_lt_toLex] at h
  | infinity s =>
    cases s with
    | positive => exact Or.inr rfl
    | negative => simp [hu, unpackedRank, Prod.Lex.toLex_lt_toLex] at h
  | zero σ => simp [hu, unpackedRank] at h
  | notANumber => simp [hu, UnpackedFloat.isNaN] at hy

/-- The count of a double grows with its rank, below not-a-number. -/
lemma toCount_le_of_rank_le {x y : Float} (h : rank x ≤ rank y) (hy : y.isNaN = false) :
    toCount x ≤ toCount y := by
  rw [toCount_eq_unpackedCount, toCount_eq_unpackedCount]
  -- only positive numbers count, and a number ranked at least as high is positive too
  have hpos : rank 0 < rank x → rank 0 < rank y := fun hx0 => hx0.trans_le h
  cases hx : x.toModel.unpack with
  | finite s m₁ e₁ hm₁ =>
    cases s with
    | negative => simp [unpackedCount]
    | positive =>
      have hy0 : rank 0 < rank y :=
        hpos (by rw [rank_zero, rank, hx]; simp [unpackedRank, Prod.Lex.toLex_lt_toLex])
      rcases unpack_of_zero_lt_rank hy0 hy with ⟨m₂, e₂, hm₂, hu⟩ | hu
      · -- both positive: the integer parts are read at one exponent below both
        have hlex : toLex (e₁, (m₁ : ℤ)) ≤ toLex (e₂, (m₂ : ℤ)) := by
          rw [rank, rank, hx, hu] at h
          simpa [unpackedRank, Prod.Lex.toLex_le_toLex] using h
        have hV := mul_two_pow_le_of_lex (E := min (min e₁ e₂) 0) hm₁ hm₂
          (lastPlace_of_unpack hx) (lastPlace_of_unpack hu) (by omega) (by omega) hlex
        rw [hu]
        simp only [unpackedCount]
        rw [floor_eq_at (E := min (min e₁ e₂) 0) (by omega) (by omega),
          floor_eq_at (E := min (min e₁ e₂) 0) (by omega) (by omega)]
        exact min_le_min_right _ (Nat.div_le_div_right hV)
      · -- positive infinity counts the most
        rw [hu]
        unfold unpackedCount
        split <;> omega
  | infinity s =>
    cases s with
    | negative => simp [unpackedCount]
    | positive =>
      -- only positive infinity ranks as high, not-a-number apart
      have hy0 : rank 0 < rank y :=
        hpos (by rw [rank_zero, rank, hx]; simp [unpackedRank, Prod.Lex.toLex_lt_toLex])
      rcases unpack_of_zero_lt_rank hy0 hy with ⟨m₂, e₂, hm₂, hu⟩ | hu
      · rw [rank, rank, hx, hu] at h
        simp [unpackedRank, Prod.Lex.toLex_le_toLex] at h
      · rw [hu]
  | zero s => simp [unpackedCount]
  | notANumber => simp [unpackedCount]

/-- The count of `x · c` grows with `x` over the non-negative finite doubles, for a non-negative
finite `c`: both the product and the conversion to a count are monotone. -/
theorem toCount_mul_le_mul {x y c : Float} (hx : 0 ≤ x) (hxy : x ≤ y) (hy : y.isFinite = true)
    (hc : 0 ≤ c) (hcf : c.isFinite = true) : toCount (x * c) ≤ toCount (y * c) := by
  have hy0 : rank 0 ≤ rank y := by
    have hxf := isFinite_of_nonneg_of_le hx hxy hy
    rw [le_iff_rank (by rfl) (isNaN_of_isFinite hxf)] at hx
    rw [le_iff_rank (isNaN_of_isFinite hxf) (isNaN_of_isFinite hy)] at hxy
    exact hx.trans hxy
  have hc0 : rank 0 ≤ rank c := (le_iff_rank (by rfl) (isNaN_of_isFinite hcf)).mp hc
  exact toCount_le_of_rank_le (rank_mul_le_mul hx hxy hy hc hcf)
    (isNaN_eq_false_of_rank_lt (rank_mul_of_nonneg hy0 hy hc0 hcf).2)

/-- A double is finite when it is neither not-a-number nor an infinity. -/
lemma isFinite_eq (x : Float) : x.isFinite = (!x.isNaN && !x.isInf) := by
  change x.toModel.unpack.isFinite = (!x.toModel.unpack.isNaN && !x.toModel.unpack.isInf)
  cases x.toModel.unpack <;> rfl

/-- Counts are at most the greatest count. -/
lemma toCount_le (x : Float) : toCount x ≤ 2 ^ 64 - 1 := by
  rw [toCount_eq_unpackedCount]
  unfold unpackedCount
  split <;> omega

/-- The double of a count is finite: its exponent is far below the greatest. -/
lemma isFinite_countToFloat (c : UInt64) : (countToFloat c).isFinite = true := by
  have hn : c.toNat < 2 ^ 64 := c.toNat_lt
  rw [isFinite_iff_rank, countToFloat, show ((c.toNat : Int)) = ((c.toNat : Nat) : Int) from rfl,
    rank_ofInt_natCast]
  unfold wholeRank
  split_ifs with h0 hbig
  · simp [Prod.Lex.toLex_lt_toLex]
  · -- a count has at most sixty-four bits
    have hlog : c.toNat.log2 < 64 := (Nat.log2_lt h0).mpr hn
    have : (wholeFields c.toNat).2 ≤ c.toNat.log2 - 52 + 1 := by
      unfold wholeFields wholeUnit
      split_ifs <;> simp
    omega
  · simp [Prod.Lex.toLex_lt_toLex]

/-- The double of a count is not negative. -/
lemma zero_le_countToFloat (c : UInt64) : 0 ≤ countToFloat c := by
  rw [le_iff_rank (by rfl) (isNaN_of_isFinite (isFinite_countToFloat c)), countToFloat,
    show ((c.toNat : Int)) = ((c.toNat : Nat) : Int) from rfl, rank_ofInt_natCast, rank_zero]
  unfold wholeRank
  split_ifs <;> simp [Prod.Lex.toLex_le_toLex]

end Counts

/-! ## Values -/

section Values

/-- A mantissa read at a lower exponent `E` keeps its value. -/
lemma cast_mul_zpow_eq {m : Nat} {e E : Int} (h : E ≤ e) :
    (m : ℚ) * 2 ^ e = ((m * 2 ^ (e - E).toNat : Nat) : ℚ) * 2 ^ E := by
  rw [Nat.cast_mul, Nat.cast_pow, Nat.cast_ofNat, mul_assoc, ← zpow_natCast,
    ← zpow_add₀ two_ne_zero]
  congr 2
  omega

/-- Of two finite doubles of one sign, the one whose exponent and mantissa come first lexically
has the smaller magnitude. -/
lemma magnitude_le_of_lex {x y : Float} {s s' : Sign} {m₁ m₂ : Nat} {e₁ e₂ : Int} {hm₁ : 0 < m₁}
    {hm₂ : 0 < m₂} (hx : x.toModel.unpack = .finite s m₁ e₁ hm₁)
    (hy : y.toModel.unpack = .finite s' m₂ e₂ hm₂)
    (hle : toLex (e₁, (m₁ : ℤ)) ≤ toLex (e₂, (m₂ : ℤ))) : (m₁ : ℚ) * 2 ^ e₁ ≤ m₂ * 2 ^ e₂ := by
  have hV := mul_two_pow_le_of_lex hm₁ hm₂ (lastPlace_of_unpack hx) (lastPlace_of_unpack hy)
    (min_le_left e₁ e₂) (min_le_right e₁ e₂) hle
  rw [cast_mul_zpow_eq (min_le_left e₁ e₂), cast_mul_zpow_eq (min_le_right e₁ e₂)]
  exact mul_le_mul_of_nonneg_right (by exact_mod_cast hV) (by positivity)

/-- Finite doubles are ordered by value as by rank. -/
lemma value?_le_of_rank_le {x y : Float} {a b : ℚ} (hx : value? x = some a)
    (hy : value? y = some b) (h : rank x ≤ rank y) : a ≤ b := by
  unfold value? at hx hy
  unfold rank at h
  cases hux : x.toModel.unpack with
  | infinity s => simp [hux, unpackedValue?] at hx
  | notANumber => simp [hux, unpackedValue?] at hx
  | zero σ =>
    cases huy : y.toModel.unpack with
    | infinity s => simp [huy, unpackedValue?] at hy
    | notANumber => simp [huy, unpackedValue?] at hy
    | zero τ => simp_all [unpackedValue?]
    | finite s m e hm =>
      cases s with
      | positive =>
        simp only [hux, huy, unpackedValue?, Option.some.injEq, Sign.apply] at hx hy
        rw [← hx, ← hy]
        push_cast
        positivity
      | negative =>
        rw [hux, huy] at h
        simp [unpackedRank, Prod.Lex.toLex_le_toLex] at h
  | finite s m₁ e₁ hm₁ =>
    cases huy : y.toModel.unpack with
    | infinity s => simp [huy, unpackedValue?] at hy
    | notANumber => simp [huy, unpackedValue?] at hy
    | zero τ =>
      cases s with
      | positive =>
        rw [hux, huy] at h
        simp [unpackedRank, Prod.Lex.toLex_le_toLex] at h
      | negative =>
        simp only [hux, huy, unpackedValue?, Option.some.injEq, Sign.apply] at hx hy
        rw [← hx, ← hy]
        push_cast
        have : (0 : ℚ) ≤ m₁ * 2 ^ e₁ := by positivity
        linarith
    | finite s' m₂ e₂ hm₂ =>
      simp only [hux, huy, unpackedValue?, Option.some.injEq] at hx hy
      rw [hux, huy] at h
      rw [← hx, ← hy]
      cases s with
      | positive =>
        cases s' with
        | positive =>
          -- two positive numbers: their exponents and mantissas in lexical order
          have hle : toLex (e₁, (m₁ : ℤ)) ≤ toLex (e₂, (m₂ : ℤ)) := by
            simpa [unpackedRank, Prod.Lex.toLex_le_toLex] using h
          simpa [Sign.apply] using magnitude_le_of_lex hux huy hle
        | negative => simp [unpackedRank, Prod.Lex.toLex_le_toLex] at h
      | negative =>
        cases s' with
        | positive =>
          simp only [Sign.apply, Int.cast_neg, Int.cast_natCast, neg_mul]
          have : (0 : ℚ) ≤ m₁ * 2 ^ e₁ := by positivity
          have : (0 : ℚ) ≤ m₂ * 2 ^ e₂ := by positivity
          linarith
        | negative =>
          -- two negative numbers: the lexical order of the magnitudes is reversed
          have hle : toLex (e₂, (m₂ : ℤ)) ≤ toLex (e₁, (m₁ : ℤ)) := by
            simp [unpackedRank, Prod.Lex.toLex_le_toLex] at h
            simp only [Prod.Lex.toLex_le_toLex]
            omega
          have := magnitude_le_of_lex huy hux hle
          simp only [Sign.apply, Int.cast_neg, Int.cast_natCast, neg_mul]
          linarith

/-- A finite double has a value. -/
lemma exists_value?_of_isFinite {x : Float} (h : x.isFinite = true) : ∃ q, value? x = some q := by
  change x.toModel.unpack.isFinite = true at h
  unfold value?
  cases hu : x.toModel.unpack <;> simp_all [unpackedValue?, UnpackedFloat.isFinite]

/-- Finite doubles of different ranks have different values. -/
lemma value?_lt_of_rank_lt {x y : Float} {a b : ℚ} (hx : value? x = some a)
    (hy : value? y = some b) (h : rank x < rank y) : a < b := by
  refine lt_of_le_of_ne (value?_le_of_rank_le hx hy h.le) fun hab => ?_
  subst hab
  have heq := unsignZero_eq_of_value? hx hy
  rw [← rank_unsignZero x, ← rank_unsignZero y, heq] at h
  exact lt_irrefl _ h

/-- One is worth one. -/
lemma value?_one : value? 1 = some 1 := by
  have h : (1 : Float).toModel.unpack = .finite .positive (2 ^ 52) (-52) (by norm_num) := by rfl
  rw [value?, h, unpackedValue?]
  norm_num [Sign.apply]

end Values

end DataQuality.Decimal
