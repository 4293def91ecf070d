import Mathlib
import DataQuality.Proofs.Double.Rounding
import DataQuality.Proofs.Double.WholeArithmetic

/-!
# Shares of counts

A share of rows is the quotient of the doubles of two counts.  When the first count is at most the
second, which is positive and below `2 ^ 64`, the quotient lies in `[0, 1]`
(`ofInt_div_ofInt_mem_unit`).

The logical model of `Float` divides two positive doubles by an integer division of their
mantissas, the dividend scaled up far enough that the quotient `Q` has at least fifty-three bits
at an exponent `t`; of the rest it keeps only an accuracy: none, below half a unit, half a unit,
or above (`divCore`).  Rounding reads the accuracy as a round bit and a sticky bit, and these are
the two lowest bits of the whole number `4 Q + r`, with `r` from 0 to 3 coding the accuracy
(`accuracyCode`): so the quotient is the rounding of `4 Q + r` at `t - 2`, as if that number were
exact (`roundWithAccuracy_eq_exact`).  A dividend at most the divisor makes that number at most
the mantissa of one at `t - 2`, since a rest is left only below it (`four_mul_div_add_le`), and
rounding is monotone (`roundedRank_le_roundedRank`): the quotient ranks no higher than one.
-/

namespace DataQuality.Decimal

open Float.Model Float.Model.UnpackedFloat

/-! ## Rounding with an accuracy -/

section Accuracy

open ExtendedMantissa

/-- The two bits below a mantissa that an accuracy stands for: none, below half a unit, half a
unit, above half a unit. -/
def accuracyCode : Accuracy → Nat
  | .exact => 0
  | .inexact .lt => 1
  | .inexact .eq => 2
  | .inexact .gt => 3

lemma accuracyCode_lt (acc : Accuracy) : accuracyCode acc < 4 := by
  rcases acc with _ | (_ | _ | _) <;> decide

/-- Shifting the exact number `4 Q + r` two places right leaves `Q` with the accuracy `r` codes. -/
lemma repeat_two_shiftRightOne (Q : Nat) (acc : Accuracy) :
    Nat.repeat shiftRightOne 2 (ofMantissaAndAccuracy (4 * Q + accuracyCode acc) .exact) =
      ofMantissaAndAccuracy Q acc := by
  rw [ofMantissaAndAccuracy, repeat_shiftRightOne_succ]
  rcases acc with _ | (_ | _ | _) <;>
    simp only [ofMantissaAndAccuracy, accuracyCode, ExtendedMantissa.mk.injEq, bne_eq_false_iff_eq,
      bne_iff_ne, ne_eq] <;> omega

/-- `4 Q + r` has the leading bit of `Q`, two places up. -/
lemma log2_four_mul_add {Q r : Nat} (hQ : 0 < Q) (hr : r < 4) : (4 * Q + r).log2 = Q.log2 + 2 := by
  have hlo := Nat.log2_self_le hQ.ne'
  have hhi := Nat.lt_log2_self (n := Q)
  rw [Nat.log2_eq_iff (by omega)]
  constructor
  · calc 2 ^ (Q.log2 + 2) = 4 * 2 ^ Q.log2 := by ring
      _ ≤ 4 * Q + r := by omega
  · calc 4 * Q + r < 4 * (Q + 1) := by omega
      _ ≤ 4 * 2 ^ (Q.log2 + 1) := Nat.mul_le_mul_left _ hhi
      _ = 2 ^ (Q.log2 + 2 + 1) := by ring

lemma lastPlace_four_mul_add {Q r : Nat} (hQ : 0 < Q) (hr : r < 4) (t : Int) :
    lastPlace (4 * Q + r) (t - 2) = lastPlace Q t := by
  rw [lastPlace_eq, lastPlace_eq, log2_four_mul_add hQ hr]
  omega

/-- Rounding with an accuracy is rounding, as if exact, the number two places further down whose
two lowest bits code the accuracy, when the place rounded to is not below the given exponent. -/
lemma roundWithAccuracy_eq_exact (s : Sign) (acc : Accuracy) {Q : Nat} {t : Int} (hQ : 0 < Q)
    (ht : t ≤ lastPlace Q t) :
    roundWithAccuracy Format.binary64 s Q t acc =
      roundWithAccuracy Format.binary64 s (4 * Q + accuracyCode acc) (t - 2) .exact := by
  have hlast := lastPlace_four_mul_add hQ (accuracyCode_lt acc) t
  -- both numbers are shifted to one place: the second two steps more, which give the first
  have hshift : shiftToTargetExponent Format.binary64 (4 * Q + accuracyCode acc) (t - 2) .exact =
      shiftToTargetExponent Format.binary64 Q t acc := by
    unfold lastPlace at hlast ht
    simp only [shiftToTargetExponent, shiftToExponent, hlast]
    have hk : (Format.binary64.targetExponent (totalExponent Q t) - (t - 2)).toNat =
        (Format.binary64.targetExponent (totalExponent Q t) - t).toNat + 2 := by omega
    rw [hk]
    congr 1
    · show Nat.repeat shiftRightOne (_ + 2) _ = Nat.repeat shiftRightOne _ _
      rw [repeat_add, repeat_two_shiftRightOne]
    · omega
  unfold roundWithAccuracy
  rw [hshift]

end Accuracy

/-! ## Quotients of normal doubles -/

section Quotient

/-- Two normal mantissas are divided with the dividend scaled up by `2 ^ 53`, at fifty-three places
below the difference of their exponents, when that is not below the least exponent. -/
lemma divCore_normal {m₁ m₂ : Nat} {e₁ e₂ : Int} (h₁ : m₁.log2 = 52) (h₂ : m₂.log2 = 52)
    (he : -1021 ≤ e₁ - e₂) :
    divCore Format.binary64 m₁ e₁ m₂ e₂ =
      (m₁ * 2 ^ 53 / m₂, e₁ - e₂ - 53, accuracyOfFraction (m₁ * 2 ^ 53 % m₂) m₂) := by
  have ht : Format.binary64.targetExponent (totalExponent m₁ e₁ - totalExponent m₂ e₂) =
      e₁ - e₂ - 53 := by
    simp only [Format.targetExponent, totalExponent, h₁, h₂, Format.mantissaBits,
      Format.minExponent]
    omega
  have hmin : min (e₁ - e₂) (e₁ - e₂ - 53) = e₁ - e₂ - 53 := by omega
  have hshift : (e₁ - e₂ - (e₁ - e₂ - 53)).toNat = 53 := by omega
  simp only [divCore, ht, hmin, hshift, Nat.shiftLeft_eq]

/-- The quotient with its accuracy coded in two more bits is at most `4 K` when the dividend is at
most `K` times the divisor: a rest is left only below `K`. -/
lemma four_mul_div_add_le {N d K : Nat} (h : N ≤ K * d) :
    4 * (N / d) + accuracyCode (accuracyOfFraction (N % d) d) ≤ 4 * K := by
  have hq : N / d ≤ K := Nat.div_le_of_le_mul (by rw [Nat.mul_comm]; exact h)
  unfold accuracyOfFraction
  split_ifs with hr
  · simp only [accuracyCode]
    omega
  · -- a rest: the quotient falls short of `K`
    have hlt : N / d < K := by
      have hsplit := Nat.div_add_mod N d
      by_contra hge
      have : K * d ≤ d * (N / d) := by rw [Nat.mul_comm]; exact Nat.mul_le_mul_left _ (by omega)
      omega
    have := accuracyCode_lt (.inexact (compare (2 * (N % d)) d))
    omega

/-- The double one, as ranked: `2 ^ 52` units of `2 ^ -52`. -/
lemma rank_one : rank 1 = toLex (1, toLex (-52, 2 ^ 52)) := rfl

/-- One at the exponent `-j` is `2 ^ j` units, which round to one. -/
lemma roundedRank_two_pow {j : Nat} (hj : 52 ≤ j) :
    roundedRank (roundedUnits (2 ^ j) (-j)) (lastPlace (2 ^ j) (-j)) = rank 1 := by
  have hlast : lastPlace (2 ^ j) (-j) = -52 := by
    rw [lastPlace_eq, Nat.log2_two_pow]
    omega
  have hunits : roundedUnits (2 ^ j) (-j) = 2 ^ 52 := by
    rw [roundedUnits, hlast, show (-52 - -(j : Int)).toNat = j - 52 by omega,
      show 2 ^ j = 2 ^ 52 * 2 ^ (j - 52) by rw [← Nat.pow_add]; congr 1; omega]
    unfold roundHalfEven
    simp [Nat.mul_mod_left, Nat.mul_div_cancel _ (Nat.two_pow_pos (j - 52))]
  rw [hunits, hlast, rank_one, roundedRank, if_neg (by norm_num), if_neg (by norm_num),
    if_neg (by norm_num), Nat.cast_pow, Nat.cast_ofNat]

/-- The quotient of two mantissas scaled by `2 ^ 53`, in quarters of a unit, with the accuracy of
its rest coded in the two bits below. -/
def quotientUnits (m₁ m₂ : Nat) : Nat :=
  4 * (m₁ * 2 ^ 53 / m₂) + accuracyCode (accuracyOfFraction (m₁ * 2 ^ 53 % m₂) m₂)

/-- Mantissas of fifty-three bits have a scaled quotient of fifty-three bits at least. -/
lemma two_pow_le_div {m₁ m₂ : Nat} (hm₁ : 0 < m₁) (hm₂ : 0 < m₂) (h₁ : m₁.log2 = 52)
    (h₂ : m₂.log2 = 52) : 2 ^ 52 ≤ m₁ * 2 ^ 53 / m₂ := by
  obtain ⟨hlo₁, -⟩ := (Nat.log2_eq_iff hm₁.ne').mp h₁
  obtain ⟨-, hhi₂⟩ := (Nat.log2_eq_iff hm₂.ne').mp h₂
  rw [Nat.le_div_iff_mul_le hm₂]
  calc 2 ^ 52 * m₂ ≤ 2 ^ 52 * 2 ^ 53 := Nat.mul_le_mul_left _ hhi₂.le
    _ ≤ m₁ * 2 ^ 53 := Nat.mul_le_mul_right _ hlo₁

variable {x y : Float} {m₁ m₂ : Nat} {e₁ e₂ : Int} {hm₁ : 0 < m₁} {hm₂ : 0 < m₂}

/-- The quotient of two positive normal doubles whose exponents are at most `1021` apart is the
rounding of the scaled quotient of their mantissas, its accuracy in two more bits. -/
lemma rank_div_of_normal_eq (hx : x.toModel.unpack = .finite .positive m₁ e₁ hm₁)
    (hy : y.toModel.unpack = .finite .positive m₂ e₂ hm₂) (h₁ : m₁.log2 = 52) (h₂ : m₂.log2 = 52)
    (he : e₂ - e₁ ≤ 1021) :
    rank (x / y) = roundedRank (roundedUnits (quotientUnits m₁ m₂) (e₁ - e₂ - 55))
      (lastPlace (quotientUnits m₁ m₂) (e₁ - e₂ - 55)) := by
  set Q := m₁ * 2 ^ 53 / m₂ with hQ
  set acc := accuracyOfFraction (m₁ * 2 ^ 53 % m₂) m₂ with hacc
  -- the quotient has at least fifty-three bits at `e₁ - e₂ - 53`
  have hQ52 : 2 ^ 52 ≤ Q := two_pow_le_div hm₁ hm₂ h₁ h₂
  have hQpos : 0 < Q := by omega
  have htQ : e₁ - e₂ - 53 ≤ lastPlace Q (e₁ - e₂ - 53) := by
    have : 52 ≤ Q.log2 := (Nat.le_log2 hQpos.ne').mpr hQ52
    rw [lastPlace_eq]
    omega
  have hV : 0 < 4 * Q + accuracyCode acc := by omega
  have hlast : e₁ - e₂ - 53 - 2 ≤ lastPlace (4 * Q + accuracyCode acc) (e₁ - e₂ - 53 - 2) := by
    rw [lastPlace_four_mul_add hQpos (accuracyCode_lt acc)]
    omega
  have hdiv : (x / y).toModel = Float.Model.pack
      (roundWithAccuracy Format.binary64 .positive Q (e₁ - e₂ - 53) acc) := by
    show Float.Model.pack (div Format.binary64 x.toModel.unpack y.toModel.unpack) = _
    rw [hx, hy]
    have hcore := divCore_normal h₁ h₂ (show -1021 ≤ e₁ - e₂ by omega)
    simp only [UnpackedFloat.div, hcore]
    rfl
  rw [rank, hdiv, roundWithAccuracy_eq_exact _ _ hQpos htQ,
    unpackedRank_pack_roundWithAccuracy hV hlast, show e₁ - e₂ - 53 - 2 = e₁ - e₂ - 55 by ring]
  rfl

/-- The quotient of a positive normal double by another at least as great, at most `2 ^ 1021`
times greater, ranks between zero and one. -/
lemma rank_div_of_normal (hx : x.toModel.unpack = .finite .positive m₁ e₁ hm₁)
    (hy : y.toModel.unpack = .finite .positive m₂ e₂ hm₂) (h₁ : m₁.log2 = 52) (h₂ : m₂.log2 = 52)
    (hxy : rank x ≤ rank y) (he : e₂ - e₁ ≤ 1021) :
    rank 0 ≤ rank (x / y) ∧ rank (x / y) ≤ rank 1 := by
  -- the dividend is at most `2 ^ (e₂ - e₁)` times the divisor
  have hlex : toLex (e₁, (m₁ : ℤ)) ≤ toLex (e₂, (m₂ : ℤ)) := by
    rw [rank, hx, rank, hy] at hxy
    simpa [unpackedRank, Prod.Lex.toLex_le_toLex] using hxy
  have he₁₂ : e₁ ≤ e₂ := by rcases Prod.Lex.toLex_le_toLex.mp hlex with h | ⟨h, -⟩ <;> omega
  have hval := mul_two_pow_le_of_lex hm₁ hm₂ (lastPlace_of_unpack hx) (lastPlace_of_unpack hy)
    le_rfl he₁₂ hlex
  rw [sub_self, Int.toNat_zero, Nat.pow_zero, Nat.mul_one] at hval
  set k := (e₂ - e₁).toNat with hk
  have hV : 0 < quotientUnits m₁ m₂ := by
    have := two_pow_le_div hm₁ hm₂ h₁ h₂
    unfold quotientUnits
    omega
  have hrank := rank_div_of_normal_eq hx hy h₁ h₂ he
  refine ⟨hrank ▸ zero_le_roundedRank _ _, ?_⟩
  -- one is `2 ^ (55 + k)` units at `e₁ - e₂ - 55`, and the quotient is at most that many
  have hbound : quotientUnits m₁ m₂ ≤ 2 ^ (55 + k) := by
    have h := four_mul_div_add_le (K := 2 ^ (53 + k)) (by
      calc m₁ * 2 ^ 53 ≤ m₂ * 2 ^ k * 2 ^ 53 := Nat.mul_le_mul_right _ hval
        _ = 2 ^ (53 + k) * m₂ := by ring)
    calc quotientUnits m₁ m₂ ≤ 4 * 2 ^ (53 + k) := h
      _ = 2 ^ (55 + k) := by ring
  have hE : e₁ - e₂ - 55 = -((55 + k : Nat) : Int) := by omega
  rw [hrank, ← roundedRank_two_pow (j := 55 + k) (by omega), ← hE]
  exact roundedRank_le_roundedRank hV hbound (by rw [hE, lastPlace_eq, Nat.log2_two_pow]; omega)

end Quotient

/-! ## Shares of counts -/

section Shares

/-- The double of a positive count below `2 ^ 64` is the normal double of its rounded fields. -/
lemma unpack_ofInt_wholeFields {n : Nat} (h0 : 0 < n) (h : n < 2 ^ 64) :
    ∃ hm, (ofInt n).toModel.unpack = .finite .positive (wholeFields n).1 (wholeFields n).2 hm := by
  obtain ⟨hm, hm', hu⟩ := wholeFields_bounds h0
  -- at most sixty-four bits: the last place is at most eleven, twelve after a carry
  have hlog : n.log2 < 64 := (Nat.log2_lt h0.ne').mpr h
  have htop : (wholeFields n).2 ≤ 12 := by
    unfold wholeFields wholeUnit
    split_ifs <;> simp only <;> omega
  rw [ofInt_natCast_of_pos h0, if_neg (by omega),
    unpack_assemble_normal (by omega) (by omega) (by omega), signOf_false]
  have hmant : 2 ^ 52 + ((wholeFields n).1 - 2 ^ 52) = (wholeFields n).1 := by omega
  have hexp : ((((wholeFields n).2 + 1075).toNat : Nat) : Int) - 1075 = (wholeFields n).2 := by
    omega
  simp only [hmant, hexp]
  exact ⟨by omega, trivial⟩

/-- The double of a positive count below `2 ^ 64` is normal, at an exponent between `-52` and
`12`. -/
lemma unpack_ofInt_natCast {n : Nat} (h0 : 0 < n) (h : n < 2 ^ 64) :
    ∃ m e hm, (ofInt n).toModel.unpack = .finite .positive m e hm ∧ m.log2 = 52 ∧ -52 ≤ e ∧
      e ≤ 12 := by
  obtain ⟨hm, hm', hu⟩ := wholeFields_bounds h0
  have hlog : n.log2 < 64 := (Nat.log2_lt h0.ne').mpr h
  have htop : (wholeFields n).2 ≤ 12 := by
    unfold wholeFields wholeUnit
    split_ifs <;> simp only <;> omega
  obtain ⟨hpos, hu⟩ := unpack_ofInt_wholeFields h0 h
  exact ⟨_, _, hpos, hu, (Nat.log2_eq_iff (by omega)).mpr ⟨by omega, by omega⟩, by omega, htop⟩

/-- Zero over a positive count is zero. -/
lemma rank_ofInt_zero_div {b : Nat} (hb : 0 < b) (hb' : b < 2 ^ 64) :
    rank (ofInt ((0 : Nat) : Int) / ofInt b) = rank 0 := by
  obtain ⟨m, e, hm, hy, -, -, -⟩ := unpack_ofInt_natCast hb hb'
  show unpackedRank (Float.Model.pack (UnpackedFloat.div Format.binary64
    (ofInt ((0 : Nat) : Int)).toModel.unpack (ofInt b).toModel.unpack)).unpack = _
  rw [ofInt_natCast_zero, unpack_assemble_zero, hy]
  simp only [UnpackedFloat.div]
  rw [unpack_pack_zero]
  rfl

/-- The share of a count in a positive count at least as large and below `2 ^ 64` is a double in
`[0, 1]`. -/
theorem ofInt_div_ofInt_mem_unit {a b : Nat} (hab : a ≤ b) (hb : 0 < b) (hb' : b < 2 ^ 64) :
    0 ≤ ofInt a / ofInt b ∧ ofInt a / ofInt b ≤ 1 := by
  obtain ⟨m₂, e₂, hm₂, hy, h₂, hlo₂, hhi₂⟩ := unpack_ofInt_natCast hb hb'
  -- the share ranks between zero and one
  have hrank : rank 0 ≤ rank (ofInt a / ofInt b) ∧ rank (ofInt a / ofInt b) ≤ rank 1 := by
    rcases Nat.eq_zero_or_pos a with rfl | ha
    · rw [rank_ofInt_zero_div hb hb', rank_zero, rank_one]
      exact ⟨le_rfl, by simp [Prod.Lex.toLex_le_toLex]⟩
    · obtain ⟨m₁, e₁, hm₁, hx, h₁, hlo₁, hhi₁⟩ := unpack_ofInt_natCast ha (by omega)
      exact rank_div_of_normal hx hy h₁ h₂ (rank_ofInt_le hab) (by omega)
  have hnan : (ofInt a / ofInt b).isNaN = false := isNaN_eq_false_of_rank_lt
    (lt_of_le_of_lt hrank.2 (by simp [rank_one, Prod.Lex.toLex_lt_toLex]))
  exact ⟨(le_iff_rank rfl hnan).mpr hrank.1, (le_iff_rank hnan rfl).mpr hrank.2⟩

/-! ### Shares of one

A count divided by itself gives one.  A smaller count over a count of at most `2 ^ 53` gives a
double below one: both counts are exact, their quotient is at most `1 - 2 ^ -53`, which is a
double, and rounding is monotone (`rank_ofInt_div_ofInt_lt_one`).  Past `2 ^ 53` the counts
themselves are rounded, and one row in `2 ^ 53 + 1` no longer shows. -/

/-- A positive count below `2 ^ 64` over itself is one. -/
lemma rank_ofInt_div_self {b : Nat} (hb : 0 < b) (hb' : b < 2 ^ 64) :
    rank (ofInt b / ofInt b) = rank 1 := by
  obtain ⟨m, e, hm, hy, hlog, -, -⟩ := unpack_ofInt_natCast hb hb'
  have hunits : quotientUnits m m = 2 ^ 55 := by
    unfold quotientUnits
    rw [Nat.mul_div_cancel_left _ hm, Nat.mul_mod_right]
    simp [accuracyOfFraction, accuracyCode]
  rw [rank_div_of_normal_eq hy hy hlog hlog (by omega), hunits,
    show e - e - 55 = -((55 : Nat) : Int) by omega]
  exact roundedRank_two_pow (by norm_num)

/-- `2 ^ 53 - 1` units at any lower exponent, the double just below one, have their last place
at `-53`. -/
lemma lastPlace_below_one (j : Nat) :
    lastPlace ((2 ^ 53 - 1) * 2 ^ j) (-((53 + j : Nat) : Int)) = -53 := by
  have hlog : ((2 ^ 53 - 1) * 2 ^ j).log2 = 52 + j := by
    rw [Nat.log2_eq_iff (by positivity)]
    constructor
    · calc 2 ^ (52 + j) = 2 ^ 52 * 2 ^ j := Nat.pow_add _ _ _
        _ ≤ (2 ^ 53 - 1) * 2 ^ j := Nat.mul_le_mul_right _ (by norm_num)
    · calc (2 ^ 53 - 1) * 2 ^ j < 2 ^ 53 * 2 ^ j :=
          Nat.mul_lt_mul_of_pos_right (by norm_num) (by positivity)
        _ = 2 ^ (52 + j + 1) := by rw [← Nat.pow_add]; congr 1; omega
  rw [lastPlace_eq, hlog]
  omega

/-- The double just below one, `2 ^ 53 - 1` units of `2 ^ -53`, written at any lower exponent. -/
lemma roundedRank_below_one (j : Nat) :
    roundedRank (roundedUnits ((2 ^ 53 - 1) * 2 ^ j) (-((53 + j : Nat) : Int)))
      (lastPlace ((2 ^ 53 - 1) * 2 ^ j) (-((53 + j : Nat) : Int))) =
      toLex (1, toLex (-53, ((2 ^ 53 - 1 : Nat) : ℤ))) := by
  have hunits : roundedUnits ((2 ^ 53 - 1) * 2 ^ j) (-((53 + j : Nat) : Int)) = 2 ^ 53 - 1 := by
    rw [roundedUnits, lastPlace_below_one, show (-53 - -((53 + j : Nat) : Int)).toNat = j by omega]
    unfold roundHalfEven
    simp [Nat.mul_mod_left, Nat.mul_div_cancel _ (Nat.two_pow_pos j), (Nat.two_pow_pos j).ne]
  rw [hunits, lastPlace_below_one, roundedRank, if_neg (by norm_num), if_neg (by norm_num),
    if_neg (by norm_num)]

/-- A count over a greater count of at most `2 ^ 53` ranks below one. -/
lemma rank_ofInt_div_ofInt_lt_one {a b : Nat} (hab : a < b) (hb : b ≤ 2 ^ 53) :
    rank (ofInt a / ofInt b) < rank 1 := by
  have hb0 : 0 < b := by omega
  obtain ⟨hm₂, hy⟩ := unpack_ofInt_wholeFields hb0 (by omega)
  rcases Nat.eq_zero_or_pos a with rfl | ha
  · rw [rank_ofInt_zero_div hb0 (by omega), rank_zero, rank_one]
    simp [Prod.Lex.toLex_lt_toLex]
  obtain ⟨hm₁, hx⟩ := unpack_ofInt_wholeFields ha (by omega)
  obtain ⟨hlo₁, hhi₁, hbot₁⟩ := wholeFields_bounds ha
  obtain ⟨hlo₂, hhi₂, hbot₂⟩ := wholeFields_bounds hb0
  have hlog₁ : (wholeFields a).1.log2 = 52 := (Nat.log2_eq_iff (by omega)).mpr ⟨hlo₁, hhi₁⟩
  have hlog₂ : (wholeFields b).1.log2 = 52 := (Nat.log2_eq_iff (by omega)).mpr ⟨hlo₂, hhi₂⟩
  obtain ⟨hqa, hea⟩ := wholeFields_exact ha (by omega)
  obtain ⟨hqb, heb⟩ := wholeFields_exact hb0 hb
  -- the greater count sits at an exponent at least as high
  have hexp : (wholeFields a).2 ≤ (wholeFields b).2 := by
    rcases wholeFields_mono ha hab.le with h | ⟨h, -⟩ <;> omega
  set k := ((wholeFields b).2 - (wholeFields a).2).toNat with hk
  -- the quotient is at most `1 - 2 ^ -53`: `a · 2 ^ 53 ≤ (2 ^ 53 - 1) · b` read on the mantissas
  have hnat : a * 2 ^ 53 ≤ (2 ^ 53 - 1) * b := by omega
  have hval : (wholeFields a).1 * 2 ^ 53 ≤ (2 ^ 53 - 1) * 2 ^ k * (wholeFields b).1 := by
    have hpow : (2 : ℚ) ^ k * 2 ^ (wholeFields a).2 = 2 ^ (wholeFields b).2 := by
      rw [← zpow_natCast, ← zpow_add₀ two_ne_zero]
      congr 1
      omega
    have hq : ((wholeFields a).1 * 2 ^ 53 : ℚ) * 2 ^ (wholeFields a).2 ≤
        ((2 ^ 53 - 1) * 2 ^ k * (wholeFields b).1 : ℕ) * 2 ^ (wholeFields a).2 := by
      calc ((wholeFields a).1 * 2 ^ 53 : ℚ) * 2 ^ (wholeFields a).2 = ((a * 2 ^ 53 : ℕ) : ℚ) := by
            rw [Nat.cast_mul, hqa]; push_cast; ring
        _ ≤ (((2 ^ 53 - 1) * b : ℕ) : ℚ) := by exact_mod_cast hnat
        _ = ((2 ^ 53 - 1) * 2 ^ k * (wholeFields b).1 : ℕ) * 2 ^ (wholeFields a).2 := by
            rw [Nat.cast_mul (2 ^ 53 - 1), hqb, ← hpow]
            push_cast
            ring
    exact_mod_cast le_of_mul_le_mul_right hq (zpow_pos two_pos _)
  have hV : 0 < quotientUnits (wholeFields a).1 (wholeFields b).1 := by
    have := two_pow_le_div (by omega) (by omega) hlog₁ hlog₂
    unfold quotientUnits
    omega
  have hbound : quotientUnits (wholeFields a).1 (wholeFields b).1 ≤ (2 ^ 53 - 1) * 2 ^ (k + 2) := by
    calc quotientUnits (wholeFields a).1 (wholeFields b).1 ≤ 4 * ((2 ^ 53 - 1) * 2 ^ k) :=
          four_mul_div_add_le hval
      _ = (2 ^ 53 - 1) * 2 ^ (k + 2) := by ring
  have hE : (wholeFields a).2 - (wholeFields b).2 - 55 = -((53 + (k + 2) : Nat) : Int) := by omega
  rw [rank_div_of_normal_eq hx hy hlog₁ hlog₂ (by omega), hE]
  calc _ ≤ roundedRank (roundedUnits ((2 ^ 53 - 1) * 2 ^ (k + 2)) (-((53 + (k + 2) : Nat) : Int)))
          (lastPlace ((2 ^ 53 - 1) * 2 ^ (k + 2)) (-((53 + (k + 2) : Nat) : Int))) :=
        roundedRank_le_roundedRank hV hbound (by rw [lastPlace_below_one]; omega)
    _ = toLex (1, toLex (-53, ((2 ^ 53 - 1 : Nat) : ℤ))) := roundedRank_below_one (k + 2)
    _ < rank 1 := by
      rw [rank_one, Prod.Lex.toLex_lt_toLex]
      exact .inr ⟨rfl, Prod.Lex.toLex_lt_toLex.mpr (.inl (by norm_num))⟩

/-- The share of a count in a positive count at least as large and at most `2 ^ 53` is one
exactly when the two counts agree. -/
theorem ofInt_div_ofInt_beq_one_iff {a b : Nat} (hab : a ≤ b) (hb : 0 < b) (hb' : b ≤ 2 ^ 53) :
    (ofInt a / ofInt b == 1) = true ↔ a = b := by
  have hnan : (ofInt a / ofInt b).isNaN = false := by
    cases h : (ofInt a / ofInt b).isNaN
    · rfl
    · exact absurd (ofInt_div_ofInt_mem_unit hab hb (by omega)).1 (not_le_of_isNaN_right h)
  rw [beq_iff_rank hnan rfl]
  constructor
  · intro h
    by_contra hne
    exact (rank_ofInt_div_ofInt_lt_one (lt_of_le_of_ne hab hne) hb').ne h
  · rintro rfl
    exact rank_ofInt_div_self hb (by omega)

end Shares

end DataQuality.Decimal
