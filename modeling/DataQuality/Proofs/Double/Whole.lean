import Mathlib
import DataQuality.Proofs.Double.Order

/-!
# Doubles of whole numbers

Lengths of texts and counts of rows become doubles through `ofInt`, which rounds to the nearest
double the way every reading of a number does.  On whole numbers this rounding is monotone, and
two whole numbers whose doubles have one rank have one double (`rank_ofInt_le`,
`ofInt_eq_of_rank_eq`).  So `minNum` and `maxNum` of the doubles of whole numbers are the doubles
of their least and greatest (`minNum_ofInt`, `maxNum_ofInt`), and a fold of them over a list is
the double of the least or greatest of the list.

The proof reads the double back through the bit layout of the logical model of `Float`: the
fields `ofRatio` assembles unpack to the finite positive number they encode (`unpack_assemble_normal`),
and the rank of that number is its exponent, then its mantissa.  The rounding of a positive whole
number is `wholeFields`: fifty-three bits from its leading bit, rounded half to even, with the
carry of a mantissa that rounded up to `2^53`.
-/

namespace DataQuality.Decimal

open Float.Model Float.Model.UnpackedFloat

/-! ## The fields of a bit pattern -/

section Fields

variable (b : BitVec 64)

/-- The fraction field: the low fifty-two bits. -/
lemma toNat_unpackMantissa : (@unpackMantissa Format.binary64 b).toNat = b.toNat % 2 ^ 52 := by
  simp [unpackMantissa, BitVec.extractLsb_toNat]

/-- The exponent field: the eleven bits above the fraction. -/
lemma toNat_unpackExponent :
    (@unpackExponent Format.binary64 b).toNat = b.toNat / 2 ^ 52 % 2 ^ 11 := by
  simp [unpackExponent, BitVec.extractLsb_toNat, Nat.shiftRight_eq_div_pow]

/-- The sign bit: the top bit. -/
lemma toNat_unpackSign : (@unpackSign Format.binary64 b).toNat = b.toNat / 2 ^ 63 % 2 := by
  simp [unpackSign, BitVec.extractLsb_toNat, Nat.shiftRight_eq_div_pow]

end Fields

/-- The sign a sign bit stands for. -/
def signOf (negative : Bool) : Sign := if negative then .negative else .positive

@[simp]
lemma signOf_false : signOf false = .positive := rfl

@[simp]
lemma signOf_true : signOf true = .negative := rfl

/-- A pattern whose exponent field is neither zero nor all ones unpacks to a normal number of the
sign of its top bit, with the implicit leading bit. -/
lemma unpack_normal {b : BitVec 64} {s : Sign} {e f : Nat}
    (hb : b.toNat = s.toBitVec.toNat * 2 ^ 63 + e * 2 ^ 52 + f) (he0 : 0 < e) (he : e < 2047)
    (hf : f < 2 ^ 52) :
    unpack Format.binary64 b = .finite s (2 ^ 52 + f) (e - 1075) (by omega) := by
  have hs : s.toBitVec.toNat < 2 := s.toBitVec.isLt
  have hexp : (@unpackExponent Format.binary64 b).toNat = e := by
    rw [toNat_unpackExponent, hb]; omega
  have hman : (@unpackMantissa Format.binary64 b).toNat = f := by
    rw [toNat_unpackMantissa, hb]; omega
  have hsign : @unpackSign Format.binary64 b = s.toBitVec := by
    apply BitVec.eq_of_toNat_eq
    rw [toNat_unpackSign, hb]; omega
  have hall : @unpackExponent Format.binary64 b ≠ -1#_ := by
    intro h; have := congrArg BitVec.toNat h; rw [hexp] at this; simp at this; omega
  have hzero : @unpackExponent Format.binary64 b ≠ 0#_ := by
    intro h; have := congrArg BitVec.toNat h; rw [hexp] at this; simp at this; omega
  simp only [UnpackedFloat.unpack, hall, hzero, if_false, hsign, Sign.ofBitVec_toBitVec, hexp]
  congr 1
  · rw [BitVec.toNat_append, hman, ← Nat.shiftLeft_add_eq_or_of_lt hf]
    simp [Nat.shiftLeft_eq]

/-- The pattern of zero bits is positive zero. -/
lemma unpack_zero {b : BitVec 64} (hb : b.toNat = 0) :
    unpack Format.binary64 b = .zero .positive := by
  have hz : b = 0#64 := BitVec.eq_of_toNat_eq hb
  subst hz
  rfl

/-- The pattern of an all-ones exponent and a zero fraction is positive infinity. -/
lemma unpack_infinity {b : BitVec 64} (hb : b.toNat = 2047 * 2 ^ 52) :
    unpack Format.binary64 b = .infinity .positive := by
  have hz : b = BitVec.ofNat 64 (2047 * 2 ^ 52) := BitVec.eq_of_toNat_eq (by simp [hb])
  subst hz
  rfl

/-- The pattern of a sign bit, an all-ones exponent and a zero fraction is negative infinity. -/
lemma unpack_infinity_negative {b : BitVec 64} (hb : b.toNat = 2 ^ 63 + 2047 * 2 ^ 52) :
    unpack Format.binary64 b = .infinity .negative := by
  have hz : b = BitVec.ofNat 64 (2 ^ 63 + 2047 * 2 ^ 52) := BitVec.eq_of_toNat_eq (by simp [hb])
  subst hz
  rfl

/-! ## Assembled doubles -/

/-- The bits of a double assembled from its fields. -/
lemma toNat_packComponents (s : Sign) (E : BitVec 11) (M : BitVec 52) :
    (packComponents Format.binary64 s E M).toNat =
      s.toBitVec.toNat * 2 ^ 63 + E.toNat * 2 ^ 52 + M.toNat := by
  rw [packComponents, BitVec.toNat_append, BitVec.toNat_append,
    ← Nat.shiftLeft_add_eq_or_of_lt M.isLt, ← Nat.shiftLeft_add_eq_or_of_lt E.isLt]
  simp [Nat.shiftLeft_eq]
  ring

/-- A normal number in canonical form packs and unpacks to itself. -/
lemma unpack_pack_normal (s : Sign) {m : Nat} {e : Int} (hm : 2 ^ 52 ≤ m) (hm' : m < 2 ^ 53)
    (he : -1074 ≤ e) (he' : e ≤ 971) (hpos : 0 < m) :
    unpack Format.binary64 (pack Format.binary64 (.finite s m e hpos)) = .finite s m e hpos := by
  have hlog : m.log2 = 52 := (Nat.log2_eq_iff (by omega)).mpr ⟨hm, hm'⟩
  have hbits : (pack Format.binary64 (.finite s m e hpos)).toNat =
      s.toBitVec.toNat * 2 ^ 63 + (e + 1075).toNat * 2 ^ 52 + m % 2 ^ 52 := by
    simp only [UnpackedFloat.pack, hlog, Format.exponentBias, Format.mantissaBits]
    rw [if_neg (by omega), if_true, toNat_packComponents]
    simp
    omega
  rw [unpack_normal hbits (by omega) (by omega) (Nat.mod_lt _ (by omega))]
  congr 1 <;> omega

/-- `assemble` reads the pattern of its fields. -/
lemma toModel_assemble (negative : Bool) (e f : Nat) :
    (assemble negative e f).toModel = Float.Model.ofBits
      (UInt64.ofNat ((signOf negative).toBitVec.toNat * 2 ^ 63 + e * 2 ^ 52 + f)) := by
  cases negative <;> simp [assemble, Float.ofBits, signOf, Sign.toBitVec]

/-- The model of a double read from bits is the packing of their unpacking. -/
lemma unpack_ofBits (u : UInt64) : (Float.Model.ofBits u).unpack =
    unpack Format.binary64 (pack Format.binary64 (unpack Format.binary64 u.toBitVec)) := rfl

/-- The bits of a word below `2^64`. -/
lemma toNat_toBitVec_ofNat {n : Nat} (h : n < 2 ^ 64) : (UInt64.ofNat n).toBitVec.toNat = n := by
  rw [UInt64.toNat_toBitVec, UInt64.toNat_ofNat_of_lt' (by rw [UInt64.size]; omega)]

/-- The double assembled from normal fields unpacks to them. -/
lemma unpack_assemble_normal {negative : Bool} {e f : Nat} (he0 : 0 < e) (he : e < 2047)
    (hf : f < 2 ^ 52) :
    (assemble negative e f).toModel.unpack =
      .finite (signOf negative) (2 ^ 52 + f) (e - 1075) (by omega) := by
  have hs : (signOf negative).toBitVec.toNat < 2 := (signOf negative).toBitVec.isLt
  have hbits := toNat_toBitVec_ofNat
    (n := (signOf negative).toBitVec.toNat * 2 ^ 63 + e * 2 ^ 52 + f) (by omega)
  rw [toModel_assemble, unpack_ofBits, unpack_normal hbits he0 he hf]
  exact unpack_pack_normal _ (by omega) (by omega) (by omega) (by omega) (by omega)

/-- The double assembled from zero fields is positive zero. -/
lemma unpack_assemble_zero : (assemble false 0 0).toModel.unpack = .zero .positive := by
  have hbits := toNat_toBitVec_ofNat
    (n := (signOf false).toBitVec.toNat * 2 ^ 63 + 0 * 2 ^ 52 + 0) (by decide)
  rw [toModel_assemble, unpack_ofBits, unpack_zero (hbits.trans (by decide))]
  exact unpack_zero (by simp [UnpackedFloat.pack, packedZero, toNat_packComponents, Sign.toBitVec])

/-- The double assembled from an all-ones exponent is positive infinity. -/
lemma unpack_assemble_infinity : (assemble false 2047 0).toModel.unpack = .infinity .positive := by
  have hbits := toNat_toBitVec_ofNat
    (n := (signOf false).toBitVec.toNat * 2 ^ 63 + 2047 * 2 ^ 52 + 0) (by decide)
  rw [toModel_assemble, unpack_ofBits, unpack_infinity (hbits.trans (by decide))]
  exact unpack_infinity
    (by simp [UnpackedFloat.pack, packedInfinity, toNat_packComponents, Sign.toBitVec])

/-- The double assembled from a sign bit and an all-ones exponent is negative infinity. -/
lemma unpack_assemble_infinity_negative :
    (assemble true 2047 0).toModel.unpack = .infinity .negative := by
  have hbits := toNat_toBitVec_ofNat
    (n := (signOf true).toBitVec.toNat * 2 ^ 63 + 2047 * 2 ^ 52 + 0) (by decide)
  rw [toModel_assemble, unpack_ofBits, unpack_infinity_negative (hbits.trans (by decide))]
  exact unpack_infinity_negative
    (by simp [UnpackedFloat.pack, packedInfinity, toNat_packComponents, Sign.toBitVec])

/-! ## Whole numbers -/

/-- `⌊log₂ n⌋` of a positive whole number is its binary logarithm. -/
lemma floorLog2_one {n : Nat} (h : 0 < n) : floorLog2 n 1 = n.log2 := by
  have hle := Nat.log2_self_le h.ne'
  have hone : Nat.log2 1 = 0 := Nat.lt_one_iff.mp ((Nat.log2_lt Nat.one_ne_zero).mpr (by decide))
  simp [floorLog2, ratioAtLeastPow2, hone, hle]

/-- Rounding a whole quotient is exact. -/
lemma roundHalfEven_one (n : Nat) : roundHalfEven n 1 = n := by
  simp [roundHalfEven, Nat.mod_one]

/-- Rounding to the nearest whole number stays between the quotient and its successor. -/
lemma div_le_roundHalfEven (num den : Nat) : num / den ≤ roundHalfEven num den := by
  unfold roundHalfEven
  dsimp only
  split_ifs <;> omega

lemma roundHalfEven_le (num den : Nat) : roundHalfEven num den ≤ num / den + 1 := by
  unfold roundHalfEven
  dsimp only
  split_ifs <;> omega

/-- Rounding to the nearest, ties to even, is monotone in the numerator. -/
lemma roundHalfEven_mono {a b : Nat} (den : Nat) (h : a ≤ b) :
    roundHalfEven a den ≤ roundHalfEven b den := by
  have hq : a / den ≤ b / den := Nat.div_le_div_right h
  rcases hq.lt_or_eq with hlt | heq
  · calc roundHalfEven a den ≤ a / den + 1 := roundHalfEven_le a den
      _ ≤ b / den := hlt
      _ ≤ roundHalfEven b den := div_le_roundHalfEven b den
  · -- one quotient: the remainders are ordered as the numerators
    have ha := Nat.div_add_mod a den
    have hb := Nat.div_add_mod b den
    have hr : a % den ≤ b % den := by
      rw [heq] at ha
      omega
    unfold roundHalfEven
    dsimp only
    rw [heq]
    split_ifs <;> omega

/-- The exponent of the last place of the mantissa that a positive whole number is rounded to:
fifty-two places below its leading bit. -/
def wholeUnit (n : Nat) : Int := (n.log2 : Int) - 52

/-- The whole number rounded at that place, ties to even; between `2^52` and `2^53`. -/
def wholeRound (n : Nat) : Nat :=
  roundHalfEven (n * 2 ^ (-wholeUnit n).toNat) (2 ^ (wholeUnit n).toNat)

/-- The mantissa and exponent of the double nearest a positive whole number: the rounded mantissa,
carried one place up when it rounded to `2^53`. -/
def wholeFields (n : Nat) : Nat × Int :=
  if wholeRound n = 2 ^ 53 then (2 ^ 52, wholeUnit n + 1) else (wholeRound n, wholeUnit n)

/-- A whole number of at most fifty-three bits is rounded exactly: it is scaled up to fifty-three
bits. -/
lemma wholeRound_of_log2_le {n : Nat} (h : n.log2 ≤ 52) : wholeRound n = n * 2 ^ (52 - n.log2) := by
  have hdown : (-((n.log2 : Int) - 52)).toNat = 52 - n.log2 := by omega
  have hup : ((n.log2 : Int) - 52).toNat = 0 := by omega
  rw [wholeRound, wholeUnit, hdown, hup, Nat.pow_zero, roundHalfEven_one]

/-- Scaling a number below `2 ^ (k + 1)` up to fifty-three bits. -/
lemma mul_two_pow_lt {n k : Nat} (hk : k ≤ 52) (h : n < 2 ^ (k + 1)) :
    n * 2 ^ (52 - k) < 2 ^ 53 := by
  calc n * 2 ^ (52 - k) < 2 ^ (k + 1) * 2 ^ (52 - k) := Nat.mul_lt_mul_of_pos_right h (by positivity)
    _ = 2 ^ 53 := by rw [← Nat.pow_add]; congr 1; omega

/-- A positive whole number rounded at fifty-two places below its leading bit keeps fifty-three
bits, or carries to `2^53`. -/
lemma wholeRound_bounds {n : Nat} (h : 0 < n) : 2 ^ 52 ≤ wholeRound n ∧ wholeRound n ≤ 2 ^ 53 := by
  have hlo := Nat.log2_self_le h.ne'
  have hhi := Nat.lt_log2_self (n := n)
  unfold wholeRound wholeUnit
  rcases Nat.lt_or_ge 52 n.log2 with hL | hL
  · -- more bits: the quotient by the unit has 53 bits, and rounding adds at most one
    have hdown : (-((n.log2 : Int) - 52)).toNat = 0 := by omega
    have hup : ((n.log2 : Int) - 52).toNat = n.log2 - 52 := by omega
    rw [hdown, hup, Nat.pow_zero, Nat.mul_one]
    have hpos : 0 < 2 ^ (n.log2 - 52) := Nat.two_pow_pos _
    have hq₁ : 2 ^ 52 ≤ n / 2 ^ (n.log2 - 52) := by
      rw [Nat.le_div_iff_mul_le hpos, ← Nat.pow_add, show 52 + (n.log2 - 52) = n.log2 by omega]
      exact hlo
    have hq₂ : n / 2 ^ (n.log2 - 52) < 2 ^ 53 := by
      rw [Nat.div_lt_iff_lt_mul hpos, ← Nat.pow_add, show 53 + (n.log2 - 52) = n.log2 + 1 by omega]
      exact hhi
    have := div_le_roundHalfEven n (2 ^ (n.log2 - 52))
    have := roundHalfEven_le n (2 ^ (n.log2 - 52))
    omega
  · -- at most 53 bits: the number is scaled up exactly
    rw [← wholeUnit, ← wholeRound, wholeRound_of_log2_le hL]
    have hscale : 2 ^ 52 = 2 ^ n.log2 * 2 ^ (52 - n.log2) := by
      rw [← Nat.pow_add]
      congr 1
      omega
    exact ⟨hscale ▸ Nat.mul_le_mul_right _ hlo, (mul_two_pow_lt hL hhi).le⟩

/-- After the carry the mantissa is normal, with an exponent of at least `-52`. -/
lemma wholeFields_bounds {n : Nat} (h : 0 < n) :
    2 ^ 52 ≤ (wholeFields n).1 ∧ (wholeFields n).1 < 2 ^ 53 ∧ -52 ≤ (wholeFields n).2 := by
  have := wholeRound_bounds h
  unfold wholeFields wholeUnit
  split_ifs <;> simp <;> omega

/-- A whole number of at most fifty-three bits is its double exactly: its fields scaled back give
the number, with an exponent of at most one. -/
lemma wholeFields_exact {n : Nat} (h0 : 0 < n) (h : n ≤ 2 ^ 53) :
    (n : ℚ) = (wholeFields n).1 * 2 ^ (wholeFields n).2 ∧ (wholeFields n).2 ≤ 1 := by
  have hlo := Nat.log2_self_le h0.ne'
  rcases Nat.lt_or_ge n.log2 53 with hL | hL
  · -- the number scaled up to fifty-three bits, with no carry
    have hlt := mul_two_pow_lt (by omega) (Nat.lt_log2_self (n := n))
    have hfields : wholeFields n = (n * 2 ^ (52 - n.log2), (n.log2 : Int) - 52) := by
      rw [wholeFields, wholeRound_of_log2_le (by omega), if_neg hlt.ne, wholeUnit]
    rw [hfields]
    refine ⟨?_, by simp only; omega⟩
    push_cast
    rw [mul_assoc, ← zpow_natCast, ← zpow_add₀ two_ne_zero, Nat.cast_sub (by omega)]
    simp
  · -- the largest, `2 ^ 53`, is `2 ^ 52` at exponent one
    have hn : n = 2 ^ 53 := le_antisymm h (le_trans (Nat.pow_le_pow_right (by norm_num) hL) hlo)
    subst hn
    have hround : wholeRound (2 ^ 53) = 2 ^ 52 := by
      rw [wholeRound, wholeUnit, Nat.log2_two_pow]
      decide
    rw [wholeFields, hround, if_neg (by norm_num), wholeUnit, Nat.log2_two_pow]
    norm_num

/-- The fields of the doubles of whole numbers grow with the numbers, exponent first. -/
lemma wholeFields_mono {a b : Nat} (ha : 0 < a) (hab : a ≤ b) :
    (wholeFields a).2 < (wholeFields b).2 ∨
      (wholeFields a).2 = (wholeFields b).2 ∧ (wholeFields a).1 ≤ (wholeFields b).1 := by
  have hb : 0 < b := lt_of_lt_of_le ha hab
  have hL : a.log2 ≤ b.log2 := (Nat.le_log2 hb.ne').mpr (le_trans (Nat.log2_self_le ha.ne') hab)
  have hra := wholeRound_bounds ha
  have hrb := wholeRound_bounds hb
  unfold wholeFields
  rcases hL.lt_or_eq with hlt | heq
  · -- a lower leading bit: a carry of `a` reaches at most the exponent of `b`
    have hu : wholeUnit a < wholeUnit b := by unfold wholeUnit; omega
    split_ifs <;> simp <;> omega
  · -- one leading bit: one unit, and rounding is monotone
    have hu : wholeUnit a = wholeUnit b := by unfold wholeUnit; rw [heq]
    have hm : wholeRound a ≤ wholeRound b := by
      unfold wholeRound
      rw [hu]
      exact roundHalfEven_mono _ (Nat.mul_le_mul_right _ hab)
    split_ifs <;> simp <;> omega

/-- The double nearest a positive whole number, of either sign: infinity past the largest
exponent, else the normal double of its fields. -/
lemma ofRatio_whole (negative : Bool) {n : Nat} (h : 0 < n) :
    ofRatio negative n 1 = if 971 < (wholeFields n).2 then assemble negative 2047 0
      else assemble negative ((wholeFields n).2 + 1075).toNat ((wholeFields n).1 - 2 ^ 52) := by
  obtain ⟨hm, -, -⟩ := wholeFields_bounds h
  have hunit : max (floorLog2 n 1 - 52) (-1074) = wholeUnit n := by
    rw [floorLog2_one h, wholeUnit]
    omega
  simp only [ofRatio, h.ne', Nat.one_ne_zero, or_self, if_false, hunit, Nat.pow_eq, Nat.one_mul,
    gt_iff_lt]
  rw [← wholeRound.eq_1, ← wholeFields.eq_1, if_neg (Nat.not_lt.mpr hm)]

/-- The double of a positive whole number. -/
lemma ofInt_natCast_of_pos {n : Nat} (h : 0 < n) :
    ofInt n = if 971 < (wholeFields n).2 then assemble false 2047 0
      else assemble false ((wholeFields n).2 + 1075).toNat ((wholeFields n).1 - 2 ^ 52) := by
  have hsign : decide ((n : Int) < 0) = false := by simp
  rw [ofInt, Int.natAbs_natCast, hsign, ofRatio_whole false h]

/-- The double of zero is positive zero. -/
lemma ofInt_natCast_zero : ofInt ((0 : Nat) : Int) = assemble false 0 0 := by
  simp [ofInt, ofRatio]

/-- The rank of the double of a whole number, read off its fields. -/
def wholeRank (n : Nat) : ℤ ×ₗ (ℤ ×ₗ ℤ) :=
  if n = 0 then toLex (0, toLex (0, 0))
  else if 971 < (wholeFields n).2 then toLex (2, toLex (0, 0))
  else toLex (1, toLex ((wholeFields n).2, ((wholeFields n).1 : ℤ)))

/-- The rank of the double of a whole number. -/
lemma rank_ofInt_natCast (n : Nat) : rank (ofInt n) = wholeRank n := by
  unfold wholeRank
  rcases Nat.eq_zero_or_pos n with rfl | h
  · rw [rank, ofInt_natCast_zero, unpack_assemble_zero]
    rfl
  obtain ⟨hm, hm', hu⟩ := wholeFields_bounds h
  rw [rank, ofInt_natCast_of_pos h, if_neg h.ne']
  split_ifs with hinf
  · rw [unpack_assemble_infinity]
    rfl
  · rw [unpack_assemble_normal (by omega) (by omega) (by omega), signOf_false, unpackedRank,
      show (((wholeFields n).2 + 1075).toNat : ℤ) - 1075 = (wholeFields n).2 by omega,
      show 2 ^ 52 + ((wholeFields n).1 - 2 ^ 52) = (wholeFields n).1 by omega]

/-- The double of a whole number is a number. -/
lemma isNaN_ofInt_natCast (n : Nat) : (ofInt n).isNaN = false := by
  change (ofInt n).toModel.unpack.isNaN = false
  rcases Nat.eq_zero_or_pos n with rfl | h
  · rw [ofInt_natCast_zero, unpack_assemble_zero]
    rfl
  obtain ⟨hm, hm', hu⟩ := wholeFields_bounds h
  rw [ofInt_natCast_of_pos h]
  split_ifs
  · rw [unpack_assemble_infinity]
    rfl
  · rw [unpack_assemble_normal (by omega) (by omega) (by omega)]
    rfl

/-- The ranks of the doubles of whole numbers grow with the numbers: zero first, then the normal
doubles by exponent and mantissa, then infinity. -/
lemma wholeRank_mono {a b : Nat} (h : a ≤ b) : wholeRank a ≤ wholeRank b := by
  unfold wholeRank
  rcases Nat.eq_zero_or_pos a with rfl | ha
  · rw [if_pos rfl]
    split_ifs <;> simp [Prod.Lex.toLex_le_toLex]
  have hb : 0 < b := lt_of_lt_of_le ha h
  have hfields := wholeFields_mono ha h
  rw [if_neg ha.ne', if_neg hb.ne']
  split_ifs <;> simp [Prod.Lex.toLex_le_toLex] <;> omega

/-- The doubles of whole numbers are ordered as the numbers. -/
lemma rank_ofInt_le {a b : Nat} (h : a ≤ b) : rank (ofInt a) ≤ rank (ofInt b) := by
  rw [rank_ofInt_natCast, rank_ofInt_natCast]
  exact wholeRank_mono h

/-- Doubles of whole numbers of one rank are one double. -/
lemma ofInt_eq_of_rank_eq {a b : Nat} (h : rank (ofInt a) = rank (ofInt b)) :
    ofInt (a : Int) = ofInt b := by
  rw [rank_ofInt_natCast, rank_ofInt_natCast] at h
  unfold wholeRank at h
  rcases Nat.eq_zero_or_pos a with rfl | ha <;> rcases Nat.eq_zero_or_pos b with rfl | hb
  · rfl
  · rw [if_pos rfl, if_neg hb.ne'] at h
    split_ifs at h <;> simp at h
  · rw [if_pos rfl, if_neg ha.ne'] at h
    split_ifs at h <;> simp at h
  rw [if_neg ha.ne', if_neg hb.ne'] at h
  rw [ofInt_natCast_of_pos ha, ofInt_natCast_of_pos hb]
  split_ifs at h ⊢
  · rfl
  · simp at h
  · simp at h
  · -- two normal doubles of one exponent and mantissa
    obtain ⟨hu, hm⟩ : (wholeFields a).2 = (wholeFields b).2 ∧
        ((wholeFields a).1 : ℤ) = (wholeFields b).1 := by
      simpa using h
    rw [hu, Int.ofNat_inj.mp hm]

/-! ## Negative whole numbers -/

/-- The double of the negation of a positive whole number: the double of the number with the sign
bit set. -/
lemma ofInt_neg_natCast_of_pos {n : Nat} (h : 0 < n) :
    ofInt (-(n : Int)) = if 971 < (wholeFields n).2 then assemble true 2047 0
      else assemble true ((wholeFields n).2 + 1075).toNat ((wholeFields n).1 - 2 ^ 52) := by
  have hsign : decide (-(n : Int) < 0) = true := by simpa using h
  rw [ofInt, Int.natAbs_neg, Int.natAbs_natCast, hsign, ofRatio_whole true h]

/-- The rank of the double of the negation of a positive whole number: below zero, and by
exponent and mantissa reversed. -/
lemma rank_ofInt_neg_natCast {n : Nat} (h : 0 < n) :
    rank (ofInt (-(n : Int))) = if 971 < (wholeFields n).2 then toLex (-2, toLex (0, 0))
      else toLex (-1, toLex (-(wholeFields n).2, -((wholeFields n).1 : ℤ))) := by
  obtain ⟨hm, hm', hu⟩ := wholeFields_bounds h
  rw [rank, ofInt_neg_natCast_of_pos h]
  split_ifs with hinf
  · rw [unpack_assemble_infinity_negative]
    rfl
  · rw [unpack_assemble_normal (by omega) (by omega) (by omega), signOf_true, unpackedRank,
      show (((wholeFields n).2 + 1075).toNat : ℤ) - 1075 = (wholeFields n).2 by omega,
      show 2 ^ 52 + ((wholeFields n).1 - 2 ^ 52) = (wholeFields n).1 by omega]

/-- The double of an integer is a number. -/
lemma isNaN_ofInt (n : Int) : (ofInt n).isNaN = false := by
  obtain ⟨m, rfl | rfl⟩ := Int.eq_nat_or_neg n
  · exact isNaN_ofInt_natCast m
  rcases Nat.eq_zero_or_pos m with rfl | h
  · exact isNaN_ofInt_natCast 0
  change (ofInt (-(m : Int))).toModel.unpack.isNaN = false
  obtain ⟨hm, hm', hu⟩ := wholeFields_bounds h
  rw [ofInt_neg_natCast_of_pos h]
  split_ifs
  · rw [unpack_assemble_infinity_negative]
    rfl
  · rw [unpack_assemble_normal (by omega) (by omega) (by omega)]
    rfl

/-- The rank of the double of a whole number is at least that of zero. -/
lemma zero_le_wholeRank (n : Nat) : (ofLex (wholeRank n)).1 ≥ 0 := by
  unfold wholeRank
  split_ifs <;> simp

/-- Doubles of integers of one rank are one double: the rank tells the sign, and then the fields
of the magnitude. -/
lemma ofInt_eq_of_rank_eq_int {a b : Int} (h : rank (ofInt a) = rank (ofInt b)) :
    ofInt a = ofInt b := by
  -- the first component of a rank is below zero exactly for the negative integers
  have hneg : ∀ {n : Nat}, 0 < n → (ofLex (rank (ofInt (-(n : Int))))).1 < 0 := by
    intro n hn
    rw [rank_ofInt_neg_natCast hn]
    split_ifs <;> simp
  have hnat : ∀ n : Nat, (ofLex (rank (ofInt (n : Int)))).1 ≥ 0 := fun n => by
    rw [rank_ofInt_natCast]
    exact zero_le_wholeRank n
  obtain ⟨n, rfl | rfl⟩ := Int.eq_nat_or_neg a <;> obtain ⟨m, rfl | rfl⟩ := Int.eq_nat_or_neg b
  · exact ofInt_eq_of_rank_eq h
  · rcases Nat.eq_zero_or_pos m with rfl | hm
    · exact ofInt_eq_of_rank_eq h
    · exact absurd (h ▸ hnat n) (not_le.mpr (hneg hm))
  · rcases Nat.eq_zero_or_pos n with rfl | hn
    · exact ofInt_eq_of_rank_eq h
    · exact absurd (h ▸ hneg hn) (not_lt.mpr (hnat m))
  rcases Nat.eq_zero_or_pos n with rfl | hn <;> rcases Nat.eq_zero_or_pos m with rfl | hm
  · rfl
  · exact absurd (h ▸ hnat 0) (not_le.mpr (hneg hm))
  · exact absurd (h ▸ hneg hn) (not_lt.mpr (hnat 0))
  -- two negative doubles of one rank: one exponent and one mantissa
  rw [rank_ofInt_neg_natCast hn, rank_ofInt_neg_natCast hm] at h
  rw [ofInt_neg_natCast_of_pos hn, ofInt_neg_natCast_of_pos hm]
  split_ifs at h ⊢
  · rfl
  · simp at h
  · simp at h
  · obtain ⟨hu, hmant⟩ : (wholeFields n).2 = (wholeFields m).2 ∧
        ((wholeFields n).1 : ℤ) = (wholeFields m).1 := by
      simpa using h
    rw [hu, Int.ofNat_inj.mp hmant]

/-! ## Least and greatest -/

/-- `minNum` of the doubles of whole numbers is the double of the least. -/
lemma minNum_ofInt (a b : Nat) : minNum (ofInt a) (ofInt b) = ofInt ((min a b : Nat) : Int) := by
  rw [minNum_eq_chooseBy, chooseBy_of_numbers (isNaN_ofInt_natCast a) (isNaN_ofInt_natCast b)]
  split_ifs with hlt
  · -- a strictly lower rank belongs to the smaller number
    have hab : a ≤ b := by
      by_contra hba
      exact absurd hlt (not_lt.mpr (rank_ofInt_le (by omega)))
    rw [Nat.min_eq_left hab]
  · rcases Nat.le_total b a with hba | hab
    · rw [Nat.min_eq_right hba]
    · -- the ranks are equal, and so are the doubles
      rw [Nat.min_eq_left hab]
      exact (ofInt_eq_of_rank_eq (le_antisymm (rank_ofInt_le hab) (not_lt.mp hlt))).symm

/-- `maxNum` of the doubles of whole numbers is the double of the greatest. -/
lemma maxNum_ofInt (a b : Nat) : maxNum (ofInt a) (ofInt b) = ofInt ((max a b : Nat) : Int) := by
  rw [maxNum_eq_chooseBy, chooseBy_of_numbers (isNaN_ofInt_natCast a) (isNaN_ofInt_natCast b)]
  simp only [OrderDual.toDual_lt_toDual]
  split_ifs with hlt
  · -- a strictly higher rank belongs to the greater number
    have hba : b ≤ a := by
      by_contra hab
      exact absurd hlt (not_lt.mpr (rank_ofInt_le (by omega)))
    rw [Nat.max_eq_left hba]
  · rcases Nat.le_total a b with hab | hba
    · rw [Nat.max_eq_right hab]
    · -- the ranks are equal, and so are the doubles
      rw [Nat.max_eq_left hba]
      exact (ofInt_eq_of_rank_eq (le_antisymm (not_lt.mp hlt) (rank_ofInt_le hba))).symm

/-- Folding `minNum` over the doubles of whole numbers gives the double of the least. -/
lemma foldl_minNum_ofInt (x : Nat) (xs : List Nat) :
    (xs.map fun n : Nat => ofInt n).foldl minNum (ofInt x) = ofInt ((xs.foldl min x : Nat) : Int) := by
  rw [List.foldl_map]
  exact List.foldl_hom (fun n : Nat => ofInt n) fun a b => minNum_ofInt a b

/-- Folding `maxNum` over the doubles of whole numbers gives the double of the greatest. -/
lemma foldl_maxNum_ofInt (x : Nat) (xs : List Nat) :
    (xs.map fun n : Nat => ofInt n).foldl maxNum (ofInt x) = ofInt ((xs.foldl max x : Nat) : Int) := by
  rw [List.foldl_map]
  exact List.foldl_hom (fun n : Nat => ofInt n) fun a b => maxNum_ofInt a b

/-- `minNum` does not depend on the order of the doubles of two integers. -/
lemma minNum_ofInt_comm (a b : Int) : minNum (ofInt a) (ofInt b) = minNum (ofInt b) (ofInt a) := by
  rw [minNum_eq_chooseBy]
  exact chooseBy_comm (isNaN_ofInt a) (isNaN_ofInt b) ofInt_eq_of_rank_eq_int

/-- Nor does `maxNum`. -/
lemma maxNum_ofInt_comm (a b : Int) : maxNum (ofInt a) (ofInt b) = maxNum (ofInt b) (ofInt a) := by
  rw [maxNum_eq_chooseBy]
  exact chooseBy_comm (isNaN_ofInt a) (isNaN_ofInt b) fun h =>
    ofInt_eq_of_rank_eq_int (OrderDual.toDual_inj.mp h)

end DataQuality.Decimal
