import Mathlib
import DataQuality.Proofs.Double.WholeArithmetic

/-!
# Exact sums of doubles

A finite double is worth a rational number: its sign applied to its mantissa, times two to its
exponent (`Decimal.value?`); infinities and not-a-number are worth nothing.  The logical model of
`Float` adds two finite doubles by normalizing the exact sum of their signed mantissas, and a
double unpacks to a mantissa already at its target exponent, which normalizing leaves alone
(`Decimal.unpack_eq_normalize`).  Since normalizing sees only the value of what it rounds
(`Decimal.normalize_congr`), a sum whose exact value is the value of some double is that double,
up to the sign of a zero (`Decimal.unsignZero_add_of_value?`).

The library compares doubles as IEEE 754 does: the two zeros are one, and otherwise a double is
its value (`Decimal.unsignZero`, `Decimal.unsignZero_eq_of_value?`).  Seen so, addition is
commutative outright (`Decimal.float_add_comm`), positive zero is its unit, three doubles add
either way to one double when the sums along both ways are exact (`Decimal.unsignZero_add_assoc`),
and the least and the greatest of two doubles do not depend on their order.  A running sum from
zero whose partial sums are all exact never rounds and never becomes a negative zero, so it splits
at any point into the sum of two running sums (`Decimal.foldl_add_append`).
-/

namespace DataQuality.Decimal

open Float.Model Float.Model.UnpackedFloat

/-! ## Doubles at their target exponent -/

/-- A finite double unpacks at its target exponent: a subnormal at the least exponent, a normal
number with fifty-three bits. -/
lemma targetExponent_of_unpack {b : BitVec 64} {s : Sign} {m : Nat} {e : Int} {hm : 0 < m}
    (h : UnpackedFloat.unpack Format.binary64 b = .finite s m e hm) :
    Format.binary64.targetExponent (totalExponent m e) = e := by
  unfold UnpackedFloat.unpack at h
  dsimp only at h
  have hf : (@unpackMantissa Format.binary64 b).toNat < 2 ^ 52 := (@unpackMantissa Format.binary64 b).isLt
  split_ifs at h with hall hmv hzero hmv'
  · -- a subnormal number sits at the least exponent
    cases h
    have hE : (@unpackExponent Format.binary64 b).toNat = 0 := by rw [hzero]; rfl
    have hlog : (@unpackMantissa Format.binary64 b).toNat.log2 < 52 :=
      (Nat.log2_lt (by omega)).mpr hf
    simp only [Format.targetExponent, totalExponent, Format.mantissaBits, Format.minExponent,
      Format.exponentBias, hE]
    norm_num
    omega
  · -- a normal number has fifty-three bits, the leading one implicit
    cases h
    have hE0 : (@unpackExponent Format.binary64 b).toNat ≠ 0 := fun h0 =>
      hzero (BitVec.eq_of_toNat_eq (by simpa using h0))
    have hE1 : (@unpackExponent Format.binary64 b).toNat ≠ 2047 := fun h1 =>
      hall (BitVec.eq_of_toNat_eq (by simpa using h1))
    have hEl : (@unpackExponent Format.binary64 b).toNat < 2048 := (@unpackExponent Format.binary64 b).isLt
    have hman : (1#1 ++ @unpackMantissa Format.binary64 b).toNat =
        2 ^ 52 + (@unpackMantissa Format.binary64 b).toNat := by
      rw [BitVec.toNat_append, ← Nat.shiftLeft_add_eq_or_of_lt hf]
      simp [Nat.shiftLeft_eq]
    have hlog : (1#1 ++ @unpackMantissa Format.binary64 b).toNat.log2 = 52 := by
      rw [hman]
      exact (Nat.log2_eq_iff (by omega)).mpr ⟨by omega, by omega⟩
    simp only [Format.targetExponent, totalExponent, Format.mantissaBits, Format.minExponent,
      Format.exponentBias, hlog]
    norm_num
    omega

/-- A number at its target exponent is already rounded. -/
lemma round_of_targetExponent_eq (spec : Format) (s : Sign) {m : Nat} {e : Int} (hm : 0 < m)
    (h : spec.targetExponent (totalExponent m e) = e) :
    UnpackedFloat.round spec s m e = .finite s m e hm := by
  have hshift : shiftToTargetExponent spec m e .exact = (⟨m, false, false⟩, e) := by
    simp only [shiftToTargetExponent, shiftToExponent, h, sub_self, Int.toNat_zero,
      Int.natCast_zero, add_zero]
    rfl
  have hround : ExtendedMantissa.roundedMantissa ⟨m, false, false⟩ = m := rfl
  rw [round_eq_roundWithAccuracy _ _ h.ge]
  simp only [roundWithAccuracy, hshift, hround]
  rw [dif_neg (by omega)]

/-- Two signed mantissas at two exponents worth one number normalize alike. -/
lemma normalize_congr {M M' E E' : Int} (spec : Format) (z : Sign)
    (h : (M : ℚ) * 2 ^ E = M' * 2 ^ E') : normalize spec M E z = normalize spec M' E' z := by
  wlog hle : E ≤ E' generalizing M M' E E'
  · exact (this h.symm (le_of_not_ge hle)).symm
  obtain ⟨k, rfl⟩ : ∃ k : Nat, E' = E + k := ⟨(E' - E).toNat, by omega⟩
  have hM : M = M' * 2 ^ k := by
    have hq : (M : ℚ) = M' * 2 ^ k := by
      rw [zpow_add₀ two_ne_zero, zpow_natCast, ← mul_assoc, mul_right_comm] at h
      exact mul_right_cancel₀ (zpow_ne_zero E two_ne_zero) (h.trans (by ring))
    exact_mod_cast hq
  rw [hM, show E = E + k - k by ring, normalize_scale, add_sub_cancel_right]

/-- A finite double unpacks to the normalization of its own signed mantissa and exponent. -/
lemma unpack_eq_normalize {x : Float.Model} {s : Sign} {m : Nat} {e : Int} {hm : 0 < m}
    (h : x.unpack = .finite s m e hm) (z : Sign) :
    x.unpack = normalize Format.binary64 (s.apply m) e z := by
  rw [normalize_apply _ _ hm, round_of_targetExponent_eq _ _ hm (targetExponent_of_unpack h), h]


/-! ## Values -/

/-- The value of an unpacked double: its sign applied to its mantissa, times two to its
exponent; none for infinities and not-a-number. -/
def unpackedValue? : UnpackedFloat → Option ℚ
  | .zero _ => some 0
  | .finite s m e _ => some ((s.apply m : ℚ) * 2 ^ e)
  | _ => none

/-- The value of a double, when it is finite. -/
def value? (x : Float) : Option ℚ := unpackedValue? x.toModel.unpack

/-- A rational number is the value of a double. -/
def Representable (q : ℚ) : Prop := ∃ d : Float, value? d = some q

/-- A double as comparisons see it: a zero of either sign is positive zero. -/
def unsignZero (x : Float) : Float := if x == 0 then 0 else x

/-- A double is its unpacking. -/
lemma eq_of_unpack_eq {x y : Float} (h : x.toModel.unpack = y.toModel.unpack) : x = y := by
  obtain ⟨x⟩ := x
  obtain ⟨y⟩ := y
  rw [← pack_unpack_model x, ← pack_unpack_model y]
  exact congrArg (Float.ofModel ∘ Float.Model.pack) h

/-- A finite number is worth something other than zero. -/
lemma apply_mul_zpow_ne_zero (s : Sign) {m : Nat} (hm : 0 < m) (e : Int) :
    ((s.apply m : Int) : ℚ) * 2 ^ e ≠ 0 := by
  refine mul_ne_zero ?_ (zpow_ne_zero e two_ne_zero)
  cases s <;> simp [Sign.apply] <;> omega

/-- Exactly the zeros are worth zero. -/
lemma value?_eq_zero_iff {x : Float} : value? x = some 0 ↔ ∃ σ, x.toModel.unpack = .zero σ := by
  unfold value?
  cases h : x.toModel.unpack with
  | zero σ => simp [unpackedValue?]
  | finite s m e hm => simp [unpackedValue?, apply_mul_zpow_ne_zero s hm e]
  | infinity σ => simp [unpackedValue?]
  | notANumber => simp [unpackedValue?]

/-- A double equals zero exactly when it is a zero of either sign. -/
lemma beq_zero_iff {x : Float} : (x == 0) = true ↔ ∃ σ, x.toModel.unpack = .zero σ := by
  show (x.toModel.unpack.compare (.zero .positive) == some .eq) = true ↔ _
  cases h : x.toModel.unpack with
  | zero σ => simp [UnpackedFloat.compare]
  | finite s m e hm => cases s <;> simp [UnpackedFloat.compare]
  | infinity σ => cases σ <;> simp [UnpackedFloat.compare]
  | notANumber => simp [UnpackedFloat.compare]

lemma unsignZero_of_zero {x : Float} {σ : Sign} (h : x.toModel.unpack = .zero σ) :
    unsignZero x = 0 := by
  rw [unsignZero, if_pos (beq_zero_iff.mpr ⟨σ, h⟩)]

lemma unsignZero_of_value?_ne_zero {x : Float} (h : value? x ≠ some 0) : unsignZero x = x := by
  rw [unsignZero, if_neg]
  rw [beq_zero_iff, ← value?_eq_zero_iff]
  exact h

/-- Two doubles of one value are one double, up to the sign of a zero. -/
lemma unsignZero_eq_of_value? {x y : Float} {q : ℚ} (hx : value? x = some q) (hy : value? y = some q) :
    unsignZero x = unsignZero y := by
  by_cases hq : q = 0
  · subst hq
    obtain ⟨σ, hσ⟩ := value?_eq_zero_iff.mp hx
    obtain ⟨τ, hτ⟩ := value?_eq_zero_iff.mp hy
    rw [unsignZero_of_zero hσ, unsignZero_of_zero hτ]
  rw [unsignZero_of_value?_ne_zero (by rw [hx]; simpa using hq),
    unsignZero_of_value?_ne_zero (by rw [hy]; simpa using hq)]
  -- both are finite, and normalize as the one value they share
  unfold value? at hx hy
  cases hux : x.toModel.unpack <;> rw [hux] at hx <;> simp only [unpackedValue?, Option.some.injEq, reduceCtorEq] at hx
  case zero => exact absurd hx.symm hq
  case finite s m e hm =>
    cases huy : y.toModel.unpack <;> rw [huy] at hy <;> simp only [unpackedValue?, Option.some.injEq, reduceCtorEq] at hy
    case zero => exact absurd hy.symm hq
    case finite s' m' e' hm' =>
      apply eq_of_unpack_eq
      rw [unpack_eq_normalize hux .positive, unpack_eq_normalize huy .positive]
      exact normalize_congr _ _ (hx.trans hy.symm)


/-- Seen with its zero made positive, a double keeps its value. -/
@[simp]
lemma value?_unsignZero (x : Float) : value? (unsignZero x) = value? x := by
  unfold unsignZero
  split_ifs with h
  · obtain ⟨σ, hσ⟩ := beq_zero_iff.mp h
    rw [value?_eq_zero_iff.mpr ⟨σ, hσ⟩]
    rfl
  · rfl

/-! ## Sums -/

/-- A double is its model. -/
lemma eq_of_toModel_eq {x y : Float} (h : x.toModel = y.toModel) : x = y := by
  cases x
  cases y
  cases h
  rfl

/-- The sum of two finite numbers is the normalization of a signed mantissa and exponent worth
their exact sum. -/
lemma add_finite_finite (spec : Format) {s₁ s₂ : Sign} {m₁ m₂ : Nat} {e₁ e₂ : Int} (h₁ : 0 < m₁)
    (h₂ : 0 < m₂) : ∃ M E : Int, (M : ℚ) * 2 ^ E = (s₁.apply m₁ : ℚ) * 2 ^ e₁ + (s₂.apply m₂ : ℚ) * 2 ^ e₂ ∧
      add spec (.finite s₁ m₁ e₁ h₁) (.finite s₂ m₂ e₂ h₂) = normalize spec M E .positive := by
  refine ⟨_, min e₁ e₂, ?_, rfl⟩
  rw [Int.cast_add, add_mul, apply_shiftLeft _ _ (min_le_left _ _),
    apply_shiftLeft _ _ (min_le_right _ _)]

/-- When the exact sum of two finite doubles is the value of a double, their sum is that double,
up to the sign of a zero. -/
theorem unsignZero_add_of_value? {x y d : Float} {a b : ℚ} (hx : value? x = some a)
    (hy : value? y = some b) (hd : value? d = some (a + b)) : unsignZero (x + y) = unsignZero d := by
  have hmodel : (x + y).toModel = Float.Model.pack (add Format.binary64 x.toModel.unpack y.toModel.unpack) := rfl
  unfold value? at hx hy
  cases hux : x.toModel.unpack <;> rw [hux] at hx <;> simp only [unpackedValue?, Option.some.injEq, reduceCtorEq] at hx
  all_goals cases huy : y.toModel.unpack <;> rw [huy] at hy <;> simp only [unpackedValue?, Option.some.injEq, reduceCtorEq] at hy
  all_goals rw [hux, huy] at hmodel
  case zero.zero σ τ =>
    -- two zeros add to a zero, and so is the double of their sum
    subst hx hy
    obtain ⟨ρ, hρ⟩ := value?_eq_zero_iff.mp (by simpa using hd)
    obtain ⟨ν, hν⟩ : ∃ ν, add Format.binary64 (.zero σ) (.zero τ) = .zero ν := by
      simp only [UnpackedFloat.add]
      split_ifs <;> exact ⟨_, rfl⟩
    rw [unsignZero_of_zero hρ, unsignZero_of_zero (σ := ν) (by rw [hmodel, hν, unpack_pack_zero])]
  case zero.finite σ s m e hm =>
    -- adding to a zero gives the other operand
    have hadd : add Format.binary64 (.zero σ) (.finite s m e hm) = .finite s m e hm := rfl
    have hsum : x + y = y := eq_of_toModel_eq (by rw [hmodel, hadd, ← huy, pack_unpack_model])
    subst hx
    rw [hsum]
    exact unsignZero_eq_of_value? (by rw [value?, huy, ← hy, zero_add]; rfl) hd
  case finite.zero s m e hm σ =>
    have hadd : add Format.binary64 (.finite s m e hm) (.zero σ) = .finite s m e hm := rfl
    have hsum : x + y = x := eq_of_toModel_eq (by rw [hmodel, hadd, ← hux, pack_unpack_model])
    subst hy
    rw [hsum]
    exact unsignZero_eq_of_value? (by rw [value?, hux, ← hx, add_zero]; rfl) hd
  case finite.finite s₁ m₁ e₁ h₁ s₂ m₂ e₂ h₂ =>
    obtain ⟨M, E, hME, hadd⟩ := add_finite_finite Format.binary64 h₁ h₂
    rw [hadd] at hmodel
    rw [hx, hy] at hME
    by_cases h0 : a + b = 0
    · -- an exact sum of zero is positive zero
      have hM : M = 0 := by
        have : (M : ℚ) = 0 := by
          rcases mul_eq_zero.mp (hME.trans h0) with h | h
          · exact h
          · exact absurd h (zpow_ne_zero E two_ne_zero)
        exact_mod_cast this
      obtain ⟨ρ, hρ⟩ := value?_eq_zero_iff.mp (by rw [hd, h0])
      subst hM
      rw [unsignZero_of_zero hρ, unsignZero_of_zero (σ := .positive)
        (by rw [hmodel]; exact unpack_pack_zero _)]
    · -- the double of the sum is finite, and normalizes as the sum does
      unfold value? at hd
      cases hud : d.toModel.unpack <;> rw [hud] at hd <;> simp only [unpackedValue?, Option.some.injEq, reduceCtorEq] at hd
      case zero => exact absurd hd.symm h0
      case finite s m e hm =>
        have hsum : x + y = d := by
          apply eq_of_toModel_eq
          rw [hmodel, normalize_congr Format.binary64 .positive (hME.trans hd.symm), ← unpack_eq_normalize hud]
          exact pack_unpack_model _
        rw [hsum]

/-- When the exact sum of two finite doubles is the value of a double, their sum has that value. -/
lemma value?_add {x y : Float} {a b : ℚ} (hx : value? x = some a) (hy : value? y = some b)
    (h : Representable (a + b)) : value? (x + y) = some (a + b) := by
  obtain ⟨d, hd⟩ := h
  rw [← value?_unsignZero, unsignZero_add_of_value? hx hy hd, value?_unsignZero, hd]


/-- Adding unpacked doubles does not depend on their order. -/
lemma add_comm_unpacked (spec : Format) (u v : UnpackedFloat) : add spec u v = add spec v u := by
  cases u <;> cases v
  all_goals simp only [UnpackedFloat.add]
  case infinity.infinity σ τ => cases σ <;> cases τ <;> rfl
  case zero.zero σ τ => cases σ <;> cases τ <;> rfl
  case finite.finite s₁ m₁ e₁ h₁ s₂ m₂ e₂ h₂ => rw [min_comm, add_comm]

/-- Adding doubles does not depend on their order. -/
theorem float_add_comm (x y : Float) : x + y = y + x :=
  eq_of_toModel_eq (congrArg Float.Model.pack (add_comm_unpacked _ _ _))

/-- Adding positive zero to an unpacked double other than a zero leaves it. -/
lemma add_zero_unpacked (spec : Format) {u : UnpackedFloat} (hu : ∀ σ, u ≠ .zero σ) :
    add spec u (.zero .positive) = u := by
  cases u with
  | zero σ => exact absurd rfl (hu σ)
  | _ => rfl

/-- Adding positive zero leaves a double, up to the sign of a zero. -/
theorem unsignZero_add_zero (x : Float) : unsignZero (x + 0) = unsignZero x := by
  have hmodel : (x + 0).toModel =
      Float.Model.pack (add Format.binary64 x.toModel.unpack (.zero .positive)) := rfl
  by_cases hz : ∃ σ, x.toModel.unpack = .zero σ
  · -- zeros add to a zero
    obtain ⟨σ, hσ⟩ := hz
    obtain ⟨ν, hν⟩ : ∃ ν, add Format.binary64 (.zero σ) (.zero .positive) = .zero ν := by
      simp only [UnpackedFloat.add]
      split_ifs <;> exact ⟨_, rfl⟩
    rw [hσ, hν] at hmodel
    rw [unsignZero_of_zero hσ, unsignZero_of_zero (σ := ν) (by rw [hmodel, unpack_pack_zero])]
  · rw [add_zero_unpacked _ (fun σ h => hz ⟨σ, h⟩), pack_unpack_model] at hmodel
    rw [eq_of_toModel_eq hmodel]

/-- Three doubles add either way exactly: all three are finite, and the exact sums `x + y`,
`y + z` and `x + y + z` are values of doubles. -/
def AddsExactly (x y z : Float) : Prop :=
  ∃ a b c : ℚ, value? x = some a ∧ value? y = some b ∧ value? z = some c ∧
    Representable (a + b) ∧ Representable (b + c) ∧ Representable (a + b + c)

/-- Three doubles that add either way exactly add to one double either way, up to the sign of a
zero. -/
theorem unsignZero_add_assoc {x y z : Float} (h : AddsExactly x y z) :
    unsignZero (x + y + z) = unsignZero (x + (y + z)) := by
  obtain ⟨a, b, c, hx, hy, hz, hab, hbc, habc⟩ := h
  have hleft : value? (x + y + z) = some (a + b + c) := value?_add (value?_add hx hy hab) hz habc
  have hright : value? (x + (y + z)) = some (a + b + c) := by
    rw [add_assoc] at habc ⊢
    exact value?_add hx (value?_add hy hz hbc) habc
  exact unsignZero_eq_of_value? hleft hright


/-! ## Least and greatest, up to the sign of a zero -/

/-- Two unpacked doubles of one rank are one, or two zeros. -/
lemma unpackedRank_inj {u v : UnpackedFloat} (h : unpackedRank u = unpackedRank v) :
    u = v ∨ ∃ σ τ, u = .zero σ ∧ v = .zero τ := by
  rcases u with σ | _ | σ | ⟨s, m, e, hm⟩ <;> rcases v with τ | _ | τ | ⟨t, m', e', hm'⟩
  all_goals (try cases σ) <;> (try cases τ) <;> (try cases s) <;> (try cases t)
  all_goals simp_all [unpackedRank]

/-- Two doubles of one rank are one double, up to the sign of a zero. -/
lemma unsignZero_eq_of_rank_eq {a b : Float} (h : rank a = rank b) : unsignZero a = unsignZero b := by
  rcases unpackedRank_inj h with hab | ⟨σ, τ, ha, hb⟩
  · rw [eq_of_unpack_eq hab]
  · rw [unsignZero_of_zero ha, unsignZero_of_zero hb]

/-- Not-a-number is one double. -/
lemma eq_of_isNaN {a b : Float} (ha : a.isNaN = true) (hb : b.isNaN = true) : a = b := by
  apply eq_of_unpack_eq
  have hna : a.toModel.unpack.isNaN = true := ha
  have hnb : b.toModel.unpack.isNaN = true := hb
  cases hua : a.toModel.unpack <;> rw [hua] at hna <;> cases hna
  cases hub : b.toModel.unpack <;> rw [hub] at hnb <;> cases hnb

section Choice

variable {β : Type} [LinearOrder β] {key : Float → β}

/-- A choice by a key that tells doubles apart up to the sign of a zero does not depend on the
order of its operands, up to the sign of a zero. -/
lemma unsignZero_chooseBy_comm (hkey : ∀ a b, key a = key b → unsignZero a = unsignZero b)
    (a b : Float) : unsignZero (chooseBy key a b) = unsignZero (chooseBy key b a) := by
  cases ha : a.isNaN <;> cases hb : b.isNaN
  · -- between numbers the one of smaller key is chosen, a tie leaving one value
    rw [chooseBy_of_numbers ha hb, chooseBy_of_numbers hb ha]
    rcases lt_trichotomy (key a) (key b) with hlt | heq | hgt
    · rw [if_pos hlt, if_neg (not_lt.mpr hlt.le)]
    · rw [if_neg heq.not_lt, if_neg heq.symm.not_lt]
      exact (hkey a b heq).symm
    · rw [if_neg (not_lt.mpr hgt.le), if_pos hgt]
  · rw [chooseBy_of_isNaN_right hb, chooseBy_of_isNaN_left hb ha]
  · rw [chooseBy_of_isNaN_left ha hb, chooseBy_of_isNaN_right ha]
  · rw [chooseBy_of_isNaN_right hb, chooseBy_of_isNaN_right ha, eq_of_isNaN ha hb]

/-- A choice commutes with a change of its operands that keeps their keys and whether they are
numbers. -/
lemma chooseBy_map {g : Float → Float} (hk : ∀ x, key (g x) = key x)
    (hn : ∀ x, (g x).isNaN = x.isNaN) (a b : Float) :
    chooseBy key (g a) (g b) = g (chooseBy key a b) := by
  unfold chooseBy
  rw [hn, hn, hk, hk]
  split_ifs <;> rfl

end Choice

/-- The zero `unsignZero` gives is a number. -/
@[simp]
lemma isNaN_unsignZero (x : Float) : (unsignZero x).isNaN = x.isNaN := by
  unfold unsignZero
  split_ifs with h
  · obtain ⟨σ, hσ⟩ := beq_zero_iff.mp h
    show (0 : Float).toModel.unpack.isNaN = x.toModel.unpack.isNaN
    rw [hσ]
    rfl
  · rfl

/-- Zeros of either sign have one rank. -/
@[simp]
lemma rank_unsignZero (x : Float) : rank (unsignZero x) = rank x := by
  unfold unsignZero
  split_ifs with h
  · obtain ⟨σ, hσ⟩ := beq_zero_iff.mp h
    rw [rank, rank, hσ]
    rfl
  · rfl

lemma unsignZero_minNum_comm (a b : Float) : unsignZero (minNum a b) = unsignZero (minNum b a) := by
  rw [minNum_eq_chooseBy]
  exact unsignZero_chooseBy_comm (fun _ _ => unsignZero_eq_of_rank_eq) a b

lemma unsignZero_maxNum_comm (a b : Float) : unsignZero (maxNum a b) = unsignZero (maxNum b a) := by
  rw [maxNum_eq_chooseBy]
  exact unsignZero_chooseBy_comm (fun _ _ h => unsignZero_eq_of_rank_eq (OrderDual.toDual_inj.mp h)) a b

/-- The least of two doubles, with zeros made positive, is the least of the two with their zeros
made positive. -/
lemma unsignZero_minNum (a b : Float) :
    unsignZero (minNum a b) = minNum (unsignZero a) (unsignZero b) := by
  rw [minNum_eq_chooseBy, chooseBy_map rank_unsignZero isNaN_unsignZero]

lemma unsignZero_maxNum (a b : Float) :
    unsignZero (maxNum a b) = maxNum (unsignZero a) (unsignZero b) := by
  rw [maxNum_eq_chooseBy, chooseBy_map (fun x => by rw [rank_unsignZero]) isNaN_unsignZero]

/-- Between doubles with positive zeros the least does not depend on the order of the operands. -/
lemma minNum_unsignZero_comm (a b : Float) :
    minNum (unsignZero a) (unsignZero b) = minNum (unsignZero b) (unsignZero a) := by
  rw [← unsignZero_minNum, ← unsignZero_minNum, unsignZero_minNum_comm]

lemma maxNum_unsignZero_comm (a b : Float) :
    maxNum (unsignZero a) (unsignZero b) = maxNum (unsignZero b) (unsignZero a) := by
  rw [← unsignZero_maxNum, ← unsignZero_maxNum, unsignZero_maxNum_comm]

@[simp]
lemma unsignZero_unsignZero (x : Float) : unsignZero (unsignZero x) = unsignZero x := by
  unfold unsignZero
  split_ifs <;> rfl

/-- The zero `unsignZero` gives is finite. -/
@[simp]
lemma isInf_unsignZero (x : Float) : (unsignZero x).isInf = x.isInf := by
  unfold unsignZero
  split_ifs with h
  · obtain ⟨σ, hσ⟩ := beq_zero_iff.mp h
    show (0 : Float).toModel.unpack.isInf = x.toModel.unpack.isInf
    rw [hσ]
    rfl
  · rfl

/-- Comparisons do not see the sign of a zero. -/
@[simp]
lemma lt_unsignZero_iff (a x : Float) : a < unsignZero x ↔ a < x := by
  unfold unsignZero
  split_ifs with h
  · obtain ⟨σ, hσ⟩ := beq_zero_iff.mp h
    rw [lt_iff_compare, lt_iff_compare, hσ]
    show a.toModel.unpack.compare (.zero .positive) = some .lt ↔ _
    rcases a.toModel.unpack with s | _ | s | ⟨s, m, e, hm⟩ <;> (try cases s) <;> cases σ <;> rfl
  · rfl

@[simp]
lemma unsignZero_lt_iff (a x : Float) : unsignZero x < a ↔ x < a := by
  unfold unsignZero
  split_ifs with h
  · obtain ⟨σ, hσ⟩ := beq_zero_iff.mp h
    rw [lt_iff_compare, lt_iff_compare, hσ]
    show (UnpackedFloat.zero .positive).compare a.toModel.unpack = some .lt ↔ _
    rcases a.toModel.unpack with s | _ | s | ⟨s, m, e, hm⟩ <;> (try cases s) <;> cases σ <;> rfl
  · rfl

/-- A double on either side of zero is no zero. -/
lemma unsignZero_of_pos {x : Float} (h : 0 < x) : unsignZero x = x := by
  unfold unsignZero
  split_ifs with hz
  · obtain ⟨σ, hσ⟩ := beq_zero_iff.mp hz
    rw [lt_iff_compare, hσ] at h
    cases σ <;> exact absurd h (by decide)
  · rfl

lemma unsignZero_of_neg {x : Float} (h : x < 0) : unsignZero x = x := by
  unfold unsignZero
  split_ifs with hz
  · obtain ⟨σ, hσ⟩ := beq_zero_iff.mp hz
    rw [lt_iff_compare, hσ] at h
    cases σ <;> exact absurd h (by decide)
  · rfl

/-! ## Running sums -/

/-- Every double of a list is finite, and the exact sum of each of its prefixes is the value of a
double: summing the list in turn from zero never rounds. -/
def PrefixSumsExact (xs : List Float) : Prop :=
  ∃ vs : List ℚ, xs.map value? = vs.map some ∧ ∀ n, Representable (vs.take n).sum

/-- Adding finite doubles in turn to a finite start whose running sums are all values of doubles
gives the value of the start plus their sum. -/
lemma value?_foldl_add {z : Float} {q : ℚ} (hz : value? z = some q) {xs : List Float}
    {vs : List ℚ} (hxs : xs.map value? = vs.map some)
    (hrep : ∀ n, Representable (q + (vs.take n).sum)) :
    value? (xs.foldl (· + ·) z) = some (q + vs.sum) := by
  induction xs generalizing z q vs with
  | nil =>
    obtain rfl : vs = [] := List.map_eq_nil_iff.mp hxs.symm
    simpa using hz
  | cons x xs ih =>
    obtain ⟨v, vs, rfl⟩ : ∃ v vs', vs = v :: vs' := by
      cases vs with
      | nil => cases hxs
      | cons v vs' => exact ⟨v, vs', rfl⟩
    obtain ⟨hx, hxs⟩ := List.cons.inj hxs
    -- the first running sum is exact, and the rest run on from it
    have hstep : value? (z + x) = some (q + v) := value?_add hz hx (by simpa using hrep 1)
    rw [List.foldl_cons, ih hstep hxs (fun n => by simpa [add_assoc] using hrep (n + 1)),
      List.sum_cons, add_assoc]

/-- A sum is a negative zero only when its first operand is one, when it is exact. -/
lemma unpack_add_ne_negZero {x y : Float} {a b : ℚ} (hx : value? x = some a)
    (hy : value? y = some b) (h : Representable (a + b))
    (hneg : x.toModel.unpack ≠ .zero .negative) : (x + y).toModel.unpack ≠ .zero .negative := by
  intro hsum
  have hmodel : (x + y).toModel = Float.Model.pack (add Format.binary64 x.toModel.unpack y.toModel.unpack) := rfl
  have hzero : a + b = 0 := by
    have := value?_add hx hy h
    rw [value?, hsum] at this
    exact (Option.some.inj this).symm
  unfold value? at hx hy
  cases hux : x.toModel.unpack <;> rw [hux] at hx <;> simp only [unpackedValue?, Option.some.injEq, reduceCtorEq] at hx
  all_goals cases huy : y.toModel.unpack <;> rw [huy] at hy <;> simp only [unpackedValue?, Option.some.injEq, reduceCtorEq] at hy
  all_goals rw [hux, huy] at hmodel
  case zero.zero σ τ =>
    -- two zeros add to a negative zero only when both are negative
    rw [hmodel] at hsum
    cases σ <;> cases τ <;> simp_all [UnpackedFloat.add, unpack_pack_zero]
  case zero.finite σ s m e hm =>
    exact apply_mul_zpow_ne_zero s hm e (by rw [hy]; linarith)
  case finite.zero s m e hm σ =>
    exact apply_mul_zpow_ne_zero s hm e (by rw [hx]; linarith)
  case finite.finite s₁ m₁ e₁ h₁ s₂ m₂ e₂ h₂ =>
    -- an exact sum of zero is a positive zero
    obtain ⟨M, E, hME, hadd⟩ := add_finite_finite Format.binary64 h₁ h₂
    have hM : M = 0 := by
      have : (M : ℚ) = 0 := by
        rcases mul_eq_zero.mp (hME.trans (by rw [hx, hy, hzero])) with h | h
        · exact h
        · exact absurd h (zpow_ne_zero E two_ne_zero)
      exact_mod_cast this
    subst hM
    rw [hmodel, hadd] at hsum
    exact absurd hsum (by simp [UnpackedFloat.normalize, unpack_pack_zero])

/-- Adding finite doubles in turn to a start other than a negative zero, every running sum exact,
never gives a negative zero. -/
lemma unpack_foldl_add_ne_negZero {z : Float} {q : ℚ} (hz : value? z = some q)
    (hz' : z.toModel.unpack ≠ .zero .negative) {xs : List Float} {vs : List ℚ}
    (hxs : xs.map value? = vs.map some) (hrep : ∀ n, Representable (q + (vs.take n).sum)) :
    (xs.foldl (· + ·) z).toModel.unpack ≠ .zero .negative := by
  induction xs generalizing z q vs with
  | nil => exact hz'
  | cons x xs ih =>
    obtain ⟨v, vs, rfl⟩ : ∃ v vs', vs = v :: vs' := by
      cases vs with
      | nil => cases hxs
      | cons v vs' => exact ⟨v, vs', rfl⟩
    obtain ⟨hx, hxs⟩ := List.cons.inj hxs
    have hfirst : Representable (q + v) := by simpa using hrep 1
    exact ih (value?_add hz hx hfirst) (unpack_add_ne_negZero hz hx hfirst hz') hxs
      (fun n => by simpa [add_assoc] using hrep (n + 1))

/-- Two doubles other than a negative zero that agree up to the sign of a zero are one. -/
lemma eq_of_unsignZero_eq {x y : Float} (h : unsignZero x = unsignZero y)
    (hx : x.toModel.unpack ≠ .zero .negative) (hy : y.toModel.unpack ≠ .zero .negative) : x = y := by
  have hvalue := congrArg value? h
  rw [value?_unsignZero, value?_unsignZero] at hvalue
  by_cases hz : value? x = some 0
  · -- two zeros, and neither negative
    obtain ⟨σ, hσ⟩ := value?_eq_zero_iff.mp hz
    obtain ⟨τ, hτ⟩ := value?_eq_zero_iff.mp (hvalue ▸ hz)
    cases σ <;> cases τ <;> simp_all
    exact eq_of_unpack_eq (hσ.trans hτ.symm)
  · rwa [unsignZero_of_value?_ne_zero hz, unsignZero_of_value?_ne_zero (hvalue ▸ hz)] at h

/-- The prefixes of the first part of a list whose prefixes all have exact sums have exact sums. -/
lemma representable_take_left {us ws : List ℚ} (h : ∀ n, Representable ((us ++ ws).take n).sum)
    (n : Nat) : Representable (us.take n).sum := by
  by_cases hn : n ≤ us.length
  · simpa [List.take_append_of_le_length hn] using h n
  · simpa [List.take_of_length_le (le_of_not_ge hn)] using h us.length

/-- Summing two runs of doubles from zero and adding the two sums is summing both runs from zero,
when the running sums of both runs together and of the second alone are exact. -/
theorem foldl_add_append {xs ys : List Float} (hxy : PrefixSumsExact (xs ++ ys))
    (hy : PrefixSumsExact ys) :
    xs.foldl (· + ·) 0 + ys.foldl (· + ·) 0 = (xs ++ ys).foldl (· + ·) 0 := by
  obtain ⟨vs, hvs, hrep⟩ := hxy
  obtain ⟨ws, hws, hrepy⟩ := hy
  have hall := hvs
  rw [List.map_append] at hvs
  obtain ⟨us, ws', rfl, hus, hws'⟩ := List.map_eq_append_iff.mp hvs.symm
  obtain rfl : ws = ws' := (List.map_injective_iff.mpr (Option.some_injective _) (hws'.trans hws)).symm
  have h0 : value? (0 : Float) = some 0 := rfl
  have hpos : (0 : Float).toModel.unpack ≠ .zero .negative := by
    rw [show (0 : Float).toModel.unpack = .zero .positive from rfl]
    simp
  -- the three sums from zero, each exact
  have hxs : value? (xs.foldl (· + ·) 0) = some us.sum :=
    by simpa using value?_foldl_add h0 hus.symm (by simpa using representable_take_left hrep)
  have hys : value? (ys.foldl (· + ·) 0) = some ws.sum :=
    by simpa using value?_foldl_add h0 hws (by simpa using hrepy)
  have hfull : Representable (us.sum + ws.sum) := by
    have h := hrep (us ++ ws).length
    rwa [List.take_of_length_le le_rfl, List.sum_append] at h
  -- both sides are worth the sum of the values, and neither is a negative zero
  apply eq_of_unsignZero_eq
  · refine unsignZero_eq_of_value? (value?_add hxs hys hfull) ?_
    simpa using value?_foldl_add h0 hall (by simpa using hrep)
  · exact unpack_add_ne_negZero hxs hys hfull
      (unpack_foldl_add_ne_negZero h0 hpos hus.symm (by simpa using representable_take_left hrep))
  · exact unpack_foldl_add_ne_negZero h0 hpos hall (by simpa using hrep)

end DataQuality.Decimal
