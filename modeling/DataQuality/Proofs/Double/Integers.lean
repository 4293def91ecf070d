import Mathlib
import DataQuality.Proofs.Double.Rounding
import DataQuality.Proofs.Double.WholeArithmetic
import DataQuality.Decimal.Read

/-!
# Integers written in decimal and compared as doubles

The decimal text of an integer, `toString n`, is read by `readFloat?` as the double `ofInt n`
(`readFloat?_toString`): its digits make a decimal with no point and no exponent, and the double
nearest to it is the double nearest to the integer.

Up to fifty-three bits an integer is worth its double exactly (`value?_ofInt`), so the doubles
of two such integers compare as the integers do (`ofInt_lt_ofInt_iff`, `ofInt_le_ofInt_iff`,
`ofInt_beq_ofInt_iff`).  Past fifty-three bits the rounding merges neighbours: `2^53 + 1` has
the double of `2^53`.
-/

namespace DataQuality.Decimal

/-! ## Reading the digits of an integer -/

section Reading

/-- A digit is no upper-case letter, so lowering its case keeps it. -/
lemma toLower_of_isDigit {d : Char} (hd : d.isDigit = true) : d.toLower = d := by
  simp only [Char.isDigit, Bool.and_eq_true, decide_eq_true_eq, UInt32.le_iff_toNat_le] at hd
  unfold Char.toLower
  rw [dif_neg]
  simp only [ge_iff_le, UInt32.le_iff_toNat_le, not_and, not_le]
  rw [show 'A'.val.toNat = 65 from rfl]
  rw [show '9'.val.toNat = 57 from rfl] at hd
  omega

/-- Digits spell no word that starts with a letter: not `inf`, `infinity` or `nan`. -/
lemma spells_digits {d : Char} {ds : List Char} (hd : d.isDigit = true) {w : String} {x : Char}
    (hw : w.toList = x :: w.toList.tail) (hx : x.isDigit = false) : spells (d :: ds) w = false := by
  have hne : d ≠ x := by
    rintro rfl
    rw [hd] at hx
    exact Bool.noConfusion hx
  rw [spells, hw, List.map_cons, toLower_of_isDigit hd]
  simp [hne]

/-- The value of a run of digits is the number they spell. -/
lemma digitsValue_eq_ofDigitChars (ds : List Char) : digitsValue ds = Nat.ofDigitChars 10 ds 0 := by
  rw [digitsValue, Nat.ofDigitChars_eq_foldl]
  -- the two folds differ only in the order of the product
  congr 1
  funext acc c
  rw [Nat.mul_comm]

lemma digitsValue_toDigits (n : Nat) : digitsValue (Nat.toDigits 10 n) = n := by
  rw [digitsValue_eq_ofDigitChars, Nat.ofDigitChars_ten_toDigits]

/-- A run of digits is read whole, as a decimal with no point and no exponent. -/
lemma readDecimalText_digits {ds : List Char} (hne : ds ≠ []) (hd : ∀ c ∈ ds, c.isDigit = true) :
    readDecimalText ds = some ⟨ds, [], 0⟩ := by
  have htake : ds.takeWhile Char.isDigit = ds := List.takeWhile_eq_self_iff.mpr hd
  have hdrop : ds.dropWhile Char.isDigit = [] := List.dropWhile_eq_nil_iff.mpr hd
  simp [readDecimalText, htake, hdrop, hne, readExponent]

/-- The characters of the decimal text of an integer: a minus for a negative one, then the digits
of its magnitude. -/
lemma toList_toString_int (n : Int) :
    (toString n).toList = (if n < 0 then ['-'] else []) ++ Nat.toDigits 10 n.natAbs := by
  rw [Int.toString_eq_repr, Int.repr_eq_if]
  split_ifs with h₁ h₂ h₂
  · omega
  · rw [Nat.toList_repr, List.nil_append, show n.toNat = n.natAbs by omega]
  · rw [String.toList_append, Nat.toList_repr, show (-n).toNat = n.natAbs by omega]
    rfl
  · omega

/-- The sign and the digits of the decimal text of an integer. -/
lemma splitSign_toString (n : Int) :
    splitSign (toString n).toList = (decide (n < 0), Nat.toDigits 10 n.natAbs) := by
  rw [toList_toString_int]
  split_ifs with h
  · rw [decide_eq_true h]
    rfl
  · obtain ⟨d, ds, hds⟩ := List.exists_cons_of_ne_nil (Nat.toDigits_ne_nil (n := n.natAbs) (b := 10))
    have hd : d.isDigit = true := Nat.isDigit_of_mem_toDigits (by decide) (by decide) (hds ▸ List.mem_cons_self)
    -- a first digit is neither sign
    have hminus : d ≠ '-' := by
      rintro rfl
      exact Bool.noConfusion hd
    have hplus : d ≠ '+' := by
      rintro rfl
      exact Bool.noConfusion hd
    rw [List.nil_append, decide_eq_false h, hds, splitSign.eq_3 _ (by simpa using hminus) (by simpa using hplus)]

/-- The decimal text of an integer of at most 310 digits reads as the integer's double. -/
theorem readFloat?_toString {n : Int} (h : n.natAbs < 10 ^ 310) : readFloat? (toString n) = some (ofInt n) := by
  have hd : ∀ c ∈ Nat.toDigits 10 n.natAbs, c.isDigit = true :=
    fun c hc => Nat.isDigit_of_mem_toDigits (by decide) (by decide) hc
  obtain ⟨d, ds, hds⟩ := List.exists_cons_of_ne_nil (Nat.toDigits_ne_nil (n := n.natAbs) (b := 10))
  have hd₀ : d.isDigit = true := hd d (hds ▸ List.mem_cons_self)
  have hlen : (toString n.natAbs).length ≤ 310 := (Nat.length_repr_le_iff (by decide)).mpr h
  simp only [readFloat?, splitSign_toString, hds, spells_digits hd₀ (w := "inf") rfl rfl,
    spells_digits hd₀ (w := "infinity") rfl rfl, spells_digits hd₀ (w := "nan") rfl rfl, Bool.false_eq_true,
    or_self, if_false]
  rw [← hds, readDecimalText_digits Nat.toDigits_ne_nil hd, Option.map_some, List.append_nil,
    digitsValue_toDigits, ofDecimal, ofInt]
  rcases Nat.eq_zero_or_pos n.natAbs with h0 | hpos
  · have hn : n = 0 := Int.natAbs_eq_zero.mp h0
    subst hn
    rfl
  · rw [if_neg hpos.ne']
    simp only [List.length_nil, Nat.cast_zero, sub_zero, add_zero]
    rw [if_neg (by omega), if_neg (by omega), if_pos le_rfl]
    simp

end Reading

/-! ## Comparing the doubles of integers -/

section Order

variable {a b : Int}

/-- An integer of at most fifty-three bits is worth its double exactly. -/
lemma value?_ofInt (h : a.natAbs ≤ 2 ^ 53) : value? (ofInt a) = some (a : ℚ) := by
  rw [value?, unpack_ofInt h]
  rcases eq_or_ne a 0 with rfl | h0
  · rw [ofInt_binary64_zero]
    simp [unpackedValue?]
  · obtain ⟨s, m, e, hm, heq, -, hval⟩ := exists_ofInt_binary64 h0 h
    rw [heq, unpackedValue?, hval]

variable (ha : a.natAbs ≤ 2 ^ 53) (hb : b.natAbs ≤ 2 ^ 53)
include ha hb

/-- The doubles of integers of at most fifty-three bits are ordered as the integers. -/
theorem ofInt_le_ofInt_iff : ofInt a ≤ ofInt b ↔ a ≤ b := by
  rw [le_iff_rank (isNaN_ofInt a) (isNaN_ofInt b)]
  constructor
  · intro h
    exact_mod_cast value?_le_of_rank_le (value?_ofInt ha) (value?_ofInt hb) h
  · intro h
    by_contra hlt
    have hba := value?_lt_of_rank_lt (value?_ofInt hb) (value?_ofInt ha) (not_le.mp hlt)
    exact absurd h (not_le.mpr (by exact_mod_cast hba))

theorem ofInt_lt_ofInt_iff : ofInt a < ofInt b ↔ a < b := by
  rw [lt_iff_rank (isNaN_ofInt a) (isNaN_ofInt b)]
  constructor
  · intro h
    exact_mod_cast value?_lt_of_rank_lt (value?_ofInt ha) (value?_ofInt hb) h
  · intro h
    by_contra hle
    have hba := value?_le_of_rank_le (value?_ofInt hb) (value?_ofInt ha) (not_lt.mp hle)
    exact absurd h (not_lt.mpr (by exact_mod_cast hba))

/-- The doubles of integers of at most fifty-three bits are equal exactly when the integers are. -/
theorem ofInt_beq_ofInt_iff : (ofInt a == ofInt b) = true ↔ a = b := by
  rw [beq_iff_rank (isNaN_ofInt a) (isNaN_ofInt b)]
  constructor
  · intro h
    exact le_antisymm ((ofInt_le_ofInt_iff ha hb).mp ((le_iff_rank (isNaN_ofInt a) (isNaN_ofInt b)).mpr h.le))
      ((ofInt_le_ofInt_iff hb ha).mp ((le_iff_rank (isNaN_ofInt b) (isNaN_ofInt a)).mpr h.ge))
  · rintro rfl
    rfl

end Order

end DataQuality.Decimal
