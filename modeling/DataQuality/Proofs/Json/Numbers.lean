import Mathlib
import DataQuality.Proofs.Json.Lexical
import DataQuality.Proofs.Double.Digits

/-!
# Printed numbers read back

An integer token is printed as its decimal digits and a finite double in one of the layouts of
`Decimal.jsonText`.  Each printed number is a number token of the grammar (`intToken`,
`floatToken`), so the reader takes it apart as `number_ok` says; what remains is the value of
the parts.  An integer in the range of integer tokens stays that integer (`number_int`).  The
digits of a double, wherever its layout puts the point, stand for the shortest decimal in the
rounding interval of the double, and so read back as the double itself (`number_float`).
-/

namespace DataQuality.Json

open Decimal

variable {rest : List Char}

/-! ## Digit text -/

lemma digitsValue_eq_ofDigitChars (ds : List Char) : digitsValue ds = Nat.ofDigitChars 10 ds 0 := by
  -- the fold of `digitsValue` is the one of `ofDigitChars` from any start
  suffices h : ∀ init, ds.foldl (fun acc c => acc * 10 + (c.toNat - '0'.toNat)) init =
      Nat.ofDigitChars 10 ds init from h 0
  induction ds with
  | nil => intro init; simp
  | cons c ds ih => intro init; rw [List.foldl_cons, ih, Nat.ofDigitChars_cons, Nat.mul_comm]

@[simp] lemma digitsValue_toDigits (n : Nat) : digitsValue (Nat.toDigits 10 n) = n := by
  rw [digitsValue_eq_ofDigitChars, Nat.ofDigitChars_ten_toDigits]

lemma digitsValue_append (a b : List Char) :
    digitsValue (a ++ b) = digitsValue a * 10 ^ b.length + digitsValue b := by
  rw [digitsValue_eq_ofDigitChars, Nat.ofDigitChars_append, Nat.ofDigitChars_eq_ofDigitChars_zero,
    ← digitsValue_eq_ofDigitChars, ← digitsValue_eq_ofDigitChars, Nat.mul_comm]

@[simp] lemma digitsValue_replicate_zero (k : Nat) : digitsValue (List.replicate k '0') = 0 := by
  rw [digitsValue_eq_ofDigitChars, Nat.ofDigitChars_replicate_zero, Nat.mul_zero]

lemma digitsValue_lt : ∀ ds : List Char, (∀ ch ∈ ds, ch.isDigit = true) →
    digitsValue ds < 10 ^ ds.length
  | [], _ => by decide
  | ch :: ds, hd => by
    have hch : ch.toNat - '0'.toNat < 10 := by
      have := hd ch List.mem_cons_self
      simp only [Char.isDigit, Bool.and_eq_true, decide_eq_true_eq] at this
      have h1 : ch.toNat ≤ 57 := this.2
      simp only [Char.reduceToNat]
      omega
    have := digitsValue_lt ds (fun c hc => hd c (List.mem_cons_of_mem _ hc))
    have h1 : digitsValue [ch] ≤ 9 := by
      simp only [digitsValue, List.foldl_cons, List.foldl_nil, Nat.zero_mul, Nat.zero_add]
      omega
    rw [← List.singleton_append, digitsValue_append, List.length_append, List.length_singleton,
      pow_add, pow_one]
    nlinarith

lemma isDigit_of_mem_toDigits {n : Nat} {ch : Char} (h : ch ∈ Nat.toDigits 10 n) :
    ch.isDigit = true :=
  Nat.isDigit_of_mem_toDigits (by decide) (by decide) h

/-- The digits of a positive number do not start with zero. -/
lemma toDigits_head_ne_zero {n : Nat} (hn : 0 < n) {r : List Char} :
    Nat.toDigits 10 n ≠ '0' :: r := by
  intro h
  have hval : n = digitsValue r := by
    rw [← digitsValue_toDigits n, h, ← List.singleton_append, digitsValue_append]
    simp [digitsValue]
  have hr : ∀ ch ∈ r, ch.isDigit = true :=
    fun ch hc => isDigit_of_mem_toDigits (by rw [h]; exact List.mem_cons_of_mem _ hc)
  rcases Nat.eq_zero_or_pos r.length with hl | hl
  · rw [List.length_eq_zero_iff.mp hl] at hval
    simp [digitsValue] at hval
    omega
  · -- the digits are one too many for a number below `10 ^ r.length`
    have hlen := (Nat.length_toDigits_le_iff (by decide) hl).mpr (hval ▸ digitsValue_lt r hr)
    rw [h, List.length_cons] at hlen
    omega

/-! ## Integers -/

/-- The token of an integer as it is printed. -/
def intToken (n : Int) : NumberToken := ⟨decide (n < 0), Nat.toDigits 10 n.natAbs, [], none⟩

lemma intToken_text (n : Int) : (intToken n).text = (toString n).toList := by
  rw [Int.toString_eq_repr, Int.repr_eq_if]
  simp only [intToken, NumberToken.text, NumberToken.exponentText, ↓reduceIte, List.append_nil]
  rcases le_or_gt 0 n with h | h
  · have habs : n.toNat = n.natAbs := by omega
    simp only [show decide (n < 0) = false from decide_eq_false (by omega), Bool.false_eq_true,
      if_false, if_pos h, Nat.toList_repr, habs, List.nil_append]
  · have habs : (-n).toNat = n.natAbs := by omega
    simp only [decide_eq_true h, if_true, if_neg (show ¬ 0 ≤ n by omega), String.toList_append,
      Nat.toList_repr, habs]
    rfl

lemma intToken_wellFormed (n : Int) : (intToken n).WellFormed where
  whole_ne := Nat.toDigits_ne_nil
  whole_digits _ h := isDigit_of_mem_toDigits h
  leading_zero h := by
    obtain ⟨r, hr⟩ : ∃ r, Nat.toDigits 10 n.natAbs = '0' :: r := by
      cases hd : Nat.toDigits 10 n.natAbs with
      | nil => exact absurd hd Nat.toDigits_ne_nil
      | cons a r => simp only [intToken, hd, List.head?_cons, Option.some.injEq] at h; exact ⟨r, by rw [h]⟩
    rcases Nat.eq_zero_or_pos n.natAbs with h0 | hpos
    · show Nat.toDigits 10 n.natAbs = ['0']
      rw [h0]
      rfl
    · exact absurd hr (toDigits_head_ne_zero hpos)
  fraction_digits _ h := absurd h List.not_mem_nil
  exponent_digits _ _ h := by cases h

/-- An integer in the range of integer tokens is read back as that integer. -/
lemma number_int {n : Int} (hlo : -2 ^ 63 ≤ n) (hhi : n < 2 ^ 64) (hr : EndsNumber rest)
    {c : Cursor} (h : c.rest = (toString n).toList ++ rest) :
    ∃ d : Cursor, c.number = .ok (int n, d) ∧ d.rest = rest := by
  obtain ⟨d, hd, hnum⟩ := number_ok (intToken_wellFormed n) hr (by rw [intToken_text]; exact h)
  refine ⟨d, ?_, hd⟩
  have h63 : Int.pow 2 63 = 2 ^ 63 := rfl
  have h64 : Int.pow 2 64 = 2 ^ 64 := rfl
  -- a negative integer is its magnitude negated, within the range of integer tokens
  have hval : numberValue (intToken n).negative (intToken n).whole (intToken n).fraction
      (intToken n).exponentValue = some (int n) := by
    simp only [intToken, NumberToken.exponentValue, Option.map_none, numberValue,
      digitsValue_toDigits, h63, h64]
    by_cases hneg : n < 0
    · simp only [decide_eq_true hneg, ↓reduceIte]
      rw [if_neg (by omega), if_pos (by omega)]
      congr 2
      omega
    · simp only [decide_eq_false hneg, Bool.false_eq_true, ↓reduceIte]
      rw [if_pos (by omega)]
      congr 2
      omega
  rw [hnum, hval]

/-! ## Doubles -/

lemma toList_withSign (negative : Bool) (body : String) :
    (withSign negative body).toList = (if negative then ['-'] else []) ++ body.toList := by
  cases negative <;> simp [withSign]

lemma toList_zeros (k : Nat) : (zeros k).toList = List.replicate k '0' := by
  simp [zeros]

lemma toList_splitDigits (digits : String) (k : Nat) :
    (splitDigits digits k).toList = digits.toList.take k ++ '.' :: digits.toList.drop k := by
  simp [splitDigits]

lemma toList_digitText (x : Scientific) : x.digitText.toList = Nat.toDigits 10 x.digits := by
  rw [Scientific.digitText, Nat.toString_eq_repr, Nat.toList_repr]

/-- The token of a finite double as the JSON layout prints it: positional with a point, or one
digit, the others after a point, and a signed exponent. -/
def floatToken (negative : Bool) (d : Decimal.Dyadic) : NumberToken :=
  let s := d.shortest
  let digits := Nat.toDigits 10 s.digits
  let point := s.pointPosition
  if d.mantissa = 0 then ⟨negative, ['0'], ['0'], none⟩
  else if s.exponent ≥ 0 ∧ point ≤ 16 then
    ⟨negative, digits ++ List.replicate s.exponent.toNat '0', ['0'], none⟩
  else if point > 0 ∧ point ≤ 16 then
    ⟨negative, digits.take point.toNat, digits.drop point.toNat, none⟩
  else if point > -5 ∧ point ≤ 0 then
    ⟨negative, ['0'], List.replicate (-point).toNat '0' ++ digits, none⟩
  else
    ⟨negative, digits.take 1, digits.drop 1,
      some (some (decide (point - 1 < 0)), Nat.toDigits 10 (point - 1).natAbs)⟩

lemma length_digitText (x : Scientific) : x.digitText.length = (Nat.toDigits 10 x.digits).length := by
  rw [← String.length_toList, toList_digitText]

lemma pointPosition_eq (x : Scientific) :
    x.pointPosition = ((Nat.toDigits 10 x.digits).length : Int) + x.exponent := by
  rw [Scientific.pointPosition, length_digitText]

/-- With a negative exponent, the point stands before the last digit at the latest. -/
lemma drop_pointPosition_ne_nil {x : Scientific} (hx : x.exponent < 0) :
    (Nat.toDigits 10 x.digits).drop x.pointPosition.toNat ≠ [] := by
  have hlen := List.length_pos_iff.mpr (Nat.toDigits_ne_nil (n := x.digits) (b := 10))
  rw [← List.length_pos_iff, List.length_drop, pointPosition_eq]
  omega

/-- The JSON layout of a double is the text of its token. -/
lemma floatToken_text (negative : Bool) (d : Decimal.Dyadic) :
    (jsonText negative d).toList = (floatToken negative d).text := by
  have hne := Nat.toDigits_ne_nil (n := d.shortest.digits) (b := 10)
  have hpoint := pointPosition_eq d.shortest
  unfold jsonText floatToken
  dsimp only
  split_ifs with h0 hA hB hC <;> rw [toList_withSign]
  · simp [NumberToken.text, NumberToken.exponentText]
  · simp [NumberToken.text, NumberToken.exponentText, toList_digitText, toList_zeros]
  · -- the point stands inside the digits: some of them follow it
    have hdrop := drop_pointPosition_ne_nil (x := d.shortest) (by omega)
    simp [NumberToken.text, NumberToken.exponentText, toList_splitDigits, toList_digitText, hdrop]
  · simp [NumberToken.text, NumberToken.exponentText, toList_digitText, toList_zeros]
  · -- one digit before the point, and the exponent with its sign always written
    simp only [Scientific.exponentialSigned, NumberToken.text, NumberToken.exponentText,
      String.toList_append, length_digitText]
    have hmant : (if (Nat.toDigits 10 d.shortest.digits).length ≤ 1 then d.shortest.digitText
        else splitDigits d.shortest.digitText 1).toList =
        (Nat.toDigits 10 d.shortest.digits).take 1 ++
          (if (Nat.toDigits 10 d.shortest.digits).drop 1 = [] then []
            else '.' :: (Nat.toDigits 10 d.shortest.digits).drop 1) := by
      split_ifs with hl hd hd
      · rw [toList_digitText, ← List.take_append_drop 1 (Nat.toDigits 10 d.shortest.digits), hd]
        simp
      · have := List.length_pos_iff.mpr hd
        rw [List.length_drop] at this
        omega
      · rw [List.drop_eq_nil_iff] at hd
        omega
      · rw [toList_splitDigits, toList_digitText]
    have hexp : ((if d.shortest.pointPosition - 1 ≥ 0 then "e+" else "e").toList ++
        (toString (d.shortest.pointPosition - 1)).toList) =
        'e' :: NumberToken.signText (some (decide (d.shortest.pointPosition - 1 < 0))) ++
          Nat.toDigits 10 (d.shortest.pointPosition - 1).natAbs := by
      rw [Int.toString_eq_repr, Int.repr_eq_if]
      by_cases he : d.shortest.pointPosition - 1 ≥ 0
      · have habs : (d.shortest.pointPosition - 1).toNat = (d.shortest.pointPosition - 1).natAbs := by
          omega
        rw [if_pos he, if_pos he, decide_eq_false (by omega), Nat.toList_repr, habs]
        rfl
      · have habs : (-(d.shortest.pointPosition - 1)).toNat = (d.shortest.pointPosition - 1).natAbs := by
          omega
        rw [if_neg he, if_neg he, decide_eq_true (by omega), String.toList_append, Nat.toList_repr,
          habs]
        rfl
    simp only [List.append_assoc] at hexp ⊢
    rw [hexp, hmant]
    simp

lemma floatToken_negative (negative : Bool) (d : Decimal.Dyadic) :
    (floatToken negative d).negative = negative := by
  unfold floatToken
  dsimp only
  split_ifs <;> rfl

/-- A double is always printed with a fraction or an exponent, so it never reads as an integer. -/
lemma floatToken_fraction_or_exponent (negative : Bool) (d : Decimal.Dyadic) :
    (floatToken negative d).fraction ≠ [] ∨ (floatToken negative d).exponent ≠ none := by
  have hpoint := pointPosition_eq d.shortest
  unfold floatToken
  dsimp only
  split_ifs with h0 hA hB hC
  · simp
  · simp
  · exact Or.inl (drop_pointPosition_ne_nil (by omega))
  · simp [Nat.toDigits_ne_nil]
  · simp

/-- The digit text of a positive number does not start with zero. -/
lemma head?_toDigits_ne_zero {n : Nat} (hn : 0 < n) : (Nat.toDigits 10 n).head? ≠ some '0' := by
  cases h : Nat.toDigits 10 n with
  | nil => exact absurd h Nat.toDigits_ne_nil
  | cons a r =>
    rintro ha
    simp only [List.head?_cons, Option.some.injEq] at ha
    exact toDigits_head_ne_zero hn (ha ▸ h)

lemma floatToken_wellFormed {x : Float} {negative : Bool} {d : Decimal.Dyadic}
    (hx : decode x = .finite negative d) : (floatToken negative d).WellFormed := by
  have hT : ∀ ch ∈ Nat.toDigits 10 d.shortest.digits, ch.isDigit = true :=
    fun _ h => isDigit_of_mem_toDigits h
  have hne := Nat.toDigits_ne_nil (n := d.shortest.digits) (b := 10)
  have hpoint := pointPosition_eq d.shortest
  unfold floatToken
  dsimp only
  split_ifs with h0 hA hB hC
  · exact ⟨by simp, by simp, fun _ => rfl, by simp, by simp⟩
  all_goals
    -- the shortest decimal of a magnitude other than zero has a leading digit other than zero
    have hfin := Dyadic.finite_of_decode hx (Nat.pos_of_ne_zero h0)
    have hhead := head?_toDigits_ne_zero (Dyadic.digits_pos_of_holds hfin (Dyadic.shortest_holds hfin))
  · refine ⟨by simp [hne], ?_, ?_, by simp, by simp⟩
    · intro ch h
      rcases List.mem_append.mp h with h | h
      · exact hT ch h
      · rw [List.eq_of_mem_replicate h]
        rfl
    · intro h
      rw [List.head?_append_of_ne_nil _ hne] at h
      exact absurd h hhead
  · refine ⟨by simp [hne]; omega, fun ch h => hT ch (List.mem_of_mem_take h), ?_,
      fun ch h => hT ch (List.mem_of_mem_drop h), by simp⟩
    intro h
    rw [List.head?_take, if_neg (by omega)] at h
    exact absurd h hhead
  · refine ⟨by simp, by simp, fun _ => rfl, ?_, by simp⟩
    intro ch h
    rcases List.mem_append.mp h with h | h
    · rw [List.eq_of_mem_replicate h]
      rfl
    · exact hT ch h
  · refine ⟨by simp [hne], fun ch h => hT ch (List.mem_of_mem_take h), ?_,
      fun ch h => hT ch (List.mem_of_mem_drop h), ?_⟩
    · intro h
      rw [List.head?_take, if_neg (by omega)] at h
      exact absurd h hhead
    · intro sign ds h
      simp only [Option.some.injEq, Prod.mk.injEq] at h
      rw [← h.2]
      exact ⟨Nat.toDigits_ne_nil, fun _ h => isDigit_of_mem_toDigits h⟩

/-- The decimal that a number token with a fraction or an exponent stands for: all its digits,
scaled by its exponent less the number of digits after the point. -/
def NumberToken.decimal (t : NumberToken) : Scientific :=
  ⟨digitsValue (t.whole ++ t.fraction), t.exponentValue.getD 0 - t.fraction.length⟩

/-- A token with a fraction or an exponent is the double nearest its decimal. -/
lemma numberValue_decimal {t : NumberToken} (h : t.fraction ≠ [] ∨ t.exponent ≠ none) :
    numberValue t.negative t.whole t.fraction t.exponentValue =
      if (ofDecimal t.negative t.decimal.digits t.decimal.exponent).isInf then none
      else some (float (ofDecimal t.negative t.decimal.digits t.decimal.exponent)) := by
  unfold numberValue
  split
  · rename_i hf he
    simp only [NumberToken.exponentValue, Option.map_eq_none_iff] at he
    simp [hf, he] at h
  · rfl

/-- Wherever the layout puts the point, the token of a double other than zero stands for its
shortest decimal. -/
lemma floatToken_decimal_value (negative : Bool) {d : Decimal.Dyadic} (hm : d.mantissa ≠ 0) :
    (floatToken negative d).decimal.value = d.shortest.value := by
  have hpoint := pointPosition_eq d.shortest
  have hlen := List.length_pos_iff.mpr (Nat.toDigits_ne_nil (n := d.shortest.digits) (b := 10))
  unfold floatToken
  dsimp only
  rw [if_neg hm]
  split_ifs with hA hB hC
  · -- the zeros before the point make up the exponent, the one after it takes a place back
    obtain ⟨k, hk⟩ : ∃ k : Nat, d.shortest.exponent = k := ⟨_, (Int.toNat_of_nonneg hA.1).symm⟩
    have hzero : digitsValue ['0'] = 0 := rfl
    simp only [NumberToken.decimal, NumberToken.exponentValue, Option.map_none, Option.getD_none,
      Scientific.value, digitsValue_append, digitsValue_toDigits, digitsValue_replicate_zero,
      List.length_replicate, List.length_singleton, hk, Int.toNat_natCast, zpow_natCast, hzero]
    push_cast
    rw [zpow_neg_one]
    ring
  all_goals
    simp only [NumberToken.decimal, NumberToken.exponentValue, Scientific.value]
    congr 2
  · rw [List.take_append_drop, digitsValue_toDigits]
  · simp only [Option.map_none, Option.getD_none, List.length_drop]
    omega
  · rw [List.singleton_append, ← List.cons_append, ← List.replicate_succ, digitsValue_append,
      digitsValue_replicate_zero, digitsValue_toDigits, Nat.zero_mul, Nat.zero_add]
  · simp only [Option.map_none, Option.getD_none, List.length_append, List.length_replicate]
    omega
  · rw [List.take_append_drop, digitsValue_toDigits]
  · simp only [Option.map_some, Option.getD_some, List.length_drop, digitsValue_toDigits]
    split_ifs with hs <;> simp at hs <;> omega

/-- A finite double is printed as a number token that reads back as that double. -/
lemma number_float {x : Float} {negative : Bool} {d : Decimal.Dyadic}
    (hx : decode x = .finite negative d) (hr : EndsNumber rest) {c : Cursor}
    (h : c.rest = (floatText x).toList ++ rest) :
    ∃ e : Cursor, c.number = .ok (float x, e) ∧ e.rest = rest := by
  have htext : c.rest = (floatToken negative d).text ++ rest := by
    rw [← floatToken_text, h, floatText, hx]
  obtain ⟨e, he, hnum⟩ := number_ok (floatToken_wellFormed hx) hr htext
  refine ⟨e, ?_, he⟩
  -- the decimal of the token is a zero of the right sign, or lies in the rounding interval
  have hread : ofDecimal negative (floatToken negative d).decimal.digits
      (floatToken negative d).decimal.exponent = x := by
    rcases Nat.eq_zero_or_pos d.mantissa with h0 | hm
    · have hzero : (floatToken negative d).decimal.digits = 0 := by
        simp [floatToken, h0, NumberToken.decimal, digitsValue]
      rw [hzero, ofDecimal, if_pos rfl]
      exact assemble_zero_eq_of_decode hx h0
    · have hfin := Dyadic.finite_of_decode hx hm
      have hholds : d.interval.Holds (floatToken negative d).decimal.value := by
        rw [floatToken_decimal_value negative (Nat.pos_iff_ne_zero.mp hm)]
        exact Dyadic.shortest_holds hfin
      exact ofDecimal_eq_of_holds hx hm (Dyadic.digits_pos_of_holds hfin hholds) hholds
  rw [hnum, numberValue_decimal (floatToken_fraction_or_exponent negative d), floatToken_negative,
    hread, isInf_eq_false_of_decode hx]
  rfl

end DataQuality.Json
