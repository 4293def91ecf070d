import Mathlib
import DataQuality.Decimal.Arithmetic

/-!
# The order of doubles

IEEE 754 compares doubles as numbers: not-a-number is unordered, the two zeros are equal, and
otherwise the order is that of the values.  The logical model of `Float` unpacks both operands
into a sign, a mantissa and an exponent and compares those lexicographically.  This module reads
that comparison as a preorder: every double has a rank in a lexicographic product of integers
(`Decimal.rank`), and on doubles other than not-a-number `<` and `≤` are the strict and weak order
of ranks (`Decimal.lt_iff_rank`, `Decimal.le_iff_rank`).

`minNum` and `maxNum` choose between two doubles in the same way, by the rank in one order or in
its reverse: not-a-number gives way, and of two doubles the first is kept only when it comes
strictly first.  So both are associative, and folding one over a list picks an element that is
least (greatest) among those that are numbers, or any element when none is a number.
-/

namespace DataQuality.Decimal

open Float.Model Float.Model.UnpackedFloat

/-- A double is its bits. -/
lemma eq_of_toBits_eq {a b : Float} (h : a.toBits = b.toBits) : a = b := by
  rcases a with ⟨⟨a, ha⟩⟩
  rcases b with ⟨⟨b, hb⟩⟩
  cases h
  rfl

/-! ## Ranks -/

/-- The place of an unpacked double in the comparison order: negative infinity, negative finite
numbers (by exponent and mantissa, reversed), zeros of either sign, positive finite numbers,
positive infinity. -/
def unpackedRank : UnpackedFloat → ℤ ×ₗ (ℤ ×ₗ ℤ)
  | .infinity .negative => toLex (-2, toLex (0, 0))
  | .finite .negative m e _ => toLex (-1, toLex (-e, -(m : ℤ)))
  | .zero _ => toLex (0, toLex (0, 0))
  | .finite .positive m e _ => toLex (1, toLex (e, (m : ℤ)))
  | .infinity .positive => toLex (2, toLex (0, 0))
  | .notANumber => toLex (3, toLex (0, 0))

/-- The rank of a double in the comparison order. -/
def rank (x : Float) : ℤ ×ₗ (ℤ ×ₗ ℤ) := unpackedRank x.toModel.unpack

/-- Lexicographic comparison of exponent-mantissa pairs is at most `eq` when the first pair
is not above the second. -/
lemma then_isLE_iff (e e' : ℤ) (m m' : ℕ) :
    ((compare e e').then (compare m m')).isLE = true ↔ e < e' ∨ e = e' ∧ m ≤ m' := by
  rcases lt_trichotomy e e' with h | rfl | h
  · simp [Int.compare_eq_lt.mpr h, h]
  · simp [Nat.isLE_compare]
  · have hgt : compare e e' = .gt := Int.compare_eq_gt.mpr h
    simp [hgt]
    omega

/-- Lexicographic comparison of exponent-mantissa pairs is at least `eq` when the first pair
is not below the second. -/
lemma then_isGE_iff (e e' : ℤ) (m m' : ℕ) :
    ((compare e e').then (compare m m')).isGE = true ↔ e' < e ∨ e = e' ∧ m' ≤ m := by
  rcases lt_trichotomy e e' with h | rfl | h
  · simp [Int.compare_eq_lt.mpr h]
    omega
  · simp [Nat.isGE_compare]
  · have hgt : compare e e' = .gt := Int.compare_eq_gt.mpr h
    simp [hgt, h]

/-- Unpacked doubles other than not-a-number compare as less exactly when their ranks do. -/
lemma unpacked_compare_lt_iff {a b : UnpackedFloat} (ha : a.isNaN = false) (hb : b.isNaN = false) :
    a.compare b = some .lt ↔ unpackedRank a < unpackedRank b := by
  rcases a with ⟨_ | _⟩ | _ | ⟨_ | _⟩ | ⟨_ | _, m, e, hm⟩ <;>
    rcases b with ⟨_ | _⟩ | _ | ⟨_ | _⟩ | ⟨_ | _, m', e', hm'⟩ <;>
    simp_all [UnpackedFloat.compare, UnpackedFloat.isNaN, unpackedRank, Prod.Lex.toLex_lt_toLex,
      Ordering.then_eq_lt, Int.compare_eq_lt, Nat.compare_eq_lt, Ordering.then_eq_gt,
      Int.compare_eq_gt, Nat.compare_eq_gt]
  -- left: negative infinity below positive infinity, by the order of the signs
  rfl

/-- Unpacked doubles other than not-a-number compare as at most equal exactly when their ranks
do. -/
lemma unpacked_compare_le_iff {a b : UnpackedFloat} (ha : a.isNaN = false) (hb : b.isNaN = false) :
    (a.compare b).any (·.isLE) = true ↔ unpackedRank a ≤ unpackedRank b := by
  rcases a with ⟨_ | _⟩ | _ | ⟨_ | _⟩ | ⟨_ | _, m, e, hm⟩ <;>
    rcases b with ⟨_ | _⟩ | _ | ⟨_ | _⟩ | ⟨_ | _, m', e', hm'⟩ <;>
    simp_all [UnpackedFloat.compare, UnpackedFloat.isNaN, unpackedRank, Prod.Lex.toLex_le_toLex,
      Ordering.isLE_swap, then_isLE_iff, then_isGE_iff] <;>
    rfl

/-- `<` on doubles is the comparison of the unpacked operands. -/
lemma lt_iff_compare (x y : Float) :
    x < y ↔ x.toModel.unpack.compare y.toModel.unpack = some .lt := by
  show Float.lt x y = true ↔ _
  simp only [Float.lt, decide_eq_true_eq]
  show x.toModel.lt y.toModel = true ↔ _
  simp [Float.Model.lt, UnpackedFloat.lt]

/-- `≤` on doubles is the comparison of the unpacked operands. -/
lemma le_iff_compare (x y : Float) :
    x ≤ y ↔ (x.toModel.unpack.compare y.toModel.unpack).any (·.isLE) = true := by
  show Float.le x y = true ↔ _
  simp only [Float.le, decide_eq_true_eq]
  show x.toModel.le y.toModel = true ↔ _
  simp [Float.Model.le, UnpackedFloat.le]

/-- Doubles that are numbers compare by rank. -/
lemma lt_iff_rank {x y : Float} (hx : x.isNaN = false) (hy : y.isNaN = false) :
    x < y ↔ rank x < rank y :=
  (lt_iff_compare x y).trans (unpacked_compare_lt_iff hx hy)

/-- Doubles that are numbers compare by rank. -/
lemma le_iff_rank {x y : Float} (hx : x.isNaN = false) (hy : y.isNaN = false) :
    x ≤ y ↔ rank x ≤ rank y :=
  (le_iff_compare x y).trans (unpacked_compare_le_iff hx hy)

/-- Unpacked doubles other than not-a-number compare as equal exactly when their ranks agree. -/
lemma unpacked_compare_eq_iff {a b : UnpackedFloat} (ha : a.isNaN = false) (hb : b.isNaN = false) :
    a.compare b = some .eq ↔ unpackedRank a = unpackedRank b := by
  rcases a with ⟨_ | _⟩ | _ | ⟨_ | _⟩ | ⟨_ | _, m, e, hm⟩ <;>
    rcases b with ⟨_ | _⟩ | _ | ⟨_ | _⟩ | ⟨_ | _, m', e', hm'⟩ <;>
    simp_all [UnpackedFloat.compare, UnpackedFloat.isNaN, unpackedRank, Ordering.then_eq_eq]
  -- infinities of one sign: the signs compare as equal
  all_goals rfl

/-- Doubles that are numbers are equal, in the sense of `==`, exactly when their ranks agree. -/
lemma beq_iff_rank {x y : Float} (hx : x.isNaN = false) (hy : y.isNaN = false) :
    (x == y) = true ↔ rank x = rank y := by
  show (x.toModel.unpack.compare y.toModel.unpack == some .eq) = true ↔ _
  rw [beq_iff_eq]
  exact unpacked_compare_eq_iff hx hy

/-- Not-a-number is below nothing. -/
lemma not_lt_of_isNaN_left {x y : Float} (hx : x.isNaN = true) : ¬ x < y := by
  rw [lt_iff_compare]
  change x.toModel.unpack.isNaN = true at hx
  cases hu : x.toModel.unpack <;> simp_all [UnpackedFloat.isNaN, UnpackedFloat.compare]

/-- Nothing is below not-a-number. -/
lemma not_lt_of_isNaN_right {x y : Float} (hy : y.isNaN = true) : ¬ x < y := by
  rw [lt_iff_compare]
  change y.toModel.unpack.isNaN = true at hy
  cases hu : y.toModel.unpack <;> cases x.toModel.unpack <;>
    simp_all [UnpackedFloat.isNaN, UnpackedFloat.compare]

/-- Not-a-number is at most nothing. -/
lemma not_le_of_isNaN_left {x y : Float} (hx : x.isNaN = true) : ¬ x ≤ y := by
  rw [le_iff_compare]
  change x.toModel.unpack.isNaN = true at hx
  cases hu : x.toModel.unpack <;> simp_all [UnpackedFloat.isNaN, UnpackedFloat.compare]

/-- Not-a-number equals nothing, on either side of `==`. -/
lemma beq_eq_false_of_isNaN {x y : Float} (h : x.isNaN = true ∨ y.isNaN = true) : (x == y) = false := by
  show (x.toModel.unpack.compare y.toModel.unpack == some .eq) = false
  change x.toModel.unpack.isNaN = true ∨ y.toModel.unpack.isNaN = true at h
  rcases h with h | h
  · cases hu : x.toModel.unpack <;> simp_all [UnpackedFloat.isNaN, UnpackedFloat.compare]
  · cases hu : y.toModel.unpack <;> cases x.toModel.unpack <;>
      simp_all [UnpackedFloat.isNaN, UnpackedFloat.compare]

/-- Equality of doubles, `==`, is symmetric: numbers are equal by rank, and not-a-number is
equal to nothing. -/
lemma beq_comm_float (x y : Float) : (x == y) = (y == x) := by
  cases hx : x.isNaN
  · cases hy : y.isNaN
    · exact Bool.eq_iff_iff.mpr ((beq_iff_rank hx hy).trans (eq_comm.trans (beq_iff_rank hy hx).symm))
    · rw [beq_eq_false_of_isNaN (.inr hy), beq_eq_false_of_isNaN (.inl hy)]
  · rw [beq_eq_false_of_isNaN (.inl hx), beq_eq_false_of_isNaN (.inr hx)]

/-! ## Choosing by rank -/

section Choice

variable {β : Type} [LinearOrder β]

/-- The choice between two doubles by a key: a second operand that is not a number gives way,
and otherwise the first is kept exactly when it is a number whose key is strictly smaller. -/
def chooseBy (key : Float → β) (a b : Float) : Float :=
  if b.isNaN = true then a else if a.isNaN = false ∧ key a < key b then a else b

/-- `x` is first by a key among `xs`: one of them, a number if any of them is one, and with a key
at most that of every element that is a number. -/
def IsFirstBy (key : Float → β) (xs : List Float) (x : Float) : Prop :=
  x ∈ xs ∧ ∀ y ∈ xs, y.isNaN = false → x.isNaN = false ∧ key x ≤ key y

variable {key : Float → β}

/-- A second operand that is not a number gives way. -/
lemma chooseBy_of_isNaN_right {a b : Float} (hb : b.isNaN = true) : chooseBy key a b = a := by
  rw [chooseBy, if_pos hb]

/-- A first operand that is not a number gives way to a number. -/
lemma chooseBy_of_isNaN_left {a b : Float} (ha : a.isNaN = true) (hb : b.isNaN = false) :
    chooseBy key a b = b := by
  rw [chooseBy, if_neg (Bool.eq_false_iff.mp hb), if_neg]
  rintro ⟨h, -⟩
  exact Bool.noConfusion (ha ▸ h)

/-- Between numbers the one of strictly smaller key is chosen, a tie going to the second. -/
lemma chooseBy_of_numbers {a b : Float} (ha : a.isNaN = false) (hb : b.isNaN = false) :
    chooseBy key a b = if key a < key b then a else b := by
  rw [chooseBy, if_neg (Bool.eq_false_iff.mp hb)]
  exact if_congr ⟨And.right, fun h => ⟨ha, h⟩⟩ rfl rfl

/-- A choice is a number when either operand is. -/
lemma isNaN_chooseBy (a b : Float) : (chooseBy key a b).isNaN = (a.isNaN && b.isNaN) := by
  cases ha : a.isNaN <;> cases hb : b.isNaN
  · rw [chooseBy_of_numbers ha hb]
    split_ifs <;> assumption
  · rw [chooseBy_of_isNaN_right hb, ha]
    rfl
  · rw [chooseBy_of_isNaN_left ha hb, hb]
    rfl
  · rw [chooseBy_of_isNaN_right hb, ha]
    rfl

/-- A choice is one of its operands. -/
lemma chooseBy_eq_or_eq (a b : Float) : chooseBy key a b = a ∨ chooseBy key a b = b := by
  unfold chooseBy
  split_ifs <;> simp

/-- A choice between numbers has a key at most that of either. -/
lemma key_chooseBy_le {a b : Float} (ha : a.isNaN = false) (hb : b.isNaN = false) :
    key (chooseBy key a b) ≤ key a ∧ key (chooseBy key a b) ≤ key b := by
  rw [chooseBy_of_numbers ha hb]
  split_ifs with hab
  · exact ⟨le_rfl, le_of_lt hab⟩
  · exact ⟨not_lt.mp hab, le_rfl⟩

/-- Choosing is associative: on both sides not-a-number gives way, and among numbers the last of
those with the least key is kept. -/
lemma chooseBy_assoc (a b c : Float) :
    chooseBy key (chooseBy key a b) c = chooseBy key a (chooseBy key b c) := by
  cases hc : c.isNaN
  · cases hb : b.isNaN
    · cases ha : a.isNaN
      · -- among numbers both sides keep the last of those with the least key
        rw [chooseBy_of_numbers ha hb, chooseBy_of_numbers hb hc]
        by_cases hab : key a < key b <;> by_cases hbc : key b < key c
        · rw [if_pos hab, if_pos hbc, chooseBy_of_numbers ha hc, chooseBy_of_numbers ha hb,
            if_pos hab, if_pos (lt_trans hab hbc)]
        · rw [if_pos hab, if_neg hbc]
        · rw [if_neg hab, if_pos hbc, chooseBy_of_numbers hb hc, chooseBy_of_numbers ha hb,
            if_pos hbc, if_neg hab]
        · have hac : ¬ key a < key c := not_lt.mpr (le_trans (not_lt.mp hbc) (not_lt.mp hab))
          rw [if_neg hab, if_neg hbc, chooseBy_of_numbers hb hc, chooseBy_of_numbers ha hc,
            if_neg hbc, if_neg hac]
      · rw [chooseBy_of_isNaN_left ha hb,
          chooseBy_of_isNaN_left ha (by rw [isNaN_chooseBy, hb, Bool.false_and])]
    · rw [chooseBy_of_isNaN_right hb, chooseBy_of_isNaN_left hb hc]
  · rw [chooseBy_of_isNaN_right hc, chooseBy_of_isNaN_right hc]

/-- Between numbers that their keys tell apart, the choice does not depend on the order of the
operands. -/
lemma chooseBy_comm {a b : Float} (ha : a.isNaN = false) (hb : b.isNaN = false)
    (hkey : key a = key b → a = b) : chooseBy key a b = chooseBy key b a := by
  rw [chooseBy_of_numbers ha hb, chooseBy_of_numbers hb ha]
  rcases lt_trichotomy (key a) (key b) with hlt | heq | hgt
  · rw [if_pos hlt, if_neg (not_lt.mpr hlt.le)]
  · rw [if_neg heq.not_lt, if_neg heq.symm.not_lt]
    exact (hkey heq).symm
  · rw [if_neg (not_lt.mpr hgt.le), if_pos hgt]

/-- A choice is first by the key between its two operands. -/
lemma isFirstBy_chooseBy (a b : Float) : IsFirstBy key [a, b] (chooseBy key a b) := by
  refine ⟨?_, fun w hw hwn => ?_⟩
  · rcases @chooseBy_eq_or_eq _ _ key a b with h | h <;> rw [h] <;> simp
  simp only [List.mem_cons, List.not_mem_nil, or_false] at hw
  cases ha : a.isNaN <;> cases hb : b.isNaN
  · -- two numbers: the choice has the smaller key
    have hnum : (chooseBy key a b).isNaN = false := by rw [isNaN_chooseBy, ha, hb]; rfl
    rcases hw with rfl | rfl
    · exact ⟨hnum, (key_chooseBy_le ha hb).1⟩
    · exact ⟨hnum, (key_chooseBy_le ha hb).2⟩
  · rw [chooseBy_of_isNaN_right hb]
    rcases hw with rfl | rfl
    · exact ⟨ha, le_rfl⟩
    · exact Bool.noConfusion (hb.symm.trans hwn)
  · rw [chooseBy_of_isNaN_left ha hb]
    rcases hw with rfl | rfl
    · exact Bool.noConfusion (ha.symm.trans hwn)
    · exact ⟨hb, le_rfl⟩
  · rcases hw with rfl | rfl
    · exact Bool.noConfusion (ha.symm.trans hwn)
    · exact Bool.noConfusion (hb.symm.trans hwn)

/-- What is first among the rest and the first of some elements is first among those elements
and the rest. -/
lemma IsFirstBy.append {l₁ l₂ : List Float} {c r : Float} (h₁ : IsFirstBy key l₁ c)
    (h₂ : IsFirstBy key (c :: l₂) r) : IsFirstBy key (l₁ ++ l₂) r := by
  obtain ⟨hc, hc_le⟩ := h₁
  obtain ⟨hr, hr_le⟩ := h₂
  refine ⟨?_, fun z hz hzn => ?_⟩
  · rcases List.mem_cons.mp hr with rfl | hr
    · exact List.mem_append_left _ hc
    · exact List.mem_append_right _ hr
  rcases List.mem_append.mp hz with hz | hz
  · -- an element of the first part reaches `r` through `c`
    obtain ⟨hcn, hcz⟩ := hc_le z hz hzn
    obtain ⟨hrn, hrc⟩ := hr_le c List.mem_cons_self hcn
    exact ⟨hrn, le_trans hrc hcz⟩
  · exact hr_le z (List.mem_cons_of_mem c hz) hzn

/-- Folding a choice over a list picks an element first by the key. -/
lemma isFirstBy_foldl_chooseBy (x : Float) (xs : List Float) :
    IsFirstBy key (x :: xs) (xs.foldl (chooseBy key) x) := by
  induction xs generalizing x with
  | nil =>
    refine ⟨List.mem_singleton_self x, fun y hy hyn => ?_⟩
    rw [List.mem_singleton.mp hy] at hyn ⊢
    exact ⟨hyn, le_rfl⟩
  | cons y ys ih =>
    -- the fold goes on from the choice between the first two
    exact (isFirstBy_chooseBy x y).append (ih (chooseBy key x y))

end Choice

/-- `minNum` chooses the double of least rank. -/
lemma minNum_eq_chooseBy : minNum = chooseBy rank := by
  funext a b
  cases hb : b.isNaN
  · rw [minNum, if_neg (Bool.eq_false_iff.mp hb)]
    cases ha : a.isNaN
    · rw [chooseBy_of_numbers ha hb]
      exact if_congr (lt_iff_rank ha hb) rfl rfl
    · rw [chooseBy_of_isNaN_left ha hb, if_neg (not_lt_of_isNaN_left ha)]
  · rw [minNum, if_pos hb, chooseBy_of_isNaN_right hb]

/-- `maxNum` chooses the double of greatest rank. -/
lemma maxNum_eq_chooseBy : maxNum = chooseBy fun x => OrderDual.toDual (rank x) := by
  funext a b
  cases hb : b.isNaN
  · rw [maxNum, if_neg (Bool.eq_false_iff.mp hb)]
    cases ha : a.isNaN
    · rw [chooseBy_of_numbers ha hb]
      exact if_congr ((lt_iff_rank hb ha).trans OrderDual.toDual_lt_toDual.symm) rfl rfl
    · rw [chooseBy_of_isNaN_left ha hb, if_neg (not_lt_of_isNaN_right ha)]
  · rw [maxNum, if_pos hb, chooseBy_of_isNaN_right hb]

lemma minNum_assoc (a b c : Float) : minNum (minNum a b) c = minNum a (minNum b c) := by
  rw [minNum_eq_chooseBy]
  exact chooseBy_assoc a b c

lemma maxNum_assoc (a b c : Float) : maxNum (maxNum a b) c = maxNum a (maxNum b c) := by
  rw [maxNum_eq_chooseBy]
  exact chooseBy_assoc a b c

end DataQuality.Decimal
