import DataQuality.Proofs.Predicate.Membership

/-!
# Predicates on whole numbers

A column of integers meets integer literals as doubles: the cell through `ofInt`, the literal
through `readFloat?` of its digits, which is `ofInt` again (`readFloat?_toString`).  Up to
fifty-three bits both are exact and order and equality of the doubles are those of the integers,
so every comparison, list and range of integer literals, and every comparison with another
column of integers, decides as the integers do (`integer_predicates_exact`).

Past fifty-three bits neighbours share a double: `id = 9007199254740992` passes on the integer
`9007199254740993` (`integer_equality_rounds`).
-/

namespace DataQuality.Predicate

open Pattern

/-! ### Integers as operands -/

section Literals

variable {n : Int}

/-- The decimal text of an integer is a number written without quotes. -/
lemma isDecimal_toString (h : n.natAbs < 10 ^ 310) : IsDecimal (toString n) where
  chars ch hch := by
    rw [Decimal.toList_toString_int] at hch
    rcases List.mem_append.mp hch with hsign | hdigit
    · split_ifs at hsign
      · rw [List.mem_singleton.mp hsign]
        rfl
      · exact absurd hsign List.not_mem_nil
    · simp [isDecimalChar, Nat.isDigit_of_mem_toDigits (by decide) (by decide) hdigit]
  reads := by
    rw [Decimal.readFloat?_toString h]
    rfl

/-- The text of an integer of at most fifty-three bits has at most 310 digits. -/
lemma natAbs_lt_of_le (h : n.natAbs ≤ 2 ^ 53) : n.natAbs < 10 ^ 310 :=
  Nat.lt_of_le_of_lt h (Nat.lt_of_lt_of_le (show 2 ^ 53 < 10 ^ 16 by norm_num)
    (Nat.pow_le_pow_right (by norm_num) (by norm_num)))

/-- The decimal text of an integer, as the right side of a comparison, is the integer's double. -/
lemma operand_toString (h : n.natAbs < 10 ^ 310) : operand (toString n) = .number (Decimal.ofInt n) :=
  operand_of_readFloat
    (fun ch hch => ne_of_isDecimalChar ((isDecimal_toString h).chars ch (List.mem_of_mem_head? hch)) rfl)
    (Decimal.readFloat?_toString h)

/-- A list of integer literals, as the library writes it. -/
lemma listText_integers (ns : List Int) :
    listText (ns.map fun n => .number (toString n)) = ", ".intercalate (ns.map toString) := by
  simp only [listText, List.map_map, Function.comp_def, Literal.text]

end Literals

/-! ### Deciding on doubles of integers -/

section Doubles

variable {a b : Int}

/-- Between integers of at most fifty-three bits every operator holds of their doubles as of the
integers. -/
lemma holdsFloat_ofInt (o : CompareOp) (ha : a.natAbs ≤ 2 ^ 53) (hb : b.natAbs ≤ 2 ^ 53) :
    o.holdsFloat (Decimal.ofInt a) (Decimal.ofInt b) = o.holdsBy (· == ·) (fun x y => decide (x < y)) a b := by
  have heq : (Decimal.ofInt a == Decimal.ofInt b) = (a == b) :=
    Bool.eq_iff_iff.mpr ((Decimal.ofInt_beq_ofInt_iff ha hb).trans beq_iff_eq.symm)
  have hlt := Decimal.ofInt_lt_ofInt_iff ha hb
  have hgt := Decimal.ofInt_lt_ofInt_iff hb ha
  have hle := Decimal.ofInt_le_ofInt_iff ha hb
  have hge := Decimal.ofInt_le_ofInt_iff hb ha
  cases o <;> simp only [CompareOp.holdsFloat, CompareOp.holdsBy, bne, heq, gt_iff_lt, ge_iff_le, decide_eq_decide]
  · exact hlt
  · rw [Bool.eq_iff_iff]
    simp only [decide_eq_true_eq, Bool.or_eq_true, beq_iff_eq, hle]
    exact Int.le_iff_lt_or_eq
  · exact hgt
  · rw [Bool.eq_iff_iff]
    simp only [decide_eq_true_eq, Bool.or_eq_true, beq_iff_eq, hge]
    exact Int.le_iff_lt_or_eq.trans (or_congr_right eq_comm)

/-- Membership of an integer cell in the texts of integers, all of at most fifty-three bits, is
membership of the integer in the list. -/
lemma any_amongHit_toString {ns : List Int} (hns : ∀ n ∈ ns, n.natAbs ≤ 2 ^ 53) (ha : a.natAbs ≤ 2 ^ 53) :
    (ns.map toString).any (amongHit (.int a)) = ns.contains a := by
  rw [List.contains_eq_any_beq, List.any_map, Bool.eq_iff_iff, List.any_eq_true, List.any_eq_true]
  refine exists_congr fun n => and_congr_right fun hn => ?_
  simp only [Function.comp_apply, amongHit, Value.asFloat?, Decimal.readFloat?_toString (natAbs_lt_of_le (hns n hn))]
  rw [Decimal.ofInt_beq_ofInt_iff (hns n hn) ha, beq_iff_eq, eq_comm]

end Doubles

/-! ### Exactness up to fifty-three bits -/

section Exact

variable {P : Patterns} {word : Char → Bool} {c : String} {v : RowView} {a : Int}

/-- Integer comparisons in predicates are exact up to fifty-three bits: on a row where the
column `c` holds the integer `a`, the comparisons `c op n`, the lists `c IN (n₁, …)` and
`c = ANY(ARRAY[n₁, …])` and the range `c BETWEEN n AND m` of integer literals decide as the
integers do, and so does `c op d` for a column `d` of integers whose name reads as no number
and no boolean; all of it for integers of at most fifty-three bits. -/
theorem integer_predicates_exact (hw : WordClass word) (hf : P.Follow word) (hc : IsName word c.toList)
    (hcell : v.get? (Text.toLower c) = some (.int a)) (ha : a.natAbs ≤ 2 ^ 53) :
    (∀ (o : CompareOp) (n : Int), n.natAbs ≤ 2 ^ 53 →
      (parseWith P (c ++ " " ++ o.symbol ++ " " ++ toString n)).map (evaluate v) =
        .ok (.ofBool (o.holdsBy (· == ·) (fun x y => decide (x < y)) a n))) ∧
    (∀ ns : List Int, ns ≠ [] → (∀ n ∈ ns, n.natAbs ≤ 2 ^ 53) →
      (parseWith P (c ++ " IN (" ++ ", ".intercalate (ns.map toString) ++ ")")).map (evaluate v) =
          .ok (.ofBool (ns.contains a)) ∧
        (parseWith P (c ++ " = ANY(ARRAY[" ++ ", ".intercalate (ns.map toString) ++ "])")).map (evaluate v) =
          .ok (.ofBool (ns.contains a))) ∧
    (∀ n m : Int, n.natAbs ≤ 2 ^ 53 → m.natAbs ≤ 2 ^ 53 →
      (parseWith P (c ++ " BETWEEN " ++ toString n ++ " AND " ++ toString m)).map (evaluate v) =
        .ok (.ofBool (decide (n ≤ a ∧ a ≤ m)))) ∧
    (∀ (o : CompareOp) (d : String) (b : Int), IsName word d.toList → Decimal.readFloat? d = none →
      Text.equalsIgnoringAsciiCase d "true" = false → Text.equalsIgnoringAsciiCase d "false" = false →
      v.get? (Text.toLower d) = some (.int b) → b.natAbs ≤ 2 ^ 53 →
      (parseWith P (c ++ " " ++ o.symbol ++ " " ++ d)).map (evaluate v) =
        .ok (.ofBool (o.holdsBy (· == ·) (fun x y => decide (x < y)) a b))) := by
  have hnull : (Value.int a).isNull = false := rfl
  refine ⟨fun o n hn => ?_, fun ns hne hns => ?_, fun n m hn hm => ?_, fun o d b hd hnum htrue hfalse hget hb => ?_⟩
  · -- a comparison with an integer literal
    have hdec := isDecimal_toString (natAbs_lt_of_le hn)
    rw [parseWith_comparison hw hf hc o hdec.isOperand, map_ok_eq_ok, evaluate_compare_of_get hcell hnull,
      operand_toString (natAbs_lt_of_le hn)]
    simp only [operandValue, compareValues, Value.asFloat?, holdsFloat_ofInt o ha hn]
  · -- a list of integer literals, in either form
    have hfits : ∀ close, ∀ l ∈ ns.map (fun n => Literal.number (toString n)), l.Fits close := by
      intro close l hl
      obtain ⟨n, hn, rfl⟩ := List.mem_map.mp hl
      exact isDecimal_toString (natAbs_lt_of_le (hns n hn))
    have hne' : ns.map (fun n => Literal.number (toString n)) ≠ [] := by simpa using hne
    have hvalues : (ns.map fun n => Literal.number (toString n)).map Literal.value = ns.map toString := by
      simp [Literal.value, Function.comp_def]
    rw [← listText_integers, parseWith_inList hw hf hc hne' (hfits ')'), parseWith_anyArray hw hf hc hne' (hfits ']'),
      hvalues, map_ok_eq_ok, evaluate_among_of_get hcell hnull, amongValues_eq_any hnull, any_amongHit_toString hns ha]
    exact ⟨rfl, rfl⟩
  · -- a range between integer literals
    rw [parseWith_between hw hf hc (isDecimal_toString (natAbs_lt_of_le hn)) (isDecimal_toString (natAbs_lt_of_le hm))
      (Decimal.readFloat?_toString (natAbs_lt_of_le hn)) (Decimal.readFloat?_toString (natAbs_lt_of_le hm)),
      map_ok_eq_ok]
    simp only [evaluate, hcell, Option.bind_some, Value.asFloat?, ge_iff_le, Decimal.ofInt_le_ofInt_iff hn ha,
      Decimal.ofInt_le_ofInt_iff ha hm, Bool.decide_and]
  · -- a comparison with another column of integers
    have hhead : ∀ ch ∈ d.toList.head?, ch ≠ '\'' :=
      fun ch hch => hw.ne_of_word (hd.word ch (List.mem_of_mem_head? hch)) (by decide) (by decide)
    rw [parseWith_comparison hw hf hc o (hd.isOperand hw), map_ok_eq_ok, evaluate_compare_of_get hcell hnull,
      operand_of_name hhead hnum htrue hfalse]
    simp only [operandValue, hget, compareValues, Value.asFloat?, holdsFloat_ofInt o ha hb]

theorem integer_predicates_exact_count :
    (∀ (o : CompareOp) (n : Int), n.natAbs ≤ 2 ^ 53 →
      (parseWith (Patterns.reference asciiWord) ("n" ++ " " ++ o.symbol ++ " " ++ toString n)).map
          (evaluate ⟨RowView.index ["n"], [.int 5]⟩) =
        .ok (.ofBool (o.holdsBy (· == ·) (fun x y => decide (x < y)) 5 n))) ∧
    (∀ ns : List Int, ns ≠ [] → (∀ n ∈ ns, n.natAbs ≤ 2 ^ 53) →
      (parseWith (Patterns.reference asciiWord) ("n" ++ " IN (" ++ ", ".intercalate (ns.map toString) ++ ")")).map
          (evaluate ⟨RowView.index ["n"], [.int 5]⟩) = .ok (.ofBool (ns.contains 5)) ∧
        (parseWith (Patterns.reference asciiWord)
          ("n" ++ " = ANY(ARRAY[" ++ ", ".intercalate (ns.map toString) ++ "])")).map
          (evaluate ⟨RowView.index ["n"], [.int 5]⟩) = .ok (.ofBool (ns.contains 5))) ∧
    (∀ n m : Int, n.natAbs ≤ 2 ^ 53 → m.natAbs ≤ 2 ^ 53 →
      (parseWith (Patterns.reference asciiWord) ("n" ++ " BETWEEN " ++ toString n ++ " AND " ++ toString m)).map
          (evaluate ⟨RowView.index ["n"], [.int 5]⟩) = .ok (.ofBool (decide (n ≤ 5 ∧ 5 ≤ m)))) ∧
    (∀ (o : CompareOp) (d : String) (b : Int), IsName asciiWord d.toList → Decimal.readFloat? d = none →
      Text.equalsIgnoringAsciiCase d "true" = false → Text.equalsIgnoringAsciiCase d "false" = false →
      RowView.get? ⟨RowView.index ["n"], [.int 5]⟩ (Text.toLower d) = some (.int b) → b.natAbs ≤ 2 ^ 53 →
      (parseWith (Patterns.reference asciiWord) ("n" ++ " " ++ o.symbol ++ " " ++ d)).map
          (evaluate ⟨RowView.index ["n"], [.int 5]⟩) =
        .ok (.ofBool (o.holdsBy (· == ·) (fun x y => decide (x < y)) 5 b))) :=
  integer_predicates_exact wordClass_asciiWord (Patterns.reference_follow asciiWord) ⟨by simp, by simp; decide⟩
    (get?_index_single "n" (.int 5)) (by norm_num)

set_option maxRecDepth 10000 in
/-- Past fifty-three bits an equality with an integer literal passes on another integer:
`9007199254740993` and `9007199254740992 = 2 ^ 53` have one double. -/
theorem integer_equality_rounds :
    (parseWith (Patterns.reference asciiWord) "id = 9007199254740992").map
        (evaluate ⟨RowView.index ["id"], [.int 9007199254740993]⟩) = .ok .passed ∧
      (9007199254740993 : Int) ≠ 9007199254740992 := by
  have hc : IsName asciiWord "id".toList := ⟨by simp, by simp; decide⟩
  have hlt : (9007199254740992 : Int).natAbs < 10 ^ 310 :=
    Nat.lt_of_lt_of_le (show 9007199254740992 < 10 ^ 16 by norm_num) (Nat.pow_le_pow_right (by norm_num) (by norm_num))
  have htext : "id = 9007199254740992" = "id" ++ " " ++ CompareOp.eq.symbol ++ " " ++ toString (9007199254740992 : Int) := by
    decide
  refine ⟨?_, by decide⟩
  rw [htext, parseWith_comparison wordClass_asciiWord (Patterns.reference_follow asciiWord) hc .eq
      (isDecimal_toString hlt).isOperand, map_ok_eq_ok, evaluate_compare_of_get (get?_index_single "id" _) rfl,
    operand_toString hlt]
  decide

end Exact

end DataQuality.Predicate
