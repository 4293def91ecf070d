import DataQuality.Proofs.Predicate.Reading
import DataQuality.Proofs.Double.Integers

/-!
# Membership against equality

`c IN (l₁, …, lₙ)` and `c = ANY(ARRAY[l₁, …, lₙ])` are read as one predicate, membership of the
column in the values of the literals (`parseWith_inList`, `parseWith_anyArray`), while `c = lᵢ`
compares the column with the operand the literal stands for.  Membership compares a text cell
with the text of every value, a boolean with the words `true` and `false` in any case, and a
number with the values that read as numbers; equality compares a cell only with an operand of its
own kind.

So membership passes exactly when one of the equalities does, or a literal of the other kind
matches the cell (`Literal.matchesAcross`): a number written without quotes whose text is a text
cell, a quoted text that spells a boolean cell, or a quoted text that reads as a number equal to a
numeric cell (`membership_passes_iff`).
-/

namespace DataQuality.Predicate

open Pattern

namespace Literal

/-- The cell an equality with the literal compares with: the text between the quotes, or the
double a number reads as. -/
def cell : Literal → Option Value
  | quoted q => some (.text q)
  | number s => (Decimal.readFloat? s).map .float

/-- Whether membership counts a cell as the literal where equality compares the cell with an
operand of another kind: a quoted text that spells a boolean cell in any case or reads as a
number equal to a numeric cell, or a number whose text is a text cell. -/
def matchesAcross (x : Value) : Literal → Bool
  | quoted q => match x with
    | .bool b => Text.equalsIgnoringAsciiCase q (if b then "true" else "false")
    | _ => match x.asFloat?, Decimal.readFloat? q with
      | some a, some y => y == a
      | _, _ => false
  | number s => x.asText? == some s

/-- Nothing matches a null cell. -/
@[simp] lemma matchesAcross_null (l : Literal) : l.matchesAcross .null = false := by
  cases l <;> rfl

end Literal

/-! ### Evaluating one cell -/

section Cells

variable {x : Value}

@[simp] lemma ofBool_eq_passed {b : Bool} : Outcome.ofBool b = .passed ↔ b = true := by
  cases b <;> simp [Outcome.ofBool]

/-- Whether membership counts a cell that is not null as one value of the list. -/
def amongHit (x : Value) (value : String) : Bool :=
  match x with
  | .text t => t == value
  | .bool b => Text.equalsIgnoringAsciiCase value (if b then "true" else "false")
  | _ => match x.asFloat?, Decimal.readFloat? value with
    | some a, some y => y == a
    | _, _ => false

/-- Membership of a cell that is not null, value by value. -/
lemma amongValues_eq_any (hx : x.isNull = false) (values : List String) :
    amongValues x values = .ofBool (values.any (amongHit x)) := by
  cases x with
  | null => exact Bool.noConfusion hx
  | text t =>
    simp only [amongValues, List.contains_eq_any_beq]
    rfl
  | bool b => rfl
  | int _ | float _ =>
    simp only [amongValues, Value.asFloat?]
    congr 1
    refine List.any_congr rfl fun value => ?_
    cases h : Decimal.readFloat? value <;> simp [amongHit, Value.asFloat?, h]

/-- Membership of a cell that is not null passes where some value of the list counts it. -/
lemma amongValues_eq_passed_iff (hx : x.isNull = false) (values : List String) :
    amongValues x values = .passed ↔ ∃ value ∈ values, amongHit x value = true := by
  rw [amongValues_eq_any hx, ofBool_eq_passed, List.any_eq_true]

/-- A text that reads evaluates as the predicate it reads as. -/
lemma map_ok_eq_ok {p : Predicate} {v : RowView} {o : Outcome} :
    (Except.ok p : Except ScanError Predicate).map (evaluate v) = .ok o ↔ evaluate v p = o :=
  ⟨fun h => Except.ok.inj h, fun h => congrArg Except.ok h⟩

/-- Membership of a column that holds a cell that is not null is membership of the cell. -/
lemma evaluate_among_of_get {v : RowView} {c : String} (hget : v.get? c = some x) (hx : x.isNull = false)
    (values : List String) : evaluate v (.among c values) = amongValues x values := by
  cases x <;> simp_all [evaluate, Value.isNull]

/-- A comparison of a column that holds a cell that is not null compares the cell with the cell
its operand stands for. -/
lemma evaluate_compare_of_get {v : RowView} {c : String} (hget : v.get? c = some x) (hx : x.isNull = false)
    (op : CompareOp) (rhs : Operand) :
    evaluate v (.compare c op rhs) = match operandValue v rhs with
      | some r => compareValues op x r
      | none => .unsupported := by
  cases x with
  | null => exact Bool.noConfusion hx
  | _ =>
    -- once the operand's value is fixed, both sides reduce to the same outcome
    cases h : operandValue v rhs <;> simp only [evaluate, hget, h]

/-- Equality with a text passes on that text only. -/
lemma compareValues_text (x : Value) (q : String) : compareValues .eq x (.text q) = .passed ↔ x = .text q := by
  cases x <;> simp [compareValues, Value.asFloat?, Value.asText?, Value.asBool?, CompareOp.holdsBy]

/-- Equality with a double passes on a number whose double equals it. -/
lemma compareValues_float (x : Value) (y : Float) :
    compareValues .eq x (.float y) = .passed ↔ ∃ a, x.asFloat? = some a ∧ (a == y) = true := by
  cases x <;> simp [compareValues, Value.asFloat?, Value.asText?, Value.asBool?, CompareOp.holdsFloat]

end Cells

/-! ### Numbers written without quotes spell no boolean -/

section Decimal

/-- Lowering the case of a character of a number gives no letter of `true` or `false`. -/
lemma toLower_of_isDecimalChar {ch : Char} (h : isDecimalChar ch = true) :
    ch.toLower ≠ 't' ∧ ch.toLower ≠ 'f' := by
  simp only [isDecimalChar, Bool.or_eq_true, beq_iff_eq] at h
  rcases h with ((((hd | rfl) | rfl) | rfl) | rfl) | rfl
  · rw [Decimal.toLower_of_isDigit hd]
    constructor <;> rintro rfl <;> exact absurd hd (by decide)
  all_goals decide

/-- A number written without quotes spells neither `true` nor `false`, in any case. -/
lemma IsDecimal.not_spells_bool {s : String} (hs : IsDecimal s) (b : Bool) :
    Text.equalsIgnoringAsciiCase s (if b then "true" else "false") = false := by
  have hne : ∀ ch ∈ s.toList, ch.toLower ≠ (if b then 't' else 'f') := fun ch hch => by
    have h := toLower_of_isDecimalChar (hs.chars ch hch)
    cases b
    · exact h.2
    · exact h.1
  rw [Text.equalsIgnoringAsciiCase, beq_eq_false_iff_ne]
  intro heq
  have hmem : (if b then 't' else 'f') ∈ s.toList.map Char.toLower := by
    rw [heq]
    cases b <;> decide
  obtain ⟨ch, hch, hlow⟩ := List.mem_map.mp hmem
  exact hne ch hch hlow

end Decimal

/-! ### One literal -/

section Literals

variable {close : Char} {l : Literal} {x : Value}

/-- The operand of an equality with a literal stands for the literal's cell. -/
lemma operandValue_literal (v : RowView) (hl : l.Fits close) : operandValue v (operand l.text) = l.cell := by
  cases l with
  | quoted q =>
    rw [Literal.text, operand_quoted]
    rfl
  | number s =>
    obtain ⟨y, hy⟩ := Option.isSome_iff_exists.mp hl.reads
    have hhead : ∀ ch ∈ s.toList.head?, ch ≠ '\'' :=
      fun ch hch => ne_of_isDecimalChar (hl.chars ch (List.mem_of_mem_head? hch)) rfl
    rw [Literal.text, operand_of_readFloat hhead hy, Literal.cell, hy]
    rfl

/-- One literal: membership counts a cell that is not null as the literal's value exactly when
equality with the literal passes on the cell or the literal matches the cell across kinds. -/
lemma amongHit_value_iff (hx : x.isNull = false) (hl : l.Fits close) :
    amongHit x l.value = true ↔
      (∃ r, l.cell = some r ∧ compareValues .eq x r = .passed) ∨ l.matchesAcross x = true := by
  cases l with
  | quoted q =>
    simp only [Literal.cell, Option.some.injEq, exists_eq_left', compareValues_text, Literal.value]
    cases x with
    | null => exact Bool.noConfusion hx
    | text t => simp [amongHit, Literal.matchesAcross, Value.asFloat?]
    | bool b => simp [amongHit, Literal.matchesAcross]
    | int _ | float _ => simp [amongHit, Literal.matchesAcross]
  | number s =>
    have hs : IsDecimal s := hl
    obtain ⟨y, hy⟩ := Option.isSome_iff_exists.mp hs.reads
    simp only [Literal.cell, hy, Option.map_some, Option.some.injEq, exists_eq_left', compareValues_float,
      Literal.value]
    cases x with
    | null => exact Bool.noConfusion hx
    | text t => simp [amongHit, Literal.matchesAcross, Value.asText?, Value.asFloat?]
    | bool b => simp [amongHit, Literal.matchesAcross, Value.asText?, Value.asFloat?, hs.not_spells_bool b]
    | int _ | float _ =>
      -- membership compares the literal's double with the cell's, equality the other way round
      simp [amongHit, Literal.matchesAcross, Value.asText?, Value.asFloat?, hy, Decimal.beq_comm_float y]

end Literals

/-! ### Membership and equality -/

section Equality

variable {P : Patterns} {word : Char → Bool} {c : String} {close : Char} {ls : List Literal}

lemma text_equality (c x : String) : c ++ " = " ++ x = c ++ " " ++ CompareOp.eq.symbol ++ " " ++ x := by
  apply String.toList_inj.mp
  simp [CompareOp.symbol]

/-- The equality `c = l` with a literal is read as the comparison of column `c` with its operand. -/
lemma parseWith_equality (hw : WordClass word) (hf : P.Follow word) (hc : IsName word c.toList) {l : Literal}
    (hl : l.Fits close) :
    parseWith P (c ++ " = " ++ l.text) = .ok (.compare (Text.toLower c) .eq (operand l.text)) := by
  rw [text_equality, parseWith_comparison hw hf hc .eq hl.isOperand]

/-- On a row where the column holds a cell that is not null, membership passes exactly when an
equality with one of the literals passes or one of them matches the cell across kinds. -/
lemma among_passes_iff (hw : WordClass word) (hf : P.Follow word) (hc : IsName word c.toList)
    (v : RowView) (hfits : ∀ l ∈ ls, l.Fits close) :
    evaluate v (.among (Text.toLower c) (ls.map Literal.value)) = .passed ↔
      (∃ l ∈ ls, (parseWith P (c ++ " = " ++ l.text)).map (evaluate v) = .ok .passed) ∨
        ∃ x, v.get? (Text.toLower c) = some x ∧ ∃ l ∈ ls, l.matchesAcross x = true := by
  have heq : ∀ l ∈ ls, (parseWith P (c ++ " = " ++ l.text)).map (evaluate v) = .ok .passed ↔
      evaluate v (.compare (Text.toLower c) .eq (operand l.text)) = .passed := fun l hl => by
    rw [parseWith_equality hw hf hc (hfits l hl), map_ok_eq_ok]
  rw [exists_congr fun l => and_congr_right fun hl => heq l hl]
  cases hget : v.get? (Text.toLower c) with
  | none => simp [evaluate, hget]
  | some x =>
    cases hnull : x.isNull
    · -- a cell that is not null: membership and each equality read it
      have hcmp : ∀ l ∈ ls, evaluate v (.compare (Text.toLower c) .eq (operand l.text)) = .passed ↔
          ∃ r, l.cell = some r ∧ compareValues .eq x r = .passed := fun l hl => by
        rw [evaluate_compare_of_get hget hnull, operandValue_literal v (hfits l hl)]
        cases l.cell <;> simp
      rw [evaluate_among_of_get hget hnull, amongValues_eq_passed_iff hnull, exists_congr fun l => and_congr_right fun hl => hcmp l hl]
      simp only [List.mem_map, Option.some.injEq, exists_eq_left']
      constructor
      · rintro ⟨_, ⟨l, hl, rfl⟩, hhit⟩
        rcases (amongHit_value_iff hnull (hfits l hl)).mp hhit with h | h
        · exact .inl ⟨l, hl, h⟩
        · exact .inr ⟨l, hl, h⟩
      · rintro (⟨l, hl, h⟩ | ⟨l, hl, h⟩)
        · exact ⟨l.value, ⟨l, hl, rfl⟩, (amongHit_value_iff hnull (hfits l hl)).mpr (.inl h)⟩
        · exact ⟨l.value, ⟨l, hl, rfl⟩, (amongHit_value_iff hnull (hfits l hl)).mpr (.inr h)⟩
    · -- a null cell: neither membership nor equality passes, and nothing matches it
      have hx : x = .null := by cases x <;> simp_all [Value.isNull]
      subst hx
      simp [evaluate, hget]

/-- Membership agrees with equality up to matches across kinds: on every row, `c IN (l₁, …, lₙ)`
and `c = ANY(ARRAY[l₁, …, lₙ])`, their literals quoted texts with no quote, no `::` and no closing
bracket of the form, or numbers written without quotes, pass exactly when some `c = lᵢ` passes
or a literal of the other kind matches the column's cell. -/
theorem membership_passes_iff (hw : WordClass word) (hf : P.Follow word) (hc : IsName word c.toList)
    (v : RowView) (hne : ls ≠ []) :
    ((∀ l ∈ ls, l.Fits ')') →
      ((parseWith P (c ++ " IN (" ++ listText ls ++ ")")).map (evaluate v) = .ok .passed ↔
        (∃ l ∈ ls, (parseWith P (c ++ " = " ++ l.text)).map (evaluate v) = .ok .passed) ∨
          ∃ x, v.get? (Text.toLower c) = some x ∧ ∃ l ∈ ls, l.matchesAcross x = true)) ∧
    ((∀ l ∈ ls, l.Fits ']') →
      ((parseWith P (c ++ " = ANY(ARRAY[" ++ listText ls ++ "])")).map (evaluate v) = .ok .passed ↔
        (∃ l ∈ ls, (parseWith P (c ++ " = " ++ l.text)).map (evaluate v) = .ok .passed) ∨
          ∃ x, v.get? (Text.toLower c) = some x ∧ ∃ l ∈ ls, l.matchesAcross x = true)) := by
  refine ⟨fun hfits => ?_, fun hfits => ?_⟩
  · rw [parseWith_inList hw hf hc hne hfits, map_ok_eq_ok]
    exact among_passes_iff hw hf hc v hfits
  · rw [parseWith_anyArray hw hf hc hne hfits, map_ok_eq_ok]
    exact among_passes_iff hw hf hc v hfits

theorem membership_passes_iff_count :
    ((∀ l ∈ [Literal.number "5"], l.Fits ')') →
      ((parseWith (Patterns.reference asciiWord) ("n" ++ " IN (" ++ listText [.number "5"] ++ ")")).map
          (evaluate ⟨RowView.index ["n"], [.int 5]⟩) = .ok .passed ↔
        (∃ l ∈ [Literal.number "5"], (parseWith (Patterns.reference asciiWord) ("n" ++ " = " ++ l.text)).map
          (evaluate ⟨RowView.index ["n"], [.int 5]⟩) = .ok .passed) ∨
          ∃ x, RowView.get? ⟨RowView.index ["n"], [.int 5]⟩ (Text.toLower "n") = some x ∧
            ∃ l ∈ [Literal.number "5"], l.matchesAcross x = true)) ∧
    ((∀ l ∈ [Literal.number "5"], l.Fits ']') →
      ((parseWith (Patterns.reference asciiWord) ("n" ++ " = ANY(ARRAY[" ++ listText [.number "5"] ++ "])")).map
          (evaluate ⟨RowView.index ["n"], [.int 5]⟩) = .ok .passed ↔
        (∃ l ∈ [Literal.number "5"], (parseWith (Patterns.reference asciiWord) ("n" ++ " = " ++ l.text)).map
          (evaluate ⟨RowView.index ["n"], [.int 5]⟩) = .ok .passed) ∨
          ∃ x, RowView.get? ⟨RowView.index ["n"], [.int 5]⟩ (Text.toLower "n") = some x ∧
            ∃ l ∈ [Literal.number "5"], l.matchesAcross x = true)) :=
  membership_passes_iff wordClass_asciiWord (Patterns.reference_follow asciiWord) ⟨by simp, by simp; decide⟩ _
    (List.cons_ne_nil _ _)

/-- The one column of a row of one cell holds the cell. -/
lemma get?_index_single (name : String) (x : Value) :
    RowView.get? ⟨RowView.index [name], [x]⟩ (Text.toLower name) = some x := by
  simp [RowView.get?, RowView.index]

/-- A quoted number is a member of a numeric column without being equal to it: on the integer
five, `n IN ('5')` passes, while `n = '5'` compares a number with a text. -/
theorem membership_counts_quoted_number :
    (parseWith (Patterns.reference asciiWord) "n IN ('5')").map (evaluate ⟨RowView.index ["n"], [.int 5]⟩) =
        .ok .passed ∧
      (parseWith (Patterns.reference asciiWord) "n = '5'").map (evaluate ⟨RowView.index ["n"], [.int 5]⟩) =
        .ok .unsupported := by
  have hc : IsName asciiWord "n".toList := ⟨by simp, by simp; decide⟩
  have hfits : ∀ l ∈ [Literal.quoted "5"], l.Fits ')' := by
    simp only [List.mem_singleton, forall_eq]
    refine ⟨by simp, fun u w h => ?_⟩
    have hlen := congrArg List.length h
    simp at hlen
    omega
  have hget := get?_index_single "n" (.int 5)
  have hread : Decimal.readFloat? "5" = some (Decimal.ofInt 5) :=
    Decimal.readFloat?_toString (n := 5) (Nat.lt_of_lt_of_le (show 5 < 10 ^ 1 by norm_num)
      (Nat.pow_le_pow_right (by norm_num) (by norm_num)))
  have hin : "n IN ('5')" = "n" ++ " IN (" ++ listText [.quoted "5"] ++ ")" := by
    apply String.toList_inj.mp
    simp [listText, Literal.text]
  have heq : "n = '5'" = "n" ++ " = " ++ (Literal.quoted "5").text := by
    apply String.toList_inj.mp
    simp [Literal.text]
  refine ⟨?_, ?_⟩
  · -- the value `5` of the list reads as the double of five
    rw [hin, parseWith_inList wordClass_asciiWord (Patterns.reference_follow asciiWord) hc (List.cons_ne_nil _ _) hfits,
      map_ok_eq_ok, evaluate_among_of_get hget rfl, amongValues_eq_passed_iff rfl]
    refine ⟨"5", by simp [Literal.value], ?_⟩
    simp only [amongHit, Value.asFloat?, hread]
    exact (Decimal.ofInt_beq_ofInt_iff (by norm_num) (by norm_num)).mpr rfl
  · rw [heq, parseWith_equality wordClass_asciiWord (Patterns.reference_follow asciiWord) hc
      (hfits _ List.mem_cons_self), Literal.text, operand_quoted, map_ok_eq_ok, evaluate_compare_of_get hget rfl]
    rfl

end Equality

end DataQuality.Predicate
