import Mathlib
import DataQuality.Proofs.Text.Lower
import DataQuality.Proofs.Scan.Resolve
import DataQuality.Proofs.Predicate.Reading

/-!
# The columns a predicate reads

`Predicate.columns` lists the columns a predicate reads, apart from `Predicate.evaluate`, which
reads them.  The list covers every look-up of the evaluation: two rows whose look-ups agree on
the listed columns get the same outcome (`evaluate_congr`).  A predicate read from text names its
columns in lower case, whatever engine answers for the patterns of the language
(`columns_lower_of_parseWith`), as the index of a table keys its columns.  So once
`compilePredicate` has found every listed column among the names of a table, each look-up of
the evaluation on a row of the table finds a cell (`get?_of_compilePredicate`).
-/

namespace DataQuality

namespace Predicate

/-! ### The listed columns -/

@[simp]
theorem columns_all (parts : List Predicate) : (all parts).columns = columnsOfAll parts := by
  simp [columns]

@[simp]
theorem columns_nullOr (c : String) (rest : Predicate) :
    (nullOr c rest).columns = c :: rest.columns := by
  simp [columns]

theorem mem_columnsOfAll {c : String} {parts : List Predicate} :
    c ∈ columnsOfAll parts ↔ ∃ p ∈ parts, c ∈ p.columns := by
  induction parts with
  | nil => simp [columnsOfAll]
  | cons p rest ih => simp [columnsOfAll, ih]

/-! ### The evaluation reads only the listed columns -/

section Congr

variable {v w : RowView}

theorem operandValue_congr {rhs : Operand}
    (h : ∀ other, rhs = .column other → v.get? other = w.get? other) :
    operandValue v rhs = operandValue w rhs := by
  cases rhs with
  | column other => simp [operandValue, h other rfl]
  | number x => rfl
  | text s => rfl
  | bool b => rfl

mutual

/-- Two rows whose look-ups agree on the columns a predicate lists get the same outcome. -/
theorem evaluate_congr : ∀ (p : Predicate), (∀ c ∈ p.columns, v.get? c = w.get? c) →
    p.evaluate v = p.evaluate w
  | .all parts, h => by
    rw [evaluate, evaluate, evaluateAll_congr parts fun p hp c hc =>
      h c ((columns_all parts).symm ▸ mem_columnsOfAll.mpr ⟨p, hp, hc⟩)]
  | .nullOr c rest, h => by
    have hc := h c (by simp)
    have hrest := evaluate_congr rest fun d hd => h d (by simp [hd])
    simp only [evaluate, hc, hrest]
  | .isNull c negated, h => by
    simp only [evaluate, h c (by simp [columns])]
  | .among c values, h => by
    simp only [evaluate, h c (by simp [columns])]
  | .between c lo hi, h => by
    simp only [evaluate, h c (by simp [columns])]
  | .compare c op rhs, h => by
    have hc := h c (by cases rhs <;> simp [columns])
    have hrhs := @operandValue_congr v w rhs fun other hother =>
      h other (by subst hother; simp [columns])
    simp only [evaluate, hc, hrhs]

/-- Two rows whose look-ups agree on the columns of the parts of a conjunction get the same
outcome for it. -/
theorem evaluateAll_congr : ∀ (parts : List Predicate),
    (∀ p ∈ parts, ∀ c ∈ p.columns, v.get? c = w.get? c) →
    evaluateAll v parts = evaluateAll w parts
  | [], _ => rfl
  | p :: rest, h => by
    have hp := evaluate_congr p (h p List.mem_cons_self)
    have hrest := evaluateAll_congr rest fun q hq => h q (List.mem_cons_of_mem p hq)
    simp only [evaluateAll, hp, hrest]

end

end Congr

/-! ### Names in lower case -/

section Lower

variable {P : Patterns} {expr c : String}

theorem nullOrForm_lower {rest : String} (h : nullOrForm P expr = some (c, rest)) :
    Text.toLower c = c := by
  simp only [nullOrForm, Option.bind_eq_bind, Option.bind_eq_some_iff, Option.pure_def,
    Option.some.injEq, Prod.mk.injEq] at h
  obtain ⟨_, _, raw, _, _, _, rfl, -⟩ := h
  exact Text.toLower_toLower raw

theorem isNullForm_lower {negated : Bool} (h : isNullForm P expr = some (c, negated)) :
    Text.toLower c = c := by
  simp only [isNullForm, Option.bind_eq_bind, Option.bind_eq_some_iff, Option.pure_def,
    Option.some.injEq, Prod.mk.injEq] at h
  obtain ⟨_, _, raw, _, rfl, -⟩ := h
  exact Text.toLower_toLower raw

theorem listForm_lower {groups : String → Option (Nat → Option String)} {values : List String}
    (h : listForm groups expr = some (c, values)) : Text.toLower c = c := by
  simp only [listForm, Option.bind_eq_bind, Option.bind_eq_some_iff, Option.pure_def,
    Option.some.injEq, Prod.mk.injEq] at h
  obtain ⟨_, _, raw, _, _, _, rfl, -⟩ := h
  exact Text.toLower_toLower raw

theorem betweenForm_lower {lo hi : String} (h : betweenForm P expr = some (c, lo, hi)) :
    Text.toLower c = c := by
  simp only [betweenForm, Option.bind_eq_bind, Option.bind_eq_some_iff, Option.pure_def,
    Option.some.injEq, Prod.mk.injEq] at h
  obtain ⟨_, _, raw, _, _, _, _, _, rfl, -⟩ := h
  exact Text.toLower_toLower raw

theorem comparisonForm_lower {op rhs : String} (h : comparisonForm P expr = some (c, op, rhs)) :
    Text.toLower c = c := by
  simp only [comparisonForm, Option.bind_eq_bind, Option.bind_eq_some_iff, Option.pure_def,
    Option.some.injEq, Prod.mk.injEq] at h
  obtain ⟨_, _, raw, _, _, _, _, _, rfl, -⟩ := h
  exact Text.toLower_toLower raw

/-- A right side read as a column names it in lower case. -/
theorem operand_column_lower {rhs : String} (h : operand rhs = .column c) :
    Text.toLower c = c := by
  unfold operand at h
  dsimp only at h
  -- a quoted text, a number and the two booleans are no columns
  split at h
  · cases h
  · split at h
    · cases h
    · split at h
      · cases h
      · split at h
        · cases h
        · cases h
          exact Text.toLower_toLower rhs

/-- Each value a traversal returns is what the function gives for some item. -/
theorem exists_of_mapM_eq_some {α β : Type} {f : α → Option β} :
    ∀ {xs : List α} {ys : List β}, xs.mapM f = some ys → ∀ y ∈ ys, ∃ x ∈ xs, f x = some y
  | [], ys, h, y, hy => by
    simp only [List.mapM_nil, Option.pure_def, Option.some.injEq] at h
    simp [← h] at hy
  | x :: xs, ys, h, y, hy => by
    simp only [List.mapM_cons, Option.bind_eq_bind, Option.bind_eq_some_iff, Option.pure_def,
      Option.some.injEq] at h
    obtain ⟨b, hb, bs, hbs, rfl⟩ := h
    rcases List.mem_cons.mp hy with rfl | hy
    · exact ⟨x, List.mem_cons_self, hb⟩
    · obtain ⟨x', hx', hfx'⟩ := exists_of_mapM_eq_some hbs y hy
      exact ⟨x', List.mem_cons_of_mem x hx', hfx'⟩

/-- Every column of a predicate that is read, with any fuel, is named in lower case. -/
theorem columns_lower_of_read {P : Patterns} : ∀ {fuel : Nat} {text : String} {p : Predicate},
    read P fuel text = some p → ∀ c ∈ p.columns, Text.toLower c = c
  | 0, _, _, h => by simp [read] at h
  | fuel + 1, text, p, h => by
    rw [read] at h
    -- the forms in the order they are tried: each goal below is one form that fits
    split at h
    · -- a conjunction, its parts read with less fuel
      obtain ⟨ps, hps, rfl⟩ := Option.map_eq_some_iff.mp h
      intro c hc
      obtain ⟨q, hq, hcq⟩ := mem_columnsOfAll.mp ((columns_all ps) ▸ hc)
      obtain ⟨part, -, hpart⟩ := exists_of_mapM_eq_some hps q hq
      exact columns_lower_of_read hpart c hcq
    split at h
    · -- `c IS NULL OR rest`, the rest read with less fuel
      rename_i c rest hform
      obtain ⟨q, hq, rfl⟩ := Option.map_eq_some_iff.mp h
      intro d hd
      rcases List.mem_cons.mp ((columns_nullOr c q) ▸ hd) with rfl | hd
      · exact nullOrForm_lower hform
      · exact columns_lower_of_read hq d hd
    split at h
    · rename_i c negated hform
      cases h
      simpa [columns] using isNullForm_lower hform
    split at h
    · rename_i c values hform
      cases h
      simpa [columns] using listForm_lower hform
    split at h
    · rename_i c values hform
      cases h
      simpa [columns] using listForm_lower hform
    split at h
    · rename_i c lo hi hform
      simp only [Option.bind_eq_bind, Option.bind_eq_some_iff, Option.pure_def,
        Option.some.injEq] at h
      obtain ⟨_, _, _, _, rfl⟩ := h
      simpa [columns] using betweenForm_lower hform
    split at h
    · rename_i c op rhs hform
      simp only [Option.bind_eq_bind, Option.bind_eq_some_iff, Option.pure_def,
        Option.some.injEq] at h
      obtain ⟨_, _, rfl⟩ := h
      intro d hd
      -- the column compared, and the right side when it names a column
      cases hrhs : operand rhs with
      | column other =>
        simp only [columns, hrhs, List.mem_cons, List.not_mem_nil, or_false] at hd
        rcases hd with rfl | rfl
        · exact comparisonForm_lower hform
        · exact operand_column_lower hrhs
      | number x =>
        simp only [columns, hrhs, List.mem_singleton] at hd
        exact hd ▸ comparisonForm_lower hform
      | text t =>
        simp only [columns, hrhs, List.mem_singleton] at hd
        exact hd ▸ comparisonForm_lower hform
      | bool b =>
        simp only [columns, hrhs, List.mem_singleton] at hd
        exact hd ▸ comparisonForm_lower hform
    cases h

/-- Whatever engine answers for the patterns of the language, every column of a predicate read
from text is named in lower case. -/
theorem columns_lower_of_parseWith {P : Patterns} {s : String} {p : Predicate}
    (h : parseWith P s = .ok p) : ∀ c ∈ p.columns, Text.toLower c = c := by
  unfold parseWith at h
  dsimp only at h
  split at h
  · cases h
  split at h
  · rename_i q hq
    cases h
    exact columns_lower_of_read hq
  · cases h

end Lower

/-! ### Look-ups on the rows of a table -/

/-- A predicate that compiles against an index was read from its text, and every column it lists
is a key of the index. -/
theorem mem_index_of_compilePredicate {index : List (String × Nat)} {s : String} {p : Predicate}
    (h : compilePredicate index s = .ok p) :
    parse s = .ok p ∧ ∀ c ∈ p.columns, index.any (·.1 == c) = true := by
  unfold compilePredicate at h
  cases hp : parse s with
  | error e => simp [hp, bind, Except.bind] at h
  | ok q =>
    simp only [hp, bind, Except.bind] at h
    split at h
    · cases h
    · rename_i hnone
      cases h
      refine ⟨rfl, fun c hc => ?_⟩
      simpa using List.find?_eq_none.mp hnone c hc

end Predicate

/-- A row as wide as the names finds a cell under every key of their index. -/
theorem RowView.get?_index_of_any {names : List String} {row : Row} {c : String}
    (hrow : row.length = names.length) (hc : (RowView.index names).any (·.1 == c) = true) :
    ∃ x, RowView.get? ⟨RowView.index names, row⟩ c = some x := by
  obtain ⟨e, he, hec⟩ := List.any_eq_true.mp hc
  -- the search from the last entry finds an entry of the key, whose position is a column's
  have hsome : ((RowView.index names).reverse.find? (·.1 == c)).isSome :=
    List.find?_isSome.mpr ⟨e, List.mem_reverse.mpr he, hec⟩
  obtain ⟨⟨k, i⟩, hfind⟩ := Option.isSome_iff_exists.mp hsome
  obtain ⟨hi, -⟩ := Schema.mem_index.mp (List.mem_reverse.mp (List.mem_of_find?_eq_some hfind))
  have hcell : i < row.length := hrow ▸ hi
  refine ⟨row[i], ?_⟩
  simp only [RowView.get?, hfind]
  exact List.getElem?_eq_getElem hcell

/-- Every row of a table that was built is as wide as its schema. -/
theorem Table.length_of_mem_rows {schema : Schema} {rows : List Row} {T : Table}
    (h : Table.make schema rows = .ok T) {row : Row} (hrow : row ∈ T.rows) :
    row.length = T.schema.names.length := by
  unfold Table.make at h
  cases hv : schema.validate with
  | error e => simp [hv, bind, Except.bind] at h
  | ok u =>
    simp only [hv, bind, Except.bind] at h
    split at h
    · cases h
    · rename_i hnone
      cases h
      -- the row was checked under its number
      obtain ⟨i, hi⟩ := List.mem_iff_getElem?.mp hrow
      have hcheck := List.findSome?_eq_none_iff.mp hnone (row, 1 + i)
        (List.mk_add_mem_zipIdx_iff_getElem?.mpr hi)
      unfold Table.rowProblem at hcheck
      split at hcheck
      · cases hcheck
      · rename_i hlen
        simpa [Schema.names] using not_not.mp hlen

namespace Predicate

/-- The columns of a predicate read from text cover its look-ups: they are named in lower case,
the outcome depends on the look-ups of these columns alone, and once `compilePredicate` has found
them among the names of a table, each of them finds a cell in every row of the table. -/
theorem columns_cover_lookups {P : Patterns} {s : String} {p : Predicate}
    (hp : parseWith P s = .ok p) :
    (∀ c ∈ p.columns, Text.toLower c = c) ∧
    (∀ v w : RowView, (∀ c ∈ p.columns, v.get? c = w.get? c) → p.evaluate v = p.evaluate w) ∧
    ∀ {schema : Schema} {rows : List Row} {T : Table}, Table.make schema rows = .ok T →
      compilePredicate (RowView.index T.schema.names) s = .ok p →
      ∀ row ∈ T.rows, ∀ c ∈ p.columns,
        ∃ x, RowView.get? ⟨RowView.index T.schema.names, row⟩ c = some x :=
  ⟨columns_lower_of_parseWith hp, fun _ _ => evaluate_congr p,
    fun hT hc _ hrow c hcol => RowView.get?_index_of_any (Table.length_of_mem_rows hT hrow)
      ((mem_index_of_compilePredicate hc).2 c hcol)⟩

/-- `A = b` under the documented patterns compares the column `a` with the column `b`. -/
theorem columns_cover_lookups_equality :
    parseWith (Patterns.reference asciiWord) ("A" ++ " " ++ CompareOp.eq.symbol ++ " " ++ "b") =
        .ok (.compare (Text.toLower "A") .eq (operand "b")) ∧
      (∀ c ∈ (compare (Text.toLower "A") .eq (operand "b")).columns, Text.toLower c = c) ∧
      (∀ v w : RowView, (∀ c ∈ (compare (Text.toLower "A") .eq (operand "b")).columns,
          v.get? c = w.get? c) →
        (compare (Text.toLower "A") .eq (operand "b")).evaluate v =
          (compare (Text.toLower "A") .eq (operand "b")).evaluate w) ∧
      ∀ {schema : Schema} {rows : List Row} {T : Table}, Table.make schema rows = .ok T →
        compilePredicate (RowView.index T.schema.names) ("A" ++ " " ++ CompareOp.eq.symbol ++ " " ++ "b") =
          .ok (compare (Text.toLower "A") .eq (operand "b")) →
        ∀ row ∈ T.rows, ∀ c ∈ (compare (Text.toLower "A") .eq (operand "b")).columns,
          ∃ x, RowView.get? ⟨RowView.index T.schema.names, row⟩ c = some x := by
  have hc : IsName asciiWord "A".toList := ⟨by simp, by simp; decide⟩
  have hx : IsOperand "b".toList := .token ⟨by simp, by simp; decide, by simp⟩ (by simp)
  have hp := parseWith_comparison wordClass_asciiWord (Patterns.reference_follow asciiWord) hc .eq hx
  exact ⟨hp, columns_cover_lookups hp⟩

end Predicate

end DataQuality
