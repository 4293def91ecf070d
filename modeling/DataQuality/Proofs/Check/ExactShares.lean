import Mathlib
import DataQuality.Proofs.Scan.Counters
import DataQuality.Proofs.Check.Evaluation
import DataQuality.Suite.Spec

/-!
# Exact shares catch one bad row

Completeness, compliance and pattern match read the share of rows that pass a test off a ratio
count, and uniqueness reads the share of rows holding a unique key off a frequency table; each is
the quotient of the doubles of two counts.  The built-in exact checks (complete, unique, primary
key, non-negative, positive, contained in a list or a range) assert that such a share is exactly
one.

Up to `2 ^ 53` rows both counts are exact doubles, and a share short of one is at most
`1 - 2 ^ -53`, which is itself a double (`Decimal.ofInt_div_ofInt_beq_one_iff`).  So over an
aggregate that scans and merges built from at most `2 ^ 53` rows the share is one exactly when no
row breaks the rule (`Analyzer.valueFrom_isOne_iff`), and every constraint the built-in exact
checks add fails on a single bad row (`exact_checks_catch_one_bad_row`).

Past `2 ^ 53` rows the counts themselves round to even neighbours: `2 ^ 53` complete rows among
`2 ^ 53 + 1`, an aggregate that merges reach by doubling, have a completeness of exactly one
(`completeness_one_of_rounded_rows`).
-/

namespace DataQuality

open Decimal

/-- The statistics whose metric is a share that is one exactly when no row breaks their rule:
the shares of rows that pass a test, and uniqueness. -/
def Statistic.IsExactShare : Statistic → Prop
  | .completeness _ | .compliance _ _ | .patternMatch _ _ | .uniqueness _ => True
  | _ => False

namespace Aggregate

/-- Some row breaks the rule an aggregate counts: a ratio count matched fewer rows than it saw,
or a frequency table has fewer unique keys than rows. -/
def Violated : Aggregate → Prop
  | ratio r => r.hits.toNat < r.total.toNat
  | frequencies f => f.unique < f.rows.toNat
  | _ => False

/-- An aggregate of a share of rows that scans and merges built is a ratio count. -/
lemma Accumulates.exists_ratio {c : Computation} {n : Nat} {s : Aggregate} (h : Accumulates c n s)
    (hc : Aggregate.empty c = .ratio {}) : ∃ r, s = .ratio r := by
  have hconf := h.conforms
  rw [hc] at hconf
  cases s <;> simp_all [Conforms]

/-- An aggregate of a frequency computation that scans and merges built is a frequency table. -/
lemma Accumulates.exists_frequencies {cs : List String} {n : Nat} {s : Aggregate}
    (h : Accumulates (.frequencies cs) n s) : ∃ f, s = .frequencies f := by
  have hconf := h.conforms
  cases s <;> simp_all [Conforms, Aggregate.empty]

end Aggregate

open Aggregate

/-- `isOne` holds of a double exactly when it equals one. -/
@[simp] lemma Assertion.holds_isOne (x : Float) : Assertion.isOne.holds x = .ok (x == 1) := rfl

/-- The share of a count in a positive count at least as large and at most `2 ^ 53` satisfies
`isOne` exactly when the counts agree. -/
lemma isOne_share_iff {a b : Nat} (hab : a ≤ b) (hb : 0 < b) (hb' : b ≤ 2 ^ 53) :
    Assertion.isOne.holds (ofInt a / ofInt b) = .ok true ↔ ¬ a < b := by
  rw [Assertion.holds_isOne, Except.ok.injEq, ofInt_div_ofInt_beq_one_iff hab hb hb']
  omega

/-- The metric of an exact share over an aggregate that scans and merges built from between one
and `2 ^ 53` rows is a double, and it is one exactly when no row breaks the share's rule. -/
theorem Analyzer.valueFrom_isOne_iff {a : Analyzer} (hs : a.statistic.IsExactShare) {n : Nat}
    {s : Aggregate} (h : Accumulates a.descriptor.computation n s) (h1 : 1 ≤ n)
    (hn : n ≤ 2 ^ 53) :
    ∃ x, a.valueFrom s = .ok (.double x) ∧ (Assertion.isOne.holds x = .ok true ↔ ¬ s.Violated) := by
  have hcount := h.counted (by omega)
  obtain ⟨statistic, filter⟩ := a
  cases statistic <;> simp only [Statistic.IsExactShare] at hs
  -- a share of rows: the quotient of the matches by the rows of a ratio count
  case completeness | compliance | patternMatch =>
    obtain ⟨r, rfl⟩ := h.exists_ratio rfl
    have hr : r.Counted n := hcount
    have hpos : 0 < r.total := by
      rw [UInt64.lt_iff_toNat_lt, hr.total]
      exact h1
    refine ⟨ofInt r.hits.toNat / ofInt r.total.toNat, ?_, ?_⟩
    · simp [Analyzer.valueFrom, RatioCount.ratio?, hpos, countToFloat]
    · have ht := hr.total
      rw [isOne_share_iff hr.hits_le (by omega) (by omega)]
      rfl
  -- uniqueness: the unique keys over the rows of a frequency table
  case uniqueness =>
    obtain ⟨f, rfl⟩ := h.exists_frequencies
    have hf : f.Counted n := hcount
    have hunique : f.unique ≤ f.rows.toNat :=
      (f.unique_le_distinct.trans hf.distinct_le).trans hf.rows.ge
    refine ⟨ofInt f.unique / ofInt f.rows.toNat, ?_, ?_⟩
    · simp [Analyzer.valueFrom, fraction, hf.rows, show n ≠ 0 by omega]
    · have hrows := hf.rows
      rw [isOne_share_iff hunique (by omega) (by omega)]
      rfl

/-! ## The built-in exact checks -/

/-- The specifications of the built-in exact checks: each asserts that shares are exactly one. -/
def ConstraintSpec.IsExact : ConstraintSpec → Prop
  | .isComplete _ | .isUnique _ | .isPrimaryKey _ | .isNonNegative _ | .isPositive _
  | .isContainedIn _ _ | .isContainedInRange _ _ _ => True
  | _ => False

@[simp] lemma Check.constraints_assertOn (c : Check) (a : Analyzer) (assertion : Assertion) :
    (c.assertOn a assertion).constraints = c.constraints ++ [.on a assertion] := rfl

/-- Asserting one condition on each of a list of analyzers adds one constraint per analyzer, in
order. -/
lemma Check.constraints_foldl_assertOn (f : String → Analyzer) (assertion : Assertion)
    (cols : List String) (c : Check) :
    (cols.foldl (fun c col => c.assertOn (f col) assertion) c).constraints =
      c.constraints ++ cols.map fun col => Constraint.on (f col) assertion := by
  induction cols generalizing c with
  | nil => simp
  | cons col cols ih =>
    rw [List.foldl_cons, ih]
    simp

/-- The built-in exact checks add `isOne` constraints on exact shares, at least one. -/
lemma ConstraintSpec.apply_of_isExact {spec : ConstraintSpec} (hs : spec.IsExact) (c : Check) :
    ∃ shares : List Analyzer, shares ≠ [] ∧ (∀ a ∈ shares, a.statistic.IsExactShare) ∧
      (ConstraintSpec.apply c spec).constraints = c.constraints ++ shares.map (Constraint.on · .isOne) := by
  cases spec <;> simp only [ConstraintSpec.IsExact] at hs
  case isPrimaryKey cols =>
    -- one completeness per key column, then the uniqueness of the key
    refine ⟨cols.map (fun col => Check.plainAnalyzer (.completeness col)) ++
      [Check.plainAnalyzer (.uniqueness cols)], by simp, ?_, ?_⟩
    · intro a ha
      simp only [List.mem_append, List.mem_map, List.mem_singleton] at ha
      rcases ha with ⟨col, -, rfl⟩ | rfl <;> trivial
    · rw [ConstraintSpec.apply, Check.isPrimaryKey, Check.constraints_assertOn,
        Check.constraints_foldl_assertOn]
      simp
  -- every other exact check adds one constraint on one share
  all_goals exact ⟨[_], List.cons_ne_nil _ _, by simp [Statistic.IsExactShare, Check.plainAnalyzer], rfl⟩

/-- An `isOne` constraint on an exact share, judged on the metric read off an aggregate that scans
and merges built from between one and `2 ^ 53` rows, fails exactly when some row breaks the
share's rule. -/
lemma Constraint.evaluate_on_isOne {a : Analyzer} (hs : a.statistic.IsExactShare)
    {M : List (Analyzer × Metric)} {n : Nat} {s : Aggregate}
    (hM : Ordered.get? a M = some (a.computeMetric s)) (h : Accumulates a.descriptor.computation n s)
    (h1 : 1 ≤ n) (hn : n ≤ 2 ^ 53) :
    ((Constraint.on a .isOne).evaluate M).status = .failure ↔ s.Violated := by
  obtain ⟨x, hx, hone⟩ := Analyzer.valueFrom_isOne_iff hs h h1 hn
  have ha : availableValue? M a = some (.double x) := by
    simp [availableValue?, hM, Analyzer.computeMetric, Analyzer.metric, hx, Except.toOption]
  obtain ⟨-, -, hfail⟩ := Constraint.evaluate_of_projected
    (show (Constraint.on a .isOne).analyzers = [a] from rfl) (fun _ hb => absurd hb List.not_mem_nil) ha rfl
  rw [hfail]
  exact not_iff_comm.mp hone.symm

/-- Exact checks catch one bad row among up to `2 ^ 53`: the share an exact analyzer reads off an
aggregate that scans and merges built from between one and `2 ^ 53` rows is one exactly when no
row breaks its rule, and every constraint the built-in exact checks add, judged on such a share,
fails exactly when some row does. -/
theorem exact_checks_catch_one_bad_row :
    (∀ (a : Analyzer) (n : Nat) (s : Aggregate), a.statistic.IsExactShare →
      Accumulates a.descriptor.computation n s → 1 ≤ n → n ≤ 2 ^ 53 →
      ∃ x, a.valueFrom s = .ok (.double x) ∧ (Assertion.isOne.holds x = .ok true ↔ ¬ s.Violated)) ∧
    ∀ (spec : ConstraintSpec) (c : Check), spec.IsExact →
      ∃ added : List Constraint, added ≠ [] ∧ (ConstraintSpec.apply c spec).constraints = c.constraints ++ added ∧
        ∀ k ∈ added, ∃ a, k.analyzers = [a] ∧
          ∀ (M : List (Analyzer × Metric)) (n : Nat) (s : Aggregate),
            Ordered.get? a M = some (a.computeMetric s) → Accumulates a.descriptor.computation n s →
            1 ≤ n → n ≤ 2 ^ 53 → ((k.evaluate M).status = .failure ↔ s.Violated) := by
  refine ⟨fun a n s hs h h1 hn => Analyzer.valueFrom_isOne_iff hs h h1 hn, ?_⟩
  intro spec c hspec
  obtain ⟨shares, hne, hexact, happly⟩ := ConstraintSpec.apply_of_isExact hspec c
  refine ⟨shares.map (Constraint.on · .isOne), by simpa using hne, happly, ?_⟩
  intro k hk
  obtain ⟨a, ha, rfl⟩ := List.mem_map.mp hk
  exact ⟨a, rfl, fun M n s hM h h1 hn => Constraint.evaluate_on_isOne (hexact a ha) hM h h1 hn⟩

/-! ## One bad row, at small and at large scale -/

/-- The completeness count of a column `n` probes the first position of a table of that one
column. -/
lemma probe_completeness_n :
    (Computation.nonNullCount "n").probe (RowView.index ["n"]) = .ok (.present 0) := by
  have hv : (⟨[{ name := "n", columnType := .integral }]⟩ : Schema).validate = .ok () := rfl
  have hres : resolveColumn (RowView.index ["n"]) "n" = .ok 0 :=
    Schema.resolveColumn_eq hv (c := "n") (j := 0) rfl
  rw [Computation.probe, hres]
  rfl

/-- A column `n` holding `1` and then null: its completeness count, after the null row, is short
of one, and the share's metric tells. -/
theorem exact_checks_catch_one_bad_row_nullRow :
    Accumulates (.nonNullCount "n") 2 (.ratio ⟨1, 2⟩) ∧ (Aggregate.ratio ⟨1, 2⟩).Violated ∧
      (∃ x, (Check.plainAnalyzer (.completeness "n")).valueFrom (.ratio ⟨1, 2⟩) = .ok (.double x) ∧
        (Assertion.isOne.holds x = .ok true ↔ ¬ (Aggregate.ratio ⟨1, 2⟩).Violated)) ∧
      ∃ added : List Constraint, added ≠ [] ∧
        (ConstraintSpec.apply ⟨.error, "ids", [], false⟩ (.isComplete "n")).constraints = added ∧
        ∀ k ∈ added, ∃ a, k.analyzers = [a] ∧
          ∀ (M : List (Analyzer × Metric)) (n : Nat) (s : Aggregate),
            Ordered.get? a M = some (a.computeMetric s) → Accumulates a.descriptor.computation n s →
            1 ≤ n → n ≤ 2 ^ 53 → ((k.evaluate M).status = .failure ↔ s.Violated) := by
  have h1 : Accumulates (.nonNullCount "n") 1 (.ratio ⟨1, 1⟩) :=
    Accumulates.observe [.int 1] probe_completeness_n .empty
  have h2 : Accumulates (.nonNullCount "n") 2 (.ratio ⟨1, 2⟩) :=
    Accumulates.observe [.null] probe_completeness_n h1
  exact ⟨h2, by simp [Aggregate.Violated],
    exact_checks_catch_one_bad_row.1 (Check.plainAnalyzer (.completeness "n")) 2 _ trivial h2
      (by norm_num) (by norm_num),
    exact_checks_catch_one_bad_row.2 (.isComplete "n") ⟨.error, "ids", [], false⟩ trivial⟩

/-- Merging a ratio count of one matching row with itself, again and again, reaches `2 ^ k`
matches among `2 ^ k` rows. -/
lemma accumulates_doubling {c : Computation} (h : Accumulates c 1 (.ratio ⟨1, 1⟩)) (k : Nat) :
    Accumulates c (2 ^ k) (.ratio ⟨UInt64.ofNat (2 ^ k), UInt64.ofNat (2 ^ k)⟩) := by
  induction k with
  | zero => exact h
  | succ k ih =>
    have hdouble : UInt64.ofNat (2 ^ k) + UInt64.ofNat (2 ^ k) = UInt64.ofNat (2 ^ (k + 1)) := by
      rw [← UInt64.ofNat_add, pow_succ, mul_two]
    have hw : merge? (.ratio ⟨UInt64.ofNat (2 ^ k), UInt64.ofNat (2 ^ k)⟩)
        (.ratio ⟨UInt64.ofNat (2 ^ k), UInt64.ofNat (2 ^ k)⟩) =
        some (.ratio ⟨UInt64.ofNat (2 ^ (k + 1)), UInt64.ofNat (2 ^ (k + 1))⟩) := by
      simp [merge?, RatioCount.merge, hdouble]
    rw [pow_succ, mul_two]
    rw [pow_succ, mul_two] at hw
    exact ih.merge ih hw

set_option maxRecDepth 10000 in
/-- Past `2 ^ 53` rows one bad row can vanish: `2 ^ 53` complete rows and one null row, which merges
reach by doubling a one-row count, give a completeness that is exactly one. -/
theorem completeness_one_of_rounded_rows :
    Accumulates (.nonNullCount "n") (2 ^ 53 + 1) (.ratio ⟨2 ^ 53, 2 ^ 53 + 1⟩) ∧
      (Aggregate.ratio ⟨2 ^ 53, 2 ^ 53 + 1⟩).Violated ∧
      ∃ x, (Check.plainAnalyzer (.completeness "n")).valueFrom (.ratio ⟨2 ^ 53, 2 ^ 53 + 1⟩) =
        .ok (.double x) ∧ Assertion.isOne.holds x = .ok true := by
  have hfull := accumulates_doubling
    (Accumulates.observe [.int 1] probe_completeness_n .empty) 53
  have hnull : Accumulates (.nonNullCount "n") 1 (.ratio ⟨0, 1⟩) :=
    Accumulates.observe [.null] probe_completeness_n .empty
  have hviolated : (2 ^ 53 : UInt64).toNat < (2 ^ 53 + 1 : UInt64).toNat := by decide
  refine ⟨hfull.merge hnull rfl, hviolated, _, rfl, ?_⟩
  decide

end DataQuality
