import Mathlib
import DataQuality.Proofs.Scan.Accumulate
import DataQuality.Proofs.Double.Quotient
import DataQuality.Proofs.Scan.Resolve

/-!
# Counters within the rows seen

The counters of an aggregate are 64-bit words that wrap past the top.  An aggregate that scans and
merges have built from the empty one while counting fewer than `2 ^ 64` rows in all never wraps
them, so its counters say what they mean (`Aggregate.Accumulates.counted`, `Aggregate.Counted`):

* a ratio count has seen the rows and matched at most that many (`RatioCount.Counted`);
* a frequency table has seen the rows, and its counts are positive and add up to at most that
  many, so the rows with a null grouping value are the rest (`Frequencies.Counted`,
  `Frequencies.Counted.nullRows_add_total`);
* type counts add up to the rows (`TypeCounts.Counted`).

An observation adds one row, and a merge the rows of both sides: each step keeps the bound as long
as the rows after it still fit in a word.  So the shares read off these aggregates (completeness,
compliance, pattern match, uniqueness, distinctness and the unique value ratio) are quotients of a
count by a count at least as large, which lie in `[0, 1]` (`Analyzer.valueFrom_mem_unit`, from
`Decimal.ofInt_div_ofInt_mem_unit`).

The bound on the rows is needed: a merge adds its sides' counters with no check, so an aggregate
merged with itself often enough counts more rows than a word holds, and its counters wrap.
-/

namespace DataQuality

open Decimal

/-- A sum of two words that fits in a word is the sum of the numbers. -/
lemma UInt64.toNat_add_of_lt {a b : UInt64} (h : a.toNat + b.toNat < 2 ^ 64) :
    (a + b).toNat = a.toNat + b.toNat := by
  rw [UInt64.toNat_add, Nat.mod_eq_of_lt h]

/-! ## Counts of tallies as whole numbers -/

namespace Tally

variable {κ : Type}

/-- The counts of a list of entries, added up as whole numbers. -/
def countSum (l : List (κ × UInt64)) : Nat := (l.map fun e => e.2.toNat).sum

@[simp] lemma countSum_nil : countSum ([] : List (κ × UInt64)) = 0 := rfl

@[simp] lemma countSum_cons (e : κ × UInt64) (l : List (κ × UInt64)) :
    countSum (e :: l) = e.2.toNat + countSum l := by
  simp [countSum]

/-- Entries whose counts are all positive. -/
def Positive (l : List (κ × UInt64)) : Prop := ∀ e ∈ l, 0 < e.2.toNat

/-- The wrapping total of counts that fit in a word is their sum. -/
lemma toNat_total {t : Tally κ} (h : countSum t.entries < 2 ^ 64) :
    t.total.toNat = countSum t.entries := by
  -- the running total, from any start that leaves room
  have hrun : ∀ (l : List (κ × UInt64)) (s : UInt64), s.toNat + countSum l < 2 ^ 64 →
      (l.foldl (fun (s : UInt64) (e : κ × UInt64) => s + e.2) s).toNat = s.toNat + countSum l := by
    intro l
    induction l with
    | nil => simp
    | cons head rest ih =>
      intro s hs
      simp only [countSum_cons] at hs
      rw [List.foldl_cons, ih _ (by rw [UInt64.toNat_add_of_lt (by omega)]; omega),
        UInt64.toNat_add_of_lt (by omega), countSum_cons]
      omega
  show (t.entries.foldl (fun (s : UInt64) (e : κ × UInt64) => s + e.2) 0).toNat = _
  rw [hrun _ 0 (by simpa using h)]
  simp

/-- Positive counts are at least one each: there are at most as many keys as counted. -/
lemma length_le_countSum {l : List (κ × UInt64)} (h : Positive l) : l.length ≤ countSum l := by
  induction l with
  | nil => simp
  | cons head rest ih =>
    have := h head List.mem_cons_self
    rw [List.length_cons, countSum_cons]
    have := ih fun e he => h e (List.mem_cons_of_mem _ he)
    omega

variable [Ord κ]


/-- Adding a positive count to a key of positive counts, when the counts still fit in a word, adds
it to their sum and keeps them positive. -/
lemma bump_counts {k : κ} {n : UInt64} {l : List (κ × UInt64)} (hn : 0 < n.toNat)
    (hpos : Positive l) (hfit : countSum l + n.toNat < 2 ^ 64) :
    countSum (bump k n l) = countSum l + n.toNat ∧ Positive (bump k n l) := by
  induction l with
  | nil =>
    refine ⟨by simp [bump], fun e he => ?_⟩
    rw [bump, List.mem_singleton] at he
    rw [he]
    exact hn
  | cons head rest ih =>
    obtain ⟨k', m⟩ := head
    have hm : 0 < m.toNat := hpos _ List.mem_cons_self
    have hrest : Positive rest := fun e he => hpos e (List.mem_cons_of_mem _ he)
    simp only [countSum_cons] at hfit
    unfold bump
    -- the count goes before the head, onto it, or further down
    split
    · refine ⟨by simp only [countSum_cons]; omega, fun e he => ?_⟩
      rcases List.mem_cons.mp he with rfl | he
      · exact hn
      · exact hpos e he
    · have hsum : (m + n).toNat = m.toNat + n.toNat := UInt64.toNat_add_of_lt (by omega)
      refine ⟨by simp only [countSum_cons, hsum]; omega, fun e he => ?_⟩
      rcases List.mem_cons.mp he with rfl | he
      · simp only [hsum]
        omega
      · exact hrest e he
    · obtain ⟨hsum, hpos'⟩ := ih hrest (by omega)
      refine ⟨by simp only [countSum_cons, hsum]; omega, fun e he => ?_⟩
      rcases List.mem_cons.mp he with rfl | he
      · exact hm
      · exact hpos' e he

/-- Adding positive counts one by one to a tally of positive counts, when all of them fit in a
word, adds their sum and keeps the counts positive. -/
lemma foldl_add_counts {a : Tally κ} {l : List (κ × UInt64)} (ha : Positive a.entries)
    (hl : Positive l) (hfit : countSum a.entries + countSum l < 2 ^ 64) :
    countSum (l.foldl (fun t (k, n) => t.add k n) a).entries = countSum a.entries + countSum l ∧
      Positive (l.foldl (fun t (k, n) => t.add k n) a).entries := by
  induction l generalizing a with
  | nil => exact ⟨by simp, ha⟩
  | cons head rest ih =>
    simp only [countSum_cons] at hfit
    obtain ⟨hsum, hpos⟩ := bump_counts (k := head.1) (hl head List.mem_cons_self) ha (by omega)
    obtain ⟨hsum', hpos'⟩ := ih (a := a.add head.1 head.2) hpos
      (fun e he => hl e (List.mem_cons_of_mem _ he)) (by simp only [add, hsum]; omega)
    refine ⟨?_, hpos'⟩
    rw [List.foldl_cons, hsum', countSum_cons]
    simp only [add, hsum]
    omega

/-- A merge of tallies of positive counts that fit in a word together adds their sums. -/
lemma merge_counts {a b : Tally κ} (ha : Positive a.entries) (hb : Positive b.entries)
    (hfit : countSum a.entries + countSum b.entries < 2 ^ 64) :
    countSum (a.merge b).entries = countSum a.entries + countSum b.entries ∧
      Positive (a.merge b).entries :=
  foldl_add_counts ha hb hfit

end Tally

/-! ## Counters of each kind -/

/-- A ratio count that has seen `n` rows: its total is `n`, and at most that many matched. -/
structure RatioCount.Counted (n : Nat) (r : RatioCount) : Prop where
  hits_le : r.hits.toNat ≤ r.total.toNat
  total : r.total.toNat = n

/-- A frequency table that has seen `n` rows: positive counts adding up to at most `n`. -/
structure Frequencies.Counted (n : Nat) (f : Frequencies) : Prop where
  rows : f.rows.toNat = n
  positive : Tally.Positive f.counts.entries
  sum_le : Tally.countSum f.counts.entries ≤ n

/-- Type counts that have seen `n` cells, one per row: they add up to `n`. -/
def TypeCounts.Counted (n : Nat) (t : TypeCounts) : Prop :=
  t.unknown.toNat + t.integral.toNat + t.fractional.toNat + t.boolean.toNat + t.string.toNat = n

namespace RatioCount

lemma counted_empty : ({} : RatioCount).Counted 0 := ⟨le_rfl, rfl⟩

lemma Counted.observe {n : Nat} {r : RatioCount} (h : r.Counted n) (hn : n + 1 < 2 ^ 64)
    (matched : Bool) : (r.observe matched).Counted (n + 1) := by
  have hh := h.hits_le
  have ht := h.total
  have htotal : (r.total + 1).toNat = r.total.toNat + 1 :=
    UInt64.toNat_add_of_lt (by rw [UInt64.toNat_one]; omega)
  refine ⟨?_, by simp only [RatioCount.observe, htotal, ht]⟩
  cases matched
  · simp only [RatioCount.observe, htotal, Bool.false_eq_true, if_false]
    omega
  · simp only [RatioCount.observe, htotal, if_true,
      UInt64.toNat_add_of_lt (show r.hits.toNat + (1 : UInt64).toNat < 2 ^ 64 by
        rw [UInt64.toNat_one]; omega), UInt64.toNat_one]
    omega

lemma Counted.merge {m n : Nat} {a b : RatioCount} (ha : a.Counted m) (hb : b.Counted n)
    (hmn : m + n < 2 ^ 64) : (a.merge b).Counted (m + n) := by
  have h₁ := ha.hits_le
  have h₂ := hb.hits_le
  have ht₁ := ha.total
  have ht₂ := hb.total
  have hhits : (a.hits + b.hits).toNat = a.hits.toNat + b.hits.toNat :=
    UInt64.toNat_add_of_lt (by omega)
  have htotal : (a.total + b.total).toNat = a.total.toNat + b.total.toNat :=
    UInt64.toNat_add_of_lt (by omega)
  refine ⟨?_, ?_⟩ <;> simp only [RatioCount.merge, hhits, htotal] <;> omega

/-- A ratio count's share, when it has one, lies in `[0, 1]`. -/
lemma Counted.ratio?_mem_unit {n : Nat} {r : RatioCount} (h : r.Counted n) (hn : n < 2 ^ 64)
    {x : Float} (hx : r.ratio? = some x) : 0 ≤ x ∧ x ≤ 1 := by
  unfold ratio? at hx
  split_ifs at hx with hpos
  cases hx
  have htotal : 0 < r.total.toNat := by simpa using UInt64.lt_iff_toNat_lt.mp hpos
  exact ofInt_div_ofInt_mem_unit h.hits_le htotal (by rw [h.total]; exact hn)

end RatioCount

namespace Frequencies

lemma counted_empty : ({} : Frequencies).Counted 0 := ⟨rfl, (fun _ h => nomatch h), le_rfl⟩

lemma Counted.observe {n : Nat} {f : Frequencies} (h : f.Counted n) (hn : n + 1 < 2 ^ 64)
    (key : Option String) : (f.observe key).Counted (n + 1) := by
  have hrows : (f.rows + 1).toNat = n + 1 := by
    rw [UInt64.toNat_add_of_lt (by rw [h.rows, UInt64.toNat_one]; omega), h.rows,
      UInt64.toNat_one]
  cases key with
  | none => exact ⟨hrows, h.positive, by have := h.sum_le; simp only [Frequencies.observe]; omega⟩
  | some k =>
    -- the key's count goes up by one, and so does their sum
    have hsum := h.sum_le
    obtain ⟨hbump, hpos⟩ := Tally.bump_counts (k := k) (n := 1) (by decide) h.positive
      (by rw [UInt64.toNat_one]; omega)
    refine ⟨hrows, hpos, ?_⟩
    simp only [Frequencies.observe, Tally.add, hbump, UInt64.toNat_one]
    omega

lemma Counted.merge {m n : Nat} {a b : Frequencies} (ha : a.Counted m) (hb : b.Counted n)
    (hmn : m + n < 2 ^ 64) : (a.merge b).Counted (m + n) := by
  have hs₁ := ha.sum_le
  have hs₂ := hb.sum_le
  obtain ⟨hsum, hpos⟩ := Tally.merge_counts ha.positive hb.positive (by omega)
  refine ⟨?_, hpos, ?_⟩
  · simp only [Frequencies.merge]
    rw [UInt64.toNat_add_of_lt (by rw [ha.rows, hb.rows]; exact hmn), ha.rows, hb.rows]
  · simp only [Frequencies.merge, hsum]
    omega

/-- The rows with a null grouping value of a table that has seen fewer than `2 ^ 64` rows are
those its counts leave: the subtraction does not wrap. -/
lemma Counted.nullRows_add_total {n : Nat} {f : Frequencies} (h : f.Counted n) (hn : n < 2 ^ 64) :
    f.nullRows.toNat + f.counts.total.toNat = f.rows.toNat := by
  have htotal := Tally.toNat_total (t := f.counts) (by have := h.sum_le; omega)
  have hle : f.counts.total ≤ f.rows := by
    rw [UInt64.le_iff_toNat_le, htotal, h.rows]
    exact h.sum_le
  rw [nullRows, UInt64.toNat_sub_of_le _ _ hle]
  have := UInt64.le_iff_toNat_le.mp hle
  omega

/-- A table has at most as many keys as rows. -/
lemma Counted.distinct_le {n : Nat} {f : Frequencies} (h : f.Counted n) : f.distinct ≤ n :=
  (Tally.length_le_countSum h.positive).trans h.sum_le

/-- Keys seen once are among the keys. -/
lemma unique_le_distinct (f : Frequencies) : f.unique ≤ f.distinct :=
  List.length_filter_le _ _

end Frequencies

namespace TypeCounts

lemma counted_empty : ({} : TypeCounts).Counted 0 := rfl

lemma Counted.observe {n : Nat} {t : TypeCounts} (h : t.Counted n) (hn : n + 1 < 2 ^ 64)
    (v : Value) : (t.observe v).Counted (n + 1) := by
  unfold Counted at h ⊢
  -- the count of the cell's class goes up by one, without wrapping
  unfold TypeCounts.observe
  split <;> simp only <;>
    rw [UInt64.toNat_add_of_lt (by rw [UInt64.toNat_one]; omega), UInt64.toNat_one] <;> omega

lemma Counted.merge {m n : Nat} {a b : TypeCounts} (ha : a.Counted m) (hb : b.Counted n)
    (hmn : m + n < 2 ^ 64) : (a.merge b).Counted (m + n) := by
  unfold Counted at ha hb ⊢
  -- each class adds its two counts, which fit since all of them do
  have h₁ : (a.unknown + b.unknown).toNat = a.unknown.toNat + b.unknown.toNat :=
    UInt64.toNat_add_of_lt (by omega)
  have h₂ : (a.integral + b.integral).toNat = a.integral.toNat + b.integral.toNat :=
    UInt64.toNat_add_of_lt (by omega)
  have h₃ : (a.fractional + b.fractional).toNat = a.fractional.toNat + b.fractional.toNat :=
    UInt64.toNat_add_of_lt (by omega)
  have h₄ : (a.boolean + b.boolean).toNat = a.boolean.toNat + b.boolean.toNat :=
    UInt64.toNat_add_of_lt (by omega)
  have h₅ : (a.string + b.string).toNat = a.string.toNat + b.string.toNat :=
    UInt64.toNat_add_of_lt (by omega)
  simp only [TypeCounts.merge, h₁, h₂, h₃, h₄, h₅]
  omega

/-- Type counts that have seen fewer than `2 ^ 64` cells total them without wrapping. -/
lemma Counted.total {n : Nat} {t : TypeCounts} (h : t.Counted n) (hn : n < 2 ^ 64) :
    t.total.toNat = n := by
  unfold Counted at h
  -- the running total stays below the whole
  have h₁ : (t.unknown + t.integral).toNat = t.unknown.toNat + t.integral.toNat :=
    UInt64.toNat_add_of_lt (by omega)
  have h₂ : (t.unknown + t.integral + t.fractional).toNat =
      t.unknown.toNat + t.integral.toNat + t.fractional.toNat := by
    rw [UInt64.toNat_add_of_lt (by rw [h₁]; omega), h₁]
  have h₃ : (t.unknown + t.integral + t.fractional + t.boolean).toNat =
      t.unknown.toNat + t.integral.toNat + t.fractional.toNat + t.boolean.toNat := by
    rw [UInt64.toNat_add_of_lt (by rw [h₂]; omega), h₂]
  rw [TypeCounts.total, UInt64.toNat_add_of_lt (by rw [h₃]; omega), h₃]
  exact h

end TypeCounts

/-! ## Aggregates built by scans and merges -/

namespace Aggregate

/-- The counters of an aggregate of a computation that has seen `n` rows: those of a ratio count,
a frequency table or type counts (`RatioCount.Counted`, `Frequencies.Counted`,
`TypeCounts.Counted`); the other kinds keep no such counters. -/
def Counted : Computation → Nat → Aggregate → Prop
  | .nonNullCount _, n, ratio r | .predicateCount _, n, ratio r | .patternCount _ _, n, ratio r =>
    r.Counted n
  | .frequencies _, n, frequencies f => f.Counted n
  | .dataTypes _, n, dataTypes t => t.Counted n
  | _, _, _ => True

lemma counted_empty (c : Computation) : Counted c 0 (empty c) := by
  cases c
  case nonNullCount | predicateCount | patternCount => exact RatioCount.counted_empty
  case frequencies => exact Frequencies.counted_empty
  case dataTypes => exact TypeCounts.counted_empty
  all_goals trivial

/-- An observation through a probe of the computation counts one more row. -/
lemma counted_observe {c : Computation} {n : Nat} {a : Aggregate} {index : List (String × Nat)}
    {probe : Probe} (hp : c.probe index = .ok probe) (hc : Conforms (empty c) a)
    (h : Counted c n a) (hn : n + 1 < 2 ^ 64) (row : Row) :
    Counted c (n + 1) (a.observe ⟨index, row⟩ probe) := by
  -- the kinds with counters, each observed through the probe its computation resolves to
  cases c
  case nonNullCount column =>
    cases a <;> simp only [empty, Conforms] at hc
    cases hr : resolveColumn index column <;>
      simp only [Computation.probe, hr, Functor.map, Except.map, reduceCtorEq,
        Except.ok.injEq] at hp
    subst hp
    exact RatioCount.Counted.observe h hn _
  case predicateCount predicate =>
    cases a <;> simp only [empty, Conforms] at hc
    cases hP : compilePredicate index predicate <;>
      simp only [Computation.probe, hP, Functor.map, Except.map, reduceCtorEq,
        Except.ok.injEq] at hp
    subst hp
    exact RatioCount.Counted.observe h hn _
  case patternCount column pattern =>
    cases a <;> simp only [empty, Conforms] at hc
    cases hre : Pattern.Regex.compile pattern <;> cases hr : resolveColumn index column <;>
      simp only [Computation.probe, hre, hr, bind, Except.bind, pure, Except.pure, reduceCtorEq,
        Except.ok.injEq] at hp
    subst hp
    exact RatioCount.Counted.observe h hn _
  case frequencies columns =>
    cases a <;> simp only [empty, Conforms] at hc
    obtain ⟨is, rfl, -⟩ := Computation.probe_frequencies hp
    simp only [observe]
    split_ifs
    · exact Frequencies.Counted.observe h hn none
    · exact Frequencies.Counted.observe h hn _
  case dataTypes column =>
    cases a <;> simp only [empty, Conforms] at hc
    cases hr : resolveColumn index column <;>
      simp only [Computation.probe, hr, Functor.map, Except.map, reduceCtorEq,
        Except.ok.injEq] at hp
    subst hp
    exact TypeCounts.Counted.observe h hn _
  all_goals trivial

/-- A merge counts the rows of both sides. -/
lemma counted_merge {c : Computation} {m n : Nat} {a b w : Aggregate} (hca : Conforms (empty c) a)
    (hcb : Conforms (empty c) b) (ha : Counted c m a) (hb : Counted c n b)
    (hw : merge? a b = some w) (hmn : m + n < 2 ^ 64) : Counted c (m + n) w := by
  -- two aggregates of the computation's kind, merged by their own merge
  cases c
  case nonNullCount | predicateCount | patternCount =>
    cases a <;> simp only [empty, Conforms] at hca
    cases b <;> simp only [empty, Conforms] at hcb
    simp only [merge?, Option.some.injEq] at hw
    subst hw
    exact RatioCount.Counted.merge ha hb hmn
  case frequencies =>
    cases a <;> simp only [empty, Conforms] at hca
    cases b <;> simp only [empty, Conforms] at hcb
    simp only [merge?, Option.some.injEq] at hw
    subst hw
    exact Frequencies.Counted.merge ha hb hmn
  case dataTypes =>
    cases a <;> simp only [empty, Conforms] at hca
    cases b <;> simp only [empty, Conforms] at hcb
    simp only [merge?, Option.some.injEq] at hw
    subst hw
    exact TypeCounts.Counted.merge ha hb hmn
  all_goals trivial

/-- An aggregate that scans and merges build while counting fewer than `2 ^ 64` rows keeps its
counters within the rows seen. -/
theorem Accumulates.counted {c : Computation} {n : Nat} {a : Aggregate} (h : Accumulates c n a)
    (hn : n < 2 ^ 64) : Counted c n a := by
  induction h with
  | empty => exact counted_empty c
  | observe row hp ha ih => exact counted_observe hp ha.conforms (ih (by omega)) hn row
  | merge ha hb hw iha ihb =>
    exact counted_merge ha.conforms hb.conforms (iha (by omega)) (ihb (by omega)) hw hn

/-- The counters of a frequency table of the kind a computation builds are those of a table. -/
lemma Counted.frequencies {c : Computation} {n : Nat} {f : Frequencies}
    (h : Counted c n (frequencies f)) (hc : Conforms (empty c) (frequencies f)) : f.Counted n := by
  cases c
  case frequencies => exact h
  all_goals simp [Conforms, empty] at hc

/-- The counters of type counts of the kind a computation builds are those of type counts. -/
lemma Counted.dataTypes {c : Computation} {n : Nat} {t : TypeCounts}
    (h : Counted c n (dataTypes t)) (hc : Conforms (empty c) (dataTypes t)) : t.Counted n := by
  cases c
  case dataTypes => exact h
  all_goals simp [Conforms, empty] at hc

end Aggregate

/-! ## Shares -/

/-- The statistics whose metric is a share: of the rows that pass a test, or of the keys or the
rows of a frequency table. -/
def Statistic.IsShare : Statistic → Prop
  | .completeness _ | .compliance _ _ | .patternMatch _ _ | .uniqueness _ | .distinctness _
  | .uniqueValueRatio _ => True
  | _ => False

/-- The quotient of a count by a count at least as large, when it is defined, lies in `[0, 1]`. -/
lemma fraction_mem_unit {a b : Nat} (hab : a ≤ b) (hb : b < 2 ^ 64) {v : MetricValue}
    (h : fraction a b = .ok v) : ∃ x, v = .double x ∧ 0 ≤ x ∧ x ≤ 1 := by
  unfold fraction at h
  split_ifs at h with h0
  cases h
  exact ⟨_, rfl, ofInt_div_ofInt_mem_unit hab (Nat.pos_of_ne_zero (by simpa using h0)) hb⟩

/-- A share read off an aggregate whose counters count fewer than `2 ^ 64` rows lies in
`[0, 1]`. -/
theorem Analyzer.valueFrom_mem_unit {a : Analyzer} (hs : a.statistic.IsShare) {n : Nat}
    {s : Aggregate} (h : Aggregate.Counted a.descriptor.computation n s) (hn : n < 2 ^ 64)
    {v : MetricValue} (hv : a.valueFrom s = .ok v) : ∃ x, v = .double x ∧ 0 ≤ x ∧ x ≤ 1 := by
  obtain ⟨statistic, filter⟩ := a
  -- a share of rows from a ratio count, or of keys or rows from a frequency table
  cases statistic <;> simp only [Statistic.IsShare] at hs
  case completeness | compliance | patternMatch =>
    cases s <;> simp only [Analyzer.valueFrom, reduceCtorEq] at hv
    rename_i r
    cases hr : r.ratio? <;> simp only [hr, reduceCtorEq, Except.ok.injEq] at hv
    subst hv
    exact ⟨_, rfl, RatioCount.Counted.ratio?_mem_unit h hn hr⟩
  case uniqueness =>
    cases s <;> simp only [Analyzer.valueFrom, reduceCtorEq] at hv
    rename_i f
    have hf : f.Counted n := h
    exact fraction_mem_unit ((f.unique_le_distinct.trans hf.distinct_le).trans hf.rows.ge)
      (by rw [hf.rows]; exact hn) hv
  case distinctness =>
    cases s <;> simp only [Analyzer.valueFrom, reduceCtorEq] at hv
    rename_i f
    have hf : f.Counted n := h
    exact fraction_mem_unit (hf.distinct_le.trans hf.rows.ge) (by rw [hf.rows]; exact hn) hv
  case uniqueValueRatio =>
    cases s <;> simp only [Analyzer.valueFrom, reduceCtorEq] at hv
    rename_i f
    have hf : f.Counted n := h
    exact fraction_mem_unit f.unique_le_distinct (lt_of_le_of_lt hf.distinct_le hn) hv

/-! ## Counters within the rows -/

open Aggregate in
/-- An aggregate that scans and merges build for a computation while counting fewer than `2 ^ 64`
rows keeps its counters within the rows seen: a ratio count matches at most its rows, a frequency
table has positive counts adding up to at most its rows and the rows with null grouping values are
the rest, and type counts total the rows; so the shares read off it lie in `[0, 1]`. -/
theorem counters_within_rows {c : Computation} {n : Nat} {s : Aggregate}
    (h : Accumulates c n s) (hn : n < 2 ^ 64) :
    Counted c n s ∧
      (∀ f, s = .frequencies f → f.nullRows.toNat + f.counts.total.toNat = f.rows.toNat) ∧
      (∀ t, s = .dataTypes t → t.total.toNat = n) ∧
      ∀ (a : Analyzer) v, a.descriptor.computation = c → a.statistic.IsShare →
        a.valueFrom s = .ok v → ∃ x, v = .double x ∧ 0 ≤ x ∧ x ≤ 1 := by
  have hc := h.counted hn
  refine ⟨hc, ?_, ?_, ?_⟩
  · rintro f rfl
    exact (hc.frequencies h.conforms).nullRows_add_total hn
  · rintro t rfl
    exact (hc.dataTypes h.conforms).total hn
  · rintro a v rfl hs hv
    exact Analyzer.valueFrom_mem_unit hs hc hn hv

open Aggregate in
/-- A column `n` whose one row holds `1`: its completeness count after that row, whose counters
stay within the one row and whose shares lie in `[0, 1]`. -/
theorem counters_within_rows_oneRow :
    Accumulates (.nonNullCount "n") 1 (.ratio ⟨1, 1⟩) ∧ 1 < 2 ^ 64 ∧
      Counted (.nonNullCount "n") 1 (.ratio ⟨1, 1⟩) ∧
      (∀ f, Aggregate.ratio ⟨1, 1⟩ = .frequencies f →
        f.nullRows.toNat + f.counts.total.toNat = f.rows.toNat) ∧
      (∀ t, Aggregate.ratio ⟨1, 1⟩ = .dataTypes t → t.total.toNat = 1) ∧
      ∀ (a : Analyzer) v, a.descriptor.computation = .nonNullCount "n" → a.statistic.IsShare →
        a.valueFrom (.ratio ⟨1, 1⟩) = .ok v → ∃ x, v = .double x ∧ 0 ≤ x ∧ x ≤ 1 := by
  -- the column resolves to the first position
  have hv : (⟨[{ name := "n", columnType := .integral }]⟩ : Schema).validate = .ok () := rfl
  have hres : resolveColumn (RowView.index ["n"]) "n" = .ok 0 :=
    Schema.resolveColumn_eq hv (c := "n") (j := 0) rfl
  have hratio : Accumulates (.nonNullCount "n") 1 (.ratio ⟨1, 1⟩) :=
    Accumulates.observe (c := .nonNullCount "n") [.int 1]
      (by rw [Computation.probe, hres]; rfl :
        (Computation.nonNullCount "n").probe (RowView.index ["n"]) = .ok (.present 0)) .empty
  exact ⟨hratio, by norm_num, counters_within_rows hratio (by norm_num)⟩

end DataQuality
