import Mathlib
import DataQuality.Run.Runner
import DataQuality.Proofs.Double.Order

/-!
# The orders of analyzers, descriptors, scan shapes and result keys

Maps keyed by analyzers, descriptors, scan shapes and result keys find a key by comparing it with
the keys there.  Each of these orders is lexicographic on some fields of the values compared: the
kind first, then the fields in turn, each compared by a lawful order of the standard library
(probabilities by the place of their bits in the IEEE total order).  So each is transitive and
compares equal only equal values (`Std.TransOrd`, `Std.LawfulEqOrd`), which is what the maps
need to behave as finite maps.
-/

namespace DataQuality

/-! ## Lawful orders -/

/-- The place of a double in the total order determines its bits. -/
theorem Probability.orderKey_injective : Function.Injective Probability.orderKey := by
  intro x y h
  apply Decimal.eq_of_toBits_eq
  have hx := x.toBits.toNat_lt
  have hy := y.toBits.toNat_lt
  apply UInt64.toNat_inj.mp
  simp only [Probability.orderKey, Nat.pow_eq] at h
  split_ifs at h <;> omega

instance : Std.TransOrd Probability :=
  inferInstanceAs (Std.TransCmp (compareOn fun p : Probability => Probability.orderKey p.value))

instance : Std.LawfulEqOrd Probability where
  eq_of_compare {p q} h := by
    obtain ⟨x⟩ := p
    obtain ⟨y⟩ := q
    have hkey : Probability.orderKey x = Probability.orderKey y := Std.LawfulEqOrd.eq_of_compare h
    rw [Probability.orderKey_injective hkey]

/-- An order pulled back along a map is transitive when the order is. -/
lemma transCmp_comap {α β : Type} {cmp : β → β → Ordering} [Std.TransCmp cmp] (f : α → β) :
    Std.TransCmp fun a b => cmp (f a) (f b) where
  eq_swap := Std.OrientedCmp.eq_swap
  isLE_trans := Std.TransCmp.isLE_trans

namespace Computation

/-- The text fields of a computation, in order. -/
def texts : Computation → List String
  | nonNullCount c | moments c | extrema c | lengthExtrema c | distinctEstimate c | dataTypes c
  | predicateCount c | quantiles c _ => [c]
  | patternCount a b | correlation a b => [a, b]
  | _ => []

/-- The column list of a computation over columns. -/
def columns : Computation → List String
  | frequencies cs => cs
  | _ => []

/-- The probability fields of a computation. -/
def probabilities : Computation → List Probability
  | quantiles _ p => [p]
  | _ => []

/-- The computation of a kind with given fields; the fields of a computation give it back. -/
def ofFields : Nat → List String → List String → List Probability → Computation
  | 1, [c], _, _ => nonNullCount c
  | 2, [p], _, _ => predicateCount p
  | 3, [c, p], _, _ => patternCount c p
  | 4, [c], _, _ => moments c
  | 5, [c], _, _ => extrema c
  | 6, [c], _, _ => lengthExtrema c
  | 7, [a, b], _, _ => correlation a b
  | 8, [c], _, [p] => quantiles c p
  | 9, [c], _, _ => distinctEstimate c
  | 10, _, cs, _ => frequencies cs
  | 11, [c], _, _ => dataTypes c
  | _, _, _, _ => rowCount

theorem ofFields_fields (c : Computation) : ofFields c.rank c.texts c.columns c.probabilities = c := by
  cases c <;> rfl

/-- Computations are ordered by kind, then by their fields in turn. -/
theorem cmp_eq_compareLex (a b : Computation) :
    a.cmp b = compareLex (compareOn rank) (compareLex (compareOn texts)
      (compareLex (compareOn columns) (compareOn probabilities))) a b := by
  cases a <;> cases b <;>
    simp [Nat.compare_eq_ite_lt, cmp, compareLex, compareOn, rank, texts, columns, probabilities,
      List.compare_cons_cons]

end Computation

instance : Std.TransOrd Computation := by
  show Std.TransCmp Computation.cmp
  rw [show Computation.cmp = _ from funext₂ Computation.cmp_eq_compareLex]
  infer_instance

instance : Std.LawfulEqOrd Computation where
  eq_of_compare {a b} h := by
    change Computation.cmp a b = .eq at h
    simp only [Computation.cmp_eq_compareLex, compareLex_eq_eq, compareOn,
      Std.LawfulEqOrd.compare_eq_iff_eq] at h
    rw [← Computation.ofFields_fields a, ← Computation.ofFields_fields b, h.1, h.2.1, h.2.2.1,
      h.2.2.2]

namespace Statistic

/-- The text fields of a statistic, in order. -/
def texts : Statistic → List String
  | completeness c | mean c | sum c | standardDeviation c | minimum c | maximum c | minLength c
  | maxLength c | approxCountDistinct c | entropy c | dataType c | approxQuantile c _ _
  | histogram c _ => [c]
  | compliance a b | patternMatch a b | correlation a b | mutualInformation a b => [a, b]
  | _ => []

/-- The column list of a statistic over columns. -/
def columns : Statistic → List String
  | uniqueness cs | distinctness cs | uniqueValueRatio cs | countDistinct cs => cs
  | _ => []

/-- The probability fields of a statistic. -/
def probabilities : Statistic → List Probability
  | approxQuantile _ q e => [q, e]
  | _ => []

/-- The number of bins of a histogram. -/
def bins : Statistic → Nat
  | histogram _ n => n
  | _ => 0

/-- The statistic of a kind with given fields; the fields of a statistic give it back. -/
def ofFields : Nat → List String → List String → List Probability → Nat → Statistic
  | 1, [c], _, _, _ => completeness c
  | 2, [a, p], _, _, _ => compliance a p
  | 3, [c, p], _, _, _ => patternMatch c p
  | 4, [c], _, _, _ => mean c
  | 5, [c], _, _, _ => sum c
  | 6, [c], _, _, _ => standardDeviation c
  | 7, [c], _, _, _ => minimum c
  | 8, [c], _, _, _ => maximum c
  | 9, [c], _, _, _ => minLength c
  | 10, [c], _, _, _ => maxLength c
  | 11, [a, b], _, _, _ => correlation a b
  | 12, [c], _, [q, e], _ => approxQuantile c q e
  | 13, [c], _, _, _ => approxCountDistinct c
  | 14, _, cs, _, _ => uniqueness cs
  | 15, _, cs, _, _ => distinctness cs
  | 16, _, cs, _, _ => uniqueValueRatio cs
  | 17, _, cs, _, _ => countDistinct cs
  | 18, [c], _, _, _ => entropy c
  | 19, [a, b], _, _, _ => mutualInformation a b
  | 20, [c], _, _, n => histogram c n
  | 21, [c], _, _, _ => dataType c
  | _, _, _, _, _ => size

theorem ofFields_fields (s : Statistic) :
    ofFields s.rank s.texts s.columns s.probabilities s.bins = s := by
  cases s <;> rfl

/-- Statistics are ordered by kind, then by their fields in turn. -/
theorem cmp_eq_compareLex (a b : Statistic) :
    a.cmp b = compareLex (compareOn rank) (compareLex (compareOn texts)
      (compareLex (compareOn columns) (compareLex (compareOn probabilities) (compareOn bins)))) a b := by
  cases a <;> cases b <;>
    simp [Nat.compare_eq_ite_lt, cmp, compareLex, compareOn, rank, texts, columns, probabilities,
      bins, List.compare_cons_cons]

instance : Std.TransCmp Statistic.cmp := by
  rw [show Statistic.cmp = _ from funext₂ cmp_eq_compareLex]
  infer_instance

instance : Std.LawfulEqCmp Statistic.cmp where
  eq_of_compare {a b} h := by
    simp only [cmp_eq_compareLex, compareLex_eq_eq, compareOn,
      Std.LawfulEqOrd.compare_eq_iff_eq] at h
    rw [← ofFields_fields a, ← ofFields_fields b, h.1, h.2.1, h.2.2.1, h.2.2.2.1, h.2.2.2.2]

end Statistic

instance : Std.TransOrd Descriptor :=
  inferInstanceAs (Std.TransCmp (compareLex (compareOn Descriptor.computation)
    (compareOn Descriptor.filter)))

instance : Std.LawfulEqOrd Descriptor where
  eq_of_compare {a b} h := by
    change (compare a.computation b.computation).then (compare a.filter b.filter) = .eq at h
    simp only [Ordering.then_eq_eq, Std.LawfulEqOrd.compare_eq_iff_eq] at h
    cases a
    cases b
    simp only at h
    rw [h.1, h.2]

instance : Std.TransOrd Analyzer :=
  have := @transCmp_comap _ _ Statistic.cmp _ Analyzer.statistic
  inferInstanceAs (Std.TransCmp (compareLex (fun a b : Analyzer => a.statistic.cmp b.statistic)
    (compareOn Analyzer.filter)))

instance : Std.LawfulEqOrd Analyzer where
  eq_of_compare {a b} h := by
    change (a.statistic.cmp b.statistic).then (compare a.filter b.filter) = .eq at h
    simp only [Ordering.then_eq_eq, Std.LawfulEqCmp.compare_eq_iff_eq] at h
    cases a
    cases b
    simp only at h
    rw [h.1, h.2]

namespace ScanStrategy

/-- The place of a strategy: aggregation first. -/
def rank : ScanStrategy → Nat
  | aggregation => 0
  | grouping _ => 1

/-- The grouping columns of a strategy. -/
def columns : ScanStrategy → List String
  | aggregation => []
  | grouping cs => cs

/-- Strategies are ordered by kind, then by their grouping columns. -/
theorem cmp_eq_compareLex (a b : ScanStrategy) :
    a.cmp b = compareLex (compareOn rank) (compareOn columns) a b := by
  cases a <;> cases b <;> simp [cmp, compareLex, compareOn, rank, columns, Nat.compare_eq_ite_lt]

instance : Std.TransCmp ScanStrategy.cmp := by
  rw [show ScanStrategy.cmp = _ from funext₂ cmp_eq_compareLex]
  infer_instance

instance : Std.LawfulEqCmp ScanStrategy.cmp where
  eq_of_compare {a b} h := by
    rw [cmp_eq_compareLex] at h
    simp only [compareLex_eq_eq, compareOn, Std.LawfulEqOrd.compare_eq_iff_eq] at h
    cases a <;> cases b <;> simp_all [rank, columns]

end ScanStrategy

instance : Std.TransOrd ScanShape :=
  have := @transCmp_comap _ _ ScanStrategy.cmp _ ScanShape.strategy
  inferInstanceAs (Std.TransCmp (compareLex (fun a b : ScanShape => a.strategy.cmp b.strategy)
    (compareOn ScanShape.filter)))

instance : Std.LawfulEqOrd ScanShape where
  eq_of_compare {a b} h := by
    change (a.strategy.cmp b.strategy).then (compare a.filter b.filter) = .eq at h
    simp only [Ordering.then_eq_eq, Std.LawfulEqCmp.compare_eq_iff_eq] at h
    cases a
    cases b
    simp only at h
    rw [h.1, h.2]

/-- The order of two tags: by name, then by value. -/
abbrev tagCmp : String × String → String × String → Ordering :=
  compareLex (compareOn Prod.fst) (compareOn Prod.snd)

instance : Std.LawfulEqCmp tagCmp where
  compare_self := Std.ReflCmp.compare_self
  eq_of_compare {p q} h := by
    simp only [tagCmp, compareLex_eq_eq, compareOn, Std.LawfulEqOrd.compare_eq_iff_eq] at h
    exact Prod.ext h.1 h.2

/-- Tag lists are ordered lexicographically. -/
theorem compareTags_eq_compareLex (a b : List (String × String)) :
    compareTags a b = List.compareLex tagCmp a b := by
  induction a generalizing b with
  | nil => cases b <;> rfl
  | cons p a ih =>
    cases b with
    | nil => rfl
    | cons q b => rw [compareTags, List.compareLex_cons_cons, ih]; rfl

instance : Std.TransOrd ResultKey := by
  have := @transCmp_comap _ _ (List.compareLex tagCmp) _ ResultKey.tags
  show Std.TransCmp fun a b : ResultKey => (compare a.date b.date).then (compareTags a.tags b.tags)
  simp only [compareTags_eq_compareLex]
  exact inferInstanceAs (Std.TransCmp (compareLex (compareOn ResultKey.date)
    fun a b : ResultKey => List.compareLex tagCmp a.tags b.tags))

instance : Std.LawfulEqOrd ResultKey where
  eq_of_compare {a b} h := by
    change (compare a.date b.date).then (compareTags a.tags b.tags) = .eq at h
    simp only [Ordering.then_eq_eq, compareTags_eq_compareLex, Std.LawfulEqCmp.compare_eq_iff_eq] at h
    cases a
    cases b
    simp only at h
    rw [h.1, h.2]

/-- Result keys that compare equal are equal, so their order decides equality. -/
instance : DecidableEq ResultKey := fun a b =>
  decidable_of_iff (compare a b = .eq) Std.LawfulEqCmp.compare_eq_iff_eq

end DataQuality
