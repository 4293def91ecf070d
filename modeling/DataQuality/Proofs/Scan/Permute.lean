import Mathlib
import DataQuality.Proofs.Scan.Sums

/-!
# Scans do not depend on the order of the rows

A scan folds rows into an aggregate one observation at a time.  Two observations commute for
every kind of aggregate that merges exactly, when the numbers the rows read are the doubles of
integers (`Aggregate.observe_comm`): counts add, a tally adds to two keys in either order, a
distinct-count sketch raises two registers, and the least and the greatest of the doubles of two
integers do not depend on which came first (`Decimal.minNum_ofInt_comm`).  The sums of moments
and co-moments are exact when they fit, and are then the sums of the integers read, in any order
(`Moments.ofInts_perm`, `CoMoments.ofPairs_perm`).

So a scan of a permutation of some rows is the scan of the rows (`scanRows_perm_of_isExact`,
`scanRows_moments_perm`, `scanRows_correlation_perm`).  The fold argument is made once, for any
steps that keep an invariant and commute from it (`foldl_eq_of_perm`).
-/

namespace DataQuality

open Decimal

/-! ## Folds over a permutation -/

/-- A fold over a permutation of a list ends where the fold over the list ends, when every step
keeps an invariant and two steps from a state of the invariant commute. -/
theorem foldl_eq_of_perm {α β : Type} {f : β → α → β} {P : β → Prop} {Q : α → Prop}
    (hP : ∀ z x, P z → Q x → P (f z x))
    (hcomm : ∀ z x y, P z → Q x → Q y → f (f z x) y = f (f z y) x)
    {l₁ l₂ : List α} (hp : l₁.Perm l₂) (hl : ∀ x ∈ l₁, Q x) {z : β} (hz : P z) :
    l₁.foldl f z = l₂.foldl f z := by
  induction hp generalizing z with
  | nil => rfl
  | cons x _ ih =>
    exact ih (fun y hy => hl y (List.mem_cons_of_mem x hy)) (hP z x hz (hl x List.mem_cons_self))
  | swap x y l =>
    -- the first two steps commute, and the rest is one fold
    simp only [List.foldl_cons]
    rw [hcomm z y x hz (hl y List.mem_cons_self) (hl x (List.mem_cons_of_mem y List.mem_cons_self))]
  | trans h₁ _ ih₁ ih₂ =>
    exact (ih₁ hl hz).trans (ih₂ (fun x hx => hl x (h₁.mem_iff.mpr hx)) hz)

/-! ## Exact sums in any order -/

/-- The sums of some integers fit in any order when they fit in one. -/
lemma SumsFit.perm {l l' : List Int} (h : SumsFit l) (hp : l'.Perm l) : SumsFit l' := by
  intro s hs
  obtain ⟨s', hs', hsub⟩ := List.exists_perm_sublist hs hp
  rw [← hs'.sum_eq]
  exact h s' hsub

namespace Moments

lemma Exact.perm {xs ys : List Int} (h : Exact xs) (hp : ys.Perm xs) : Exact ys :=
  ⟨h.sum.perm hp, h.sumSquares.perm (hp.map _)⟩

/-- The moments of some integers do not depend on their order. -/
lemma ofInts_perm {xs ys : List Int} (hp : xs.Perm ys) : ofInts xs = ofInts ys := by
  rw [ofInts, ofInts, hp.length_eq, hp.sum_eq, (hp.map fun x => x * x).sum_eq]

end Moments

namespace CoMoments

lemma Exact.perm {ps qs : List (Int × Int)} (h : Exact ps) (hp : qs.Perm ps) : Exact qs :=
  ⟨h.sumX.perm (hp.map _), h.sumY.perm (hp.map _), h.sumXY.perm (hp.map _),
    h.sumXX.perm (hp.map _), h.sumYY.perm (hp.map _)⟩

/-- The co-moments of some pairs of integers do not depend on their order. -/
lemma ofPairs_perm {ps qs : List (Int × Int)} (hp : ps.Perm qs) : ofPairs ps = ofPairs qs := by
  rw [ofPairs, ofPairs, hp.length_eq, (hp.map (·.1)).sum_eq, (hp.map (·.2)).sum_eq,
    (hp.map fun p => p.1 * p.2).sum_eq, (hp.map fun p => p.1 * p.1).sum_eq,
    (hp.map fun p => p.2 * p.2).sum_eq]

end CoMoments

/-! ## Two observations -/

namespace RatioCount

lemma observe_comm (r : RatioCount) (b b' : Bool) :
    (r.observe b).observe b' = (r.observe b').observe b := by
  cases b <;> cases b' <;> rfl

end RatioCount

/-- Two numbers folded into an optional extreme by an associative choice that does not depend on
their order give one extreme in either order. -/
lemma choose_swap {f : Float → Float → Float} (hassoc : ∀ a b c, f (f a b) c = f a (f b c))
    {x y : Float} (hxy : f x y = f y x) (o : Option Float) :
    f ((o.map (f · x)).getD x) y = f ((o.map (f · y)).getD y) x := by
  cases o with
  | none => exact hxy
  | some m =>
    simp only [Option.map_some, Option.getD_some]
    rw [hassoc, hxy, ← hassoc]

namespace Extrema

lemma observe_comm (e : Extrema) {x y : Float} (hmin : minNum x y = minNum y x)
    (hmax : maxNum x y = maxNum y x) : (e.observe x).observe y = (e.observe y).observe x := by
  simp only [observe, Option.map_some, Option.getD_some, choose_swap minNum_assoc hmin e.min,
    choose_swap maxNum_assoc hmax e.max]

end Extrema

namespace QuantileSketch

/-- Inserting two finite numbers into a sketch with ascending buckets commutes, when their least
and greatest do not depend on their order; a number that is not finite changes nothing. -/
lemma insert_comm {s : QuantileSketch} (hpos : Tally.Ascending s.positive.entries)
    (hneg : Tally.Ascending s.negative.entries) {x y : Float} (hmin : minNum x y = minNum y x)
    (hmax : maxNum x y = maxNum y x) : (s.insert x).insert y = (s.insert y).insert x := by
  by_cases hx : (x.isNaN || x.isInf) = true
  · have hskip : ∀ t : QuantileSketch, t.insert x = t := fun t => by rw [insert, if_pos hx]
    rw [hskip, hskip]
  by_cases hy : (y.isNaN || y.isInf) = true
  · have hskip : ∀ t : QuantileSketch, t.insert y = t := fun t => by rw [insert, if_pos hy]
    rw [hskip, hskip]
  -- both numbers are counted: in a bucket of either sign or as a zero, then as a bound
  obtain ⟨accuracy, pos, neg, zeros, count, lo, hi⟩ := s
  dsimp only at hpos hneg
  simp only [insert, hx, hy, Bool.false_eq_true, if_false]
  split_ifs <;> simp only [Option.map_some, Option.getD_some, bucket, gamma,
    choose_swap minNum_assoc hmin, choose_swap maxNum_assoc hmax, Tally.add_add_swap hpos,
    Tally.add_add_swap hneg]

end QuantileSketch

namespace DistinctSketch

lemma max_right_comm_uInt8 (a b c : UInt8) : max (max a b) c = max (max a c) b := by
  apply UInt8.toNat.inj
  simp only [max, UInt8.le_iff_toNat_le]
  split_ifs <;> omega

/-- Raising two registers commutes. -/
lemma modify_max_comm (r : Array UInt8) (i j : Nat) (x y : UInt8) :
    (r.modify i (max · x)).modify j (max · y) = (r.modify j (max · y)).modify i (max · x) := by
  ext k hk hk'
  · simp
  · simp only [Array.getElem_modify]
    split_ifs <;> simp [max_right_comm_uInt8]

/-- Inserting two texts raises two registers, in either order. -/
lemma insert_comm (s : DistinctSketch) (t u : String) :
    (s.insert t).insert u = (s.insert u).insert t := by
  rw [insert_eq_modify s t, insert_eq_modify s u, insert_eq_modify, insert_eq_modify]
  dsimp only
  -- the registers and the ranks the two texts offer, whatever their hashes
  generalize slot s.precision t = a
  generalize slot s.precision u = b
  rw [modify_max_comm]

end DistinctSketch

namespace Frequencies

lemma observe_comm {f : Frequencies} (hf : Tally.Ascending f.counts.entries)
    (key key' : Option String) : (f.observe key).observe key' = (f.observe key').observe key := by
  cases key <;> cases key' <;> simp [observe, Tally.add_add_swap hf]

end Frequencies

namespace TypeCounts

lemma observe_comm (t : TypeCounts) (v v' : Value) :
    (t.observe v).observe v' = (t.observe v').observe v := by
  unfold observe
  cases DataClass.ofValue v <;> cases DataClass.ofValue v' <;> rfl

end TypeCounts

namespace Aggregate

/-- Every cell of a row that reads as a number reads as the double of an integer. -/
def WholeRow (row : Row) : Prop := ∀ j x, (cellAt row j).asFloat? = some x → ∃ n : Int, x = ofInt n

/-- A frequency table observes the key of the grouping cells of a row, none when one is null. -/
lemma observe_key (f : Frequencies) (v : RowView) (is : List Nat) :
    (frequencies f).observe v (.key is) = frequencies (f.observe
      (if (is.map (cellAt v.row)).any Value.isNull then none
        else some (Frequencies.keyOf ((is.map (cellAt v.row)).map Value.render)))) := by
  simp only [observe]
  split_ifs <;> rfl

/-- Two observations of rows whose numbers are the doubles of integers commute, for the
aggregates of a kind that merges exactly. -/
lemma observe_comm {k z : Aggregate} (hk : IsExact k) (hz : Conforms k z) (p : Probe)
    (v v' : RowView) (hv : WholeRow v.row) (hv' : WholeRow v'.row) :
    (z.observe v p).observe v' p = (z.observe v' p).observe v p := by
  -- the least and the greatest of two numbers read do not depend on their order
  have hnum : ∀ i x y, (cellAt v.row i).asFloat? = some x → (cellAt v'.row i).asFloat? = some y →
      minNum x y = minNum y x ∧ maxNum x y = maxNum y x := by
    intro i x y hx hy
    obtain ⟨a, rfl⟩ := hv i x hx
    obtain ⟨b, rfl⟩ := hv' i y hy
    exact ⟨minNum_ofInt_comm a b, maxNum_ofInt_comm a b⟩
  -- aggregates of one kind, and for each kind the probes that step it
  cases k <;> simp only [IsExact] at hk
  all_goals cases z <;> simp only [Conforms] at hz
  case count.count => cases p <;> rfl
  case ratio.ratio r => cases p <;> simp only [observe, RatioCount.observe_comm]
  case extrema.extrema e =>
    cases p
    case number i =>
      cases hx : (cellAt v.row i).asFloat? <;> cases hy : (cellAt v'.row i).asFloat? <;>
        simp only [observe, hx, hy]
      exact congrArg extrema (e.observe_comm (hnum i _ _ hx hy).1 (hnum i _ _ hx hy).2)
    case length i =>
      cases hx : (cellAt v.row i).asText? <;> cases hy : (cellAt v'.row i).asText? <;>
        simp only [observe, hx, hy]
      exact congrArg extrema (e.observe_comm (minNum_ofInt_comm _ _) (maxNum_ofInt_comm _ _))
    all_goals rfl
  case quantiles.quantiles s t =>
    cases p
    case number i =>
      cases hx : (cellAt v.row i).asFloat? <;> cases hy : (cellAt v'.row i).asFloat? <;>
        simp only [observe, hx, hy]
      exact congrArg quantiles
        (QuantileSketch.insert_comm hz.2.1 hz.2.2 (hnum i _ _ hx hy).1 (hnum i _ _ hx hy).2)
    all_goals rfl
  case distinct.distinct =>
    cases p
    case rendered i =>
      by_cases hnull : (cellAt v.row i).isNull <;> by_cases hnull' : (cellAt v'.row i).isNull <;>
        simp [observe, hnull, hnull', DistinctSketch.insert_comm]
    all_goals rfl
  case frequencies.frequencies f =>
    cases p
    case key is => rw [observe_key, observe_key, observe_key, observe_key, Frequencies.observe_comm hz]
    all_goals rfl
  case dataTypes.dataTypes =>
    cases p
    case cell i => simp only [observe, TypeCounts.observe_comm]
    all_goals rfl

end Aggregate

/-! ## Scans of permuted rows -/

section Scans

open Aggregate

variable {index : List (String × Nat)} {filter : Option Predicate}

/-- For the aggregates that merge exactly, a scan of a permutation of rows whose numbers are the
doubles of integers is the scan of the rows. -/
lemma scanRows_perm_of_isExact {c : Computation} (hk : (empty c).IsExact) {rows rows' : List Row}
    (hp : rows.Perm rows') (hw : ∀ r ∈ rows, WholeRow r) (probe : Probe) :
    scanRows index filter probe (empty c) rows = scanRows index filter probe (empty c) rows' := by
  rw [scanRows_eq_foldl, scanRows_eq_foldl]
  exact foldl_eq_of_perm (P := Conforms (empty c)) (Q := WholeRow)
    (fun z _ hz _ => conforms_observe hz _ probe)
    (fun z x y hz hx hy => observe_comm hk hz probe ⟨index, x⟩ ⟨index, y⟩ hx hy) (hp.filter _)
    (fun r hr => hw r (List.mem_of_mem_filter hr)) (conforms_empty c)

variable {w : Row → Nat → Int} {rows rows' : List Row}

/-- A scan of the moments of a column is the moments of the integers of the rows it passes, when
their sums fit. -/
lemma scanRows_moments (hw : WholeCells w rows) (i : Nat)
    (h : Moments.Exact ((rows.filter (passesFilter index filter)).filterMap (numberAt w i))) :
    scanRows index filter (.number i) (.moments {}) rows =
      .moments (Moments.ofInts ((rows.filter (passesFilter index filter)).filterMap (numberAt w i))) := by
  rw [← Moments.ofInts_nil]
  exact @scanRows_view Int index filter (.number i) (fun xs => .moments (Moments.ofInts xs))
    (numberAt w i) Moments.Exact (fun _ _ hs h => h.sublist hs) rows
    (fun xs r hr h => observe_moments (hw r hr) i xs h) [] (by simpa using h)

/-- A scan of the co-moments of two columns is the co-moments of the pairs of integers of the rows
it passes, when their sums fit. -/
lemma scanRows_correlation (hw : WholeCells w rows) (i j : Nat)
    (h : CoMoments.Exact ((rows.filter (passesFilter index filter)).filterMap (pairAt w i j))) :
    scanRows index filter (.pair i j) (.correlation {}) rows =
      .correlation (CoMoments.ofPairs
        ((rows.filter (passesFilter index filter)).filterMap (pairAt w i j))) := by
  rw [← CoMoments.ofPairs_nil]
  exact @scanRows_view (Int × Int) index filter (.pair i j)
    (fun ps => .correlation (CoMoments.ofPairs ps)) (pairAt w i j) CoMoments.Exact
    (fun _ _ hs h => h.sublist hs) rows (fun ps r hr h => observe_correlation (hw r hr) i j ps h) []
    (by simpa using h)

/-- A scan of the moments of a column over a permutation of rows of whole numbers whose sums fit
is the scan of the rows. -/
lemma scanRows_moments_perm (hp : rows.Perm rows') (hw : WholeCells w rows) (i : Nat)
    (h : Moments.Exact ((rows.filter (passesFilter index filter)).filterMap (numberAt w i))) :
    scanRows index filter (.number i) (.moments {}) rows =
      scanRows index filter (.number i) (.moments {}) rows' := by
  have hperm := (hp.filter (passesFilter index filter)).filterMap (numberAt w i)
  rw [scanRows_moments hw i h,
    scanRows_moments (fun r hr => hw r (hp.mem_iff.mpr hr)) i (h.perm hperm.symm),
    Moments.ofInts_perm hperm]

/-- So is a scan of the co-moments of two columns. -/
lemma scanRows_correlation_perm (hp : rows.Perm rows') (hw : WholeCells w rows) (i j : Nat)
    (h : CoMoments.Exact ((rows.filter (passesFilter index filter)).filterMap (pairAt w i j))) :
    scanRows index filter (.pair i j) (.correlation {}) rows =
      scanRows index filter (.pair i j) (.correlation {}) rows' := by
  have hperm := (hp.filter (passesFilter index filter)).filterMap (pairAt w i j)
  rw [scanRows_correlation hw i j h,
    scanRows_correlation (fun r hr => hw r (hp.mem_iff.mpr hr)) i j (h.perm hperm.symm),
    CoMoments.ofPairs_perm hperm]

end Scans

end DataQuality
