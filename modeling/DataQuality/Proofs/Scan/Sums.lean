import Mathlib
import DataQuality.Proofs.Scan.Merge
import DataQuality.Proofs.Scan.Fold
import DataQuality.Proofs.Double.WholeArithmetic

/-!
# Sums of whole numbers merge exactly

Moments and co-moments hold sums of doubles, and adding doubles rounds: in general the merge of
the sums over two runs of rows is not the sum over both.  When the numbers are the doubles of
integers and every sum they take fits in fifty-three bits, nothing rounds.  The aggregate of some
integers is `Moments.ofInts` of them (`CoMoments.ofPairs` of some pairs); observing a number
appends it and merging two aggregates appends their integers (`Moments.observe_ofInts`,
`Moments.merge_ofInts` and their co-moment twins), so the merged scans of consecutive chunks are
the scan of their concatenation (`mergeAll_scans_moments`, `mergeAll_scans_correlation`), as
for the kinds that merge exactly.

`SumsFit l` is the bound that keeps every addition exact: each sum of some of the integers of
`l` has at most fifty-three bits.  Asked of every sublist, it covers the running sums of a scan
and the partial sums of a merge alike.  The scan and merge arguments are made once, for any
aggregate that holds a list of values exactly (`scanRows_view`, `mergeAll_scans_view`).
-/

namespace DataQuality

open Decimal

/-! ## Sums that fit -/

/-- Every sum of some of the integers has at most fifty-three bits. -/
def SumsFit (l : List Int) : Prop := ∀ l' : List Int, l'.Sublist l → l'.sum.natAbs ≤ 2 ^ 53

namespace SumsFit

variable {l l' xs ys : List Int}

lemma sublist (h : SumsFit l) (hs : l'.Sublist l) : SumsFit l' := fun _ h' => h _ (h'.trans hs)

lemma natAbs_le_of_mem (h : SumsFit l) {x : Int} (hx : x ∈ l) : x.natAbs ≤ 2 ^ 53 := by
  simpa using h [x] (List.singleton_sublist.mpr hx)

/-- The doubles of the sums of two runs add to the double of the sum of both. -/
lemma ofInt_sum_append (h : SumsFit (xs ++ ys)) : ofInt xs.sum + ofInt ys.sum = ofInt (xs ++ ys).sum := by
  have hall : (xs.sum + ys.sum).natAbs ≤ 2 ^ 53 := by simpa using h _ (List.Sublist.refl _)
  rw [ofInt_add_ofInt (h xs (List.sublist_append_left _ _)) (h ys (List.sublist_append_right _ _))
    hall, List.sum_append]

/-- The double of a sum steps exactly by the product of two doubles of small integers. -/
lemma ofInt_sum_add_mul {a b : Int} (h : SumsFit (xs ++ [a * b])) (ha : a.natAbs ≤ 2 ^ 53)
    (hb : b.natAbs ≤ 2 ^ 53) : ofInt xs.sum + ofInt a * ofInt b = ofInt (xs ++ [a * b]).sum := by
  have hsum : (xs.sum + a * b).natAbs ≤ 2 ^ 53 := by simpa using h _ (List.Sublist.refl _)
  rw [ofInt_add_ofInt_mul (h xs (List.sublist_append_left _ _)) ha hb
    (h.natAbs_le_of_mem (by simp)) hsum, List.sum_append, List.sum_singleton]

/-- The double of a sum steps exactly by the double of a small integer. -/
lemma ofInt_sum_add {x : Int} (h : SumsFit (xs ++ [x])) :
    ofInt xs.sum + ofInt x = ofInt (xs ++ [x]).sum := by
  simpa using h.ofInt_sum_append

end SumsFit

lemma count_ofNat_succ (n : Nat) : UInt64.ofNat n + 1 = UInt64.ofNat (n + 1) := by
  rw [UInt64.ofNat_add]
  rfl

/-! ## Moments of integers -/

namespace Moments

/-- The moments of some integers: their number, and their sum and the sum of their squares
taken exactly. -/
def ofInts (xs : List Int) : Moments :=
  ⟨UInt64.ofNat xs.length, ofInt xs.sum, ofInt (xs.map fun x => x * x).sum⟩

/-- The sums the moments of some integers take fit, over any of the integers. -/
structure Exact (xs : List Int) : Prop where
  sum : SumsFit xs
  sumSquares : SumsFit (xs.map fun x => x * x)

lemma Exact.sublist {xs ys : List Int} (h : Exact xs) (hs : ys.Sublist xs) : Exact ys :=
  ⟨h.sum.sublist hs, h.sumSquares.sublist (hs.map _)⟩

lemma ofInts_nil : ofInts [] = {} := by
  have h0 : ofInt 0 = 0 := by decide
  simp [ofInts, h0]

variable {xs ys : List Int}

/-- Observing the double of an integer appends the integer. -/
lemma observe_ofInts {x : Int} (h : Exact (xs ++ [x])) :
    (ofInts xs).observe (ofInt x) = ofInts (xs ++ [x]) := by
  have hx : x.natAbs ≤ 2 ^ 53 := h.sum.natAbs_le_of_mem (by simp)
  have hsq := h.sumSquares
  rw [List.map_append, List.map_singleton] at hsq
  simp only [observe, ofInts, List.length_append, List.length_singleton, count_ofNat_succ,
    h.sum.ofInt_sum_add, List.map_append, List.map_singleton, hsq.ofInt_sum_add_mul hx hx]

/-- Merging the moments of two runs of integers gives the moments of both. -/
lemma merge_ofInts (h : Exact (xs ++ ys)) : (ofInts xs).merge (ofInts ys) = ofInts (xs ++ ys) := by
  have hsq := h.sumSquares
  rw [List.map_append] at hsq
  simp only [merge, ofInts, List.length_append, UInt64.ofNat_add, List.map_append,
    h.sum.ofInt_sum_append, hsq.ofInt_sum_append]

end Moments

/-! ## Co-moments of pairs of integers -/

namespace CoMoments

/-- The co-moments of some pairs of integers, every sum taken exactly. -/
def ofPairs (ps : List (Int × Int)) : CoMoments :=
  ⟨UInt64.ofNat ps.length, ofInt (ps.map (·.1)).sum, ofInt (ps.map (·.2)).sum,
    ofInt (ps.map fun p => p.1 * p.2).sum, ofInt (ps.map fun p => p.1 * p.1).sum,
    ofInt (ps.map fun p => p.2 * p.2).sum⟩

/-- The sums the co-moments of some pairs take fit, over any of the pairs. -/
structure Exact (ps : List (Int × Int)) : Prop where
  sumX : SumsFit (ps.map (·.1))
  sumY : SumsFit (ps.map (·.2))
  sumXY : SumsFit (ps.map fun p => p.1 * p.2)
  sumXX : SumsFit (ps.map fun p => p.1 * p.1)
  sumYY : SumsFit (ps.map fun p => p.2 * p.2)

lemma Exact.sublist {ps qs : List (Int × Int)} (h : Exact ps) (hs : qs.Sublist ps) : Exact qs :=
  ⟨h.sumX.sublist (hs.map _), h.sumY.sublist (hs.map _), h.sumXY.sublist (hs.map _),
    h.sumXX.sublist (hs.map _), h.sumYY.sublist (hs.map _)⟩

lemma ofPairs_nil : ofPairs [] = {} := by
  have h0 : ofInt 0 = 0 := by decide
  simp [ofPairs, h0]

variable {ps qs : List (Int × Int)}

/-- Observing the doubles of a pair of integers appends the pair. -/
lemma observe_ofPairs {x y : Int} (h : Exact (ps ++ [(x, y)])) :
    (ofPairs ps).observe (ofInt x) (ofInt y) = ofPairs (ps ++ [(x, y)]) := by
  obtain ⟨hX, hY, hXY, hXX, hYY⟩ := h
  simp only [List.map_append, List.map_singleton] at hX hY hXY hXX hYY
  have hx : x.natAbs ≤ 2 ^ 53 := hX.natAbs_le_of_mem (by simp)
  have hy : y.natAbs ≤ 2 ^ 53 := hY.natAbs_le_of_mem (by simp)
  simp only [observe, ofPairs, List.length_append, List.length_singleton, count_ofNat_succ,
    List.map_append, List.map_singleton, hX.ofInt_sum_add, hY.ofInt_sum_add,
    hXY.ofInt_sum_add_mul hx hy, hXX.ofInt_sum_add_mul hx hx, hYY.ofInt_sum_add_mul hy hy]

/-- Merging the co-moments of two runs of pairs gives the co-moments of both. -/
lemma merge_ofPairs (h : Exact (ps ++ qs)) : (ofPairs ps).merge (ofPairs qs) = ofPairs (ps ++ qs) := by
  obtain ⟨hX, hY, hXY, hXX, hYY⟩ := h
  simp only [List.map_append] at hX hY hXY hXX hYY
  simp only [merge, ofPairs, List.length_append, UInt64.ofNat_add, List.map_append,
    hX.ofInt_sum_append, hY.ofInt_sum_append, hXY.ofInt_sum_append, hXX.ofInt_sum_append,
    hYY.ofInt_sum_append]

end CoMoments

/-! ## Scans of aggregates that hold their values exactly -/

section View

variable {β : Type} {index : List (String × Nat)} {filter : Option Predicate} {probe : Probe}
  {view : List β → Aggregate} {read : Row → Option β} {Fits : List β → Prop}

/-- A scan from the aggregate of some values appends the values read from the rows it passes,
when observing a row does so and the values stay within `Fits`. -/
lemma scanRows_view (hfits : ∀ l l' : List β, l'.Sublist l → Fits l → Fits l')
    {R : List Row} (hobserve : ∀ l, ∀ r ∈ R, Fits (l ++ (read r).toList) →
      (view l).observe ⟨index, r⟩ probe = view (l ++ (read r).toList))
    (l : List β) (h : Fits (l ++ (R.filter (passesFilter index filter)).filterMap read)) :
    scanRows index filter probe (view l) R =
      view (l ++ (R.filter (passesFilter index filter)).filterMap read) := by
  rw [scanRows_eq_foldl]
  -- the rows that pass, one observation each
  generalize hS : R.filter (passesFilter index filter) = S at h ⊢
  have hsub : ∀ r ∈ S, r ∈ R := fun r hr => by
    rw [← hS] at hr
    exact List.mem_of_mem_filter hr
  clear hS
  induction S generalizing l with
  | nil => simp
  | cons r S ih =>
    have hread : (r :: S).filterMap read = (read r).toList ++ S.filterMap read := by
      cases hr : read r <;> simp [hr]
    rw [hread, ← List.append_assoc] at h ⊢
    rw [List.foldl_cons, hobserve l r (hsub r (by simp))
      (hfits _ _ (List.sublist_append_left _ _) h)]
    exact ih _ h fun r' hr' => hsub r' (List.mem_cons_of_mem r hr')

variable (view read) in
/-- Merging the scans of consecutive chunks into the aggregate of some values is scanning all
their rows from it, for an aggregate that holds its values exactly. -/
lemma mergeAll_scans_view (hfits : ∀ l l' : List β, l'.Sublist l → Fits l → Fits l')
    {parts : List (List Row)} (hobserve : ∀ l, ∀ r ∈ parts.flatten, Fits (l ++ (read r).toList) →
      (view l).observe ⟨index, r⟩ probe = view (l ++ (read r).toList))
    (hmerge : ∀ l l', Fits (l ++ l') → Aggregate.merge (view l) (view l') = .ok (view (l ++ l')))
    (l : List β) (h : Fits (l ++ (parts.flatten.filter (passesFilter index filter)).filterMap read)) :
    Aggregate.mergeAll (view l) (parts.map (scanRows index filter probe (view []))) =
      .ok (scanRows index filter probe (view l) parts.flatten) := by
  induction parts generalizing l with
  | nil => rfl
  | cons part parts ih =>
    simp only [List.flatten_cons, List.filter_append, List.filterMap_append] at h
    have hpart : Fits ((part.filter (passesFilter index filter)).filterMap read) :=
      hfits _ _ ((List.sublist_append_left _ _).trans (List.sublist_append_right l _)) h
    have hhead : Fits (l ++ (part.filter (passesFilter index filter)).filterMap read) :=
      hfits _ _ (by simp) h
    have hobs := fun l r (hr : r ∈ part) => hobserve l r (by simp [hr])
    rw [Aggregate.mergeAll, List.map_cons, List.foldlM_cons,
      scanRows_view hfits hobs [] (by simpa using hpart), List.nil_append, hmerge _ _ hhead,
      List.flatten_cons, Aggregate.scanRows_append, scanRows_view hfits hobs l hhead]
    refine ih (fun l r hr => hobserve l r (by simp [hr])) _ ?_
    simpa using h

end View

/-! ## The numbers of the rows -/

section Rows

variable (w : Row → Nat → Int)

/-- Every number a cell of the rows reads as is the double of the integer `w` gives the cell. -/
def WholeCells (rows : List Row) : Prop :=
  ∀ r ∈ rows, ∀ j x, (cellAt r j).asFloat? = some x → x = ofInt (w r j)

/-- The integer of the number of a cell, if it reads as one. -/
def numberAt (i : Nat) (r : Row) : Option Int := (cellAt r i).asFloat?.map fun _ => w r i

/-- The integers of the numbers of two cells, when both read as numbers. -/
def pairAt (i j : Nat) (r : Row) : Option (Int × Int) :=
  match (cellAt r i).asFloat?, (cellAt r j).asFloat? with
  | some _, some _ => some (w r i, w r j)
  | _, _ => none

variable {w} {index : List (String × Nat)}

/-- A row observed into the moments of some integers appends the integer of its number. -/
lemma observe_moments {r : Row} (hr : ∀ j x, (cellAt r j).asFloat? = some x → x = ofInt (w r j))
    (i : Nat) (xs : List Int) (h : Moments.Exact (xs ++ (numberAt w i r).toList)) :
    (Aggregate.moments (Moments.ofInts xs)).observe ⟨index, r⟩ (.number i) =
      .moments (Moments.ofInts (xs ++ (numberAt w i r).toList)) := by
  unfold numberAt at h ⊢
  cases hx : (cellAt r i).asFloat? with
  | none => simp [Aggregate.observe, hx]
  | some x =>
    rw [hx] at h
    simp only [Aggregate.observe, hx, hr i x hx, Option.map_some, Option.toList_some]
    rw [Moments.observe_ofInts h]

/-- A row observed into the co-moments of some pairs appends the pair of its numbers. -/
lemma observe_correlation {r : Row} (hr : ∀ j x, (cellAt r j).asFloat? = some x → x = ofInt (w r j))
    (i j : Nat) (ps : List (Int × Int)) (h : CoMoments.Exact (ps ++ (pairAt w i j r).toList)) :
    (Aggregate.correlation (CoMoments.ofPairs ps)).observe ⟨index, r⟩ (.pair i j) =
      .correlation (CoMoments.ofPairs (ps ++ (pairAt w i j r).toList)) := by
  unfold pairAt at h ⊢
  cases hx : (cellAt r i).asFloat? <;> cases hy : (cellAt r j).asFloat?
  case some.some x y =>
    rw [hx, hy] at h
    simp only [Aggregate.observe, hx, hy, hr i x hx, hr j y hy, Option.toList_some]
    rw [CoMoments.observe_ofPairs h]
  all_goals simp [Aggregate.observe, hx, hy]

/-- The merged scans of a column's moments, over the chunks of rows whose numbers are whole and
whose sums fit, are the scan of all their rows. -/
theorem mergeAll_scans_moments {parts : List (List Row)} (hw : WholeCells w parts.flatten)
    (filter : Option Predicate) (i : Nat)
    (h : Moments.Exact ((parts.flatten.filter (passesFilter index filter)).filterMap (numberAt w i))) :
    Aggregate.mergeAll (.moments {}) (parts.map (scanRows index filter (.number i) (.moments {}))) =
      .ok (scanRows index filter (.number i) (.moments {}) parts.flatten) := by
  rw [← Moments.ofInts_nil]
  exact mergeAll_scans_view (fun xs => .moments (Moments.ofInts xs)) (numberAt w i)
    (fun _ _ hs h => h.sublist hs) (fun xs r hr h => observe_moments (hw r hr) i xs h)
    (fun xs ys h => by simp [Aggregate.merge, Aggregate.merge?, Moments.merge_ofInts h]) []
    (by simpa using h)

/-- The merged scans of the co-moments of two columns, over the chunks of rows whose numbers are
whole and whose sums fit, are the scan of all their rows. -/
theorem mergeAll_scans_correlation {parts : List (List Row)} (hw : WholeCells w parts.flatten)
    (filter : Option Predicate) (i j : Nat)
    (h : CoMoments.Exact ((parts.flatten.filter (passesFilter index filter)).filterMap (pairAt w i j))) :
    Aggregate.mergeAll (.correlation {})
        (parts.map (scanRows index filter (.pair i j) (.correlation {}))) =
      .ok (scanRows index filter (.pair i j) (.correlation {}) parts.flatten) := by
  rw [← CoMoments.ofPairs_nil]
  exact mergeAll_scans_view (fun ps => .correlation (CoMoments.ofPairs ps)) (pairAt w i j)
    (fun _ _ hs h => h.sublist hs)
    (fun ps r hr h => observe_correlation (hw r hr) i j ps h)
    (fun ps qs h => by simp [Aggregate.merge, Aggregate.merge?, CoMoments.merge_ofPairs h]) []
    (by simpa using h)

end Rows

end DataQuality
