import Mathlib
import DataQuality.Proofs.Analysis.Monoid
import DataQuality.Proofs.Double.Rounding

/-!
# Sketches grown from an empty sketch

A quantile sketch is grown from an empty sketch of some accuracy `a` by inserting numbers and by
merging two grown sketches (`Reachable`).  Insertion is taken with the bucket of a magnitude as a
parameter (`insertWith`): `insert` is insertion with the sketch's own buckets, computed in
doubles, and the same growth with buckets computed exactly is the subject of the modules on
estimates.

Every grown sketch is well formed (`WellFormed`): it keeps the accuracy `a`, its two tallies list
their buckets in ascending order, and its least and greatest numbers are both absent or two finite
numbers in order, present as soon as the sketch has counted a number (`reachable_wellFormed`).
The last fact rests on `minNum` and `maxNum` of finite numbers choosing one of them of least or
greatest rank.
-/

namespace DataQuality

open Decimal

namespace QuantileSketch

/-- Inserting a number into the bucket `key` gives its magnitude: `insert` with a choice of
buckets. -/
def insertWith (key : Float → Int) (s : QuantileSketch) (x : Float) : QuantileSketch :=
  if x.isNaN || x.isInf then s else
  let s :=
    if x > 0 then { s with positive := s.positive.add (key x) 1 }
    else if x < 0 then { s with negative := s.negative.add (key (-x)) 1 }
    else { s with zeroCount := s.zeroCount + 1 }
  { s with
    count := s.count + 1
    min := some ((s.min.map (minNum · x)).getD x)
    max := some ((s.max.map (maxNum · x)).getD x) }

/-- `insert` puts a number into the sketch's own bucket. -/
lemma insert_eq_insertWith (s : QuantileSketch) (x : Float) :
    s.insert x = s.insertWith s.bucket x := rfl

/-- The sketches grown from the empty sketch of accuracy `a` by inserting numbers, each into the
bucket `key` gives for the sketch it enters, and by merging two grown sketches. -/
inductive Reachable (key : QuantileSketch → Float → Int) (a : Float) : QuantileSketch → Prop
  | empty : Reachable key a (QuantileSketch.empty a)
  | insert {s : QuantileSketch} (x : Float) :
      Reachable key a s → Reachable key a (s.insertWith (key s) x)
  | merge {s t u : QuantileSketch} :
      Reachable key a s → Reachable key a t → s.merge? t = some u → Reachable key a u

/-! ## Least and greatest numbers -/

/-- The least and greatest numbers of a sketch: both absent, or two finite numbers in order. -/
def Bounded (lo hi : Option Float) : Prop :=
  (lo = none ∧ hi = none) ∨
    ∃ l h, lo = some l ∧ hi = some h ∧ l.isFinite = true ∧ h.isFinite = true ∧ rank l ≤ rank h

/-- The least of two finite numbers is one of them, of rank at most both. -/
lemma minNum_of_isFinite {x y : Float} (hx : x.isFinite = true) (hy : y.isFinite = true) :
    (minNum x y).isFinite = true ∧ rank (minNum x y) ≤ rank x ∧ rank (minNum x y) ≤ rank y := by
  rw [minNum_eq_chooseBy]
  refine ⟨?_, key_chooseBy_le (isNaN_of_isFinite hx) (isNaN_of_isFinite hy)⟩
  rcases @chooseBy_eq_or_eq _ _ rank x y with h | h <;> rw [h] <;> assumption

/-- The greatest of two finite numbers is one of them, of rank at least both. -/
lemma maxNum_of_isFinite {x y : Float} (hx : x.isFinite = true) (hy : y.isFinite = true) :
    (maxNum x y).isFinite = true ∧ rank x ≤ rank (maxNum x y) ∧ rank y ≤ rank (maxNum x y) := by
  rw [maxNum_eq_chooseBy]
  obtain ⟨h₁, h₂⟩ := @key_chooseBy_le _ _ (fun z => OrderDual.toDual (rank z)) x y
    (isNaN_of_isFinite hx) (isNaN_of_isFinite hy)
  refine ⟨?_, h₁, h₂⟩
  rcases @chooseBy_eq_or_eq _ _ (fun z => OrderDual.toDual (rank z)) x y with h | h <;>
    rw [h] <;> assumption

/-- A finite number inserted between bounds keeps them bounds. -/
lemma Bounded.insert {lo hi : Option Float} (h : Bounded lo hi) {x : Float}
    (hx : x.isFinite = true) :
    Bounded (some ((lo.map (minNum · x)).getD x)) (some ((hi.map (maxNum · x)).getD x)) := by
  rcases h with ⟨rfl, rfl⟩ | ⟨l, u, rfl, rfl, hl, hu, hlu⟩
  · exact Or.inr ⟨x, x, rfl, rfl, hx, hx, le_rfl⟩
  · obtain ⟨hf₁, hr₁, -⟩ := minNum_of_isFinite hl hx
    obtain ⟨hf₂, hr₂, -⟩ := maxNum_of_isFinite hu hx
    exact Or.inr ⟨_, _, rfl, rfl, hf₁, hf₂, hr₁.trans (hlu.trans hr₂)⟩

/-- The bounds of two sketches combine into bounds. -/
lemma Bounded.combine {lo₁ hi₁ lo₂ hi₂ : Option Float} (h₁ : Bounded lo₁ hi₁)
    (h₂ : Bounded lo₂ hi₂) : Bounded (combine minNum lo₁ lo₂) (combine maxNum hi₁ hi₂) := by
  rcases h₁ with ⟨rfl, rfl⟩ | ⟨l₁, u₁, rfl, rfl, hl₁, hu₁, h₁⟩ <;>
    rcases h₂ with ⟨rfl, rfl⟩ | ⟨l₂, u₂, rfl, rfl, hl₂, hu₂, h₂⟩
  · exact Or.inl ⟨rfl, rfl⟩
  · exact Or.inr ⟨l₂, u₂, rfl, rfl, hl₂, hu₂, h₂⟩
  · exact Or.inr ⟨l₁, u₁, rfl, rfl, hl₁, hu₁, h₁⟩
  · obtain ⟨hf, hr, -⟩ := minNum_of_isFinite hl₁ hl₂
    obtain ⟨hg, hs, -⟩ := maxNum_of_isFinite hu₁ hu₂
    exact Or.inr ⟨_, _, rfl, rfl, hf, hg, hr.trans (h₁.trans hs)⟩

/-- A combination of two bounds is present when either is. -/
lemma isSome_combine (f : Float → Float → Float) (x y : Option Float) :
    (combine f x y).isSome = (x.isSome || y.isSome) := by
  cases x <;> cases y <;> rfl

/-! ## Well-formed sketches -/

/-- What a sketch grown from the empty sketch of accuracy `a` keeps. -/
structure WellFormed (a : Float) (s : QuantileSketch) : Prop where
  accuracy : s.accuracy = a
  positive : Tally.Ascending s.positive.entries
  negative : Tally.Ascending s.negative.entries
  bounded : Bounded s.min s.max
  min_isSome : s.count ≠ 0 → s.min.isSome = true

variable {a : Float} {s t u : QuantileSketch}

lemma wellFormed_empty (a : Float) : WellFormed a (empty a) :=
  ⟨rfl, Tally.ascending_empty, Tally.ascending_empty, Or.inl ⟨rfl, rfl⟩, fun h => absurd rfl h⟩

/-- Inserting a number keeps a sketch well formed, whatever its bucket. -/
lemma WellFormed.insertWith (h : WellFormed a s) (key : Float → Int) (x : Float) :
    WellFormed a (s.insertWith key x) := by
  unfold QuantileSketch.insertWith
  split_ifs with hskip hpos hneg
  · exact h
  all_goals
    have hx : x.isFinite = true := by
      rw [isFinite_eq]
      simpa using hskip
  · exact ⟨h.accuracy, Tally.ascending_add _ _ h.positive, h.negative, h.bounded.insert hx,
      fun _ => rfl⟩
  · exact ⟨h.accuracy, h.positive, Tally.ascending_add _ _ h.negative, h.bounded.insert hx,
      fun _ => rfl⟩
  · exact ⟨h.accuracy, h.positive, h.negative, h.bounded.insert hx, fun _ => rfl⟩

/-- Merging two well-formed sketches gives a well-formed sketch. -/
lemma WellFormed.merge? (hs : WellFormed a s) (ht : WellFormed a t) (h : s.merge? t = some u) :
    WellFormed a u := by
  rw [merge?_of_accuracy (hs.accuracy.trans ht.accuracy.symm), Option.some.injEq] at h
  subst h
  refine ⟨hs.accuracy, Tally.ascending_merge hs.positive ht.positive,
    Tally.ascending_merge hs.negative ht.negative, hs.bounded.combine ht.bounded, fun hc => ?_⟩
  -- a merge that has counted a number has one side that has
  rw [isSome_combine, Bool.or_eq_true]
  by_cases hs0 : s.count = 0
  · exact Or.inr (ht.min_isSome fun ht0 => hc (by simp [hs0, ht0]))
  · exact Or.inl (hs.min_isSome hs0)

/-- Every grown sketch is well formed. -/
theorem reachable_wellFormed {key : QuantileSketch → Float → Int} (h : Reachable key a s) :
    WellFormed a s := by
  induction h with
  | empty => exact wellFormed_empty a
  | insert x _ ih => exact ih.insertWith _ x
  | merge _ _ hu ihs iht => exact ihs.merge? iht hu

/-- A well-formed sketch that has counted a number has finite least and greatest numbers in
order. -/
lemma WellFormed.exists_bounds (h : WellFormed a s) (hc : s.count ≠ 0) :
    ∃ l u, s.min = some l ∧ s.max = some u ∧ l.isFinite = true ∧ u.isFinite = true ∧
      rank l ≤ rank u := by
  rcases h.bounded with ⟨hl, -⟩ | hb
  · have := h.min_isSome hc
    simp [hl] at this
  · exact hb

end QuantileSketch

end DataQuality
