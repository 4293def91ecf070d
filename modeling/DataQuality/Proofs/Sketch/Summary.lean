import Mathlib
import DataQuality.Proofs.Sketch.Reachable

/-!
# What a sketch keeps of the numbers it has seen

A sketch grown from the empty sketch of accuracy `a` by inserting the numbers of lists and merging
the results (`SketchOf`) summarizes the values of the finite numbers among them
(`Summarizes`): it counts them and their zeros, its two tallies are the tallies of the buckets of
their positive values and of the magnitudes of their negative values, and its least and greatest
numbers are worth the least and the greatest value (`sketchOf_summarizes`).  Numbers that are not
finite leave no trace.  Buckets are read through a function `K` of values: the bucket a sketch
gives a number must be `K` of its value.

Insertion is said once, by what it does to every field (`insertWith_of_value?`); the tallies of
two lists merge into the tally of their concatenation (`Tally.merge_ofKeys`).
-/

namespace DataQuality

open Decimal

/-! ## Signs and negation of doubles -/

namespace Decimal

open Float.Model Float.Model.UnpackedFloat

/-- A finite double unpacks below the exponent of infinity. -/
lemma exponent_le_of_unpack {b : BitVec 64} {s : Sign} {m : Nat} {e : Int} {hm : 0 < m}
    (h : UnpackedFloat.unpack Format.binary64 b = .finite s m e hm) : e ≤ 971 := by
  unfold UnpackedFloat.unpack at h
  dsimp only at h
  split_ifs at h with hall hmv hzero hmv'
  · cases h
    have hE : (@unpackExponent Format.binary64 b).toNat = 0 := by rw [hzero]; rfl
    simp only [Format.exponentBias]
    omega
  · cases h
    have hE1 : (@unpackExponent Format.binary64 b).toNat ≠ 2047 := fun h1 =>
      hall (BitVec.eq_of_toNat_eq (by simpa using h1))
    have hEl : (@unpackExponent Format.binary64 b).toNat < 2048 :=
      (@unpackExponent Format.binary64 b).isLt
    simp only [Format.exponentBias]
    omega

/-- Negating a double flips its sign and keeps the rest: the flipped number is packed back
unchanged, being in the canonical shape of an unpacked double. -/
lemma unpack_neg (x : Float) : (-x).toModel.unpack = x.toModel.unpack.neg := by
  change (Float.Model.pack x.toModel.unpack.neg).unpack = _
  cases hu : x.toModel.unpack with
  | notANumber => rfl
  | infinity s => cases s <;> rfl
  | zero s => exact unpack_pack_zero _
  | finite s m e hm =>
    have hshape := shape_of_lastPlace_eq hm (lastPlace_of_unpack hu)
    have hle : e ≤ 971 := exponent_le_of_unpack hu
    rw [unpack_model_pack]
    rcases hshape with ⟨hm', he, hn | rfl⟩
    · exact unpack_pack_normal _ hn hm' he hle hm
    · by_cases hs : m < 2 ^ 52
      · exact unpack_pack_subnormal _ hm hs
      · exact unpack_pack_normal _ (by omega) hm' le_rfl (by norm_num) hm

/-- The negation of a double is worth the opposite. -/
lemma value?_neg (x : Float) : value? (-x) = (value? x).map (- ·) := by
  rw [value?, value?, unpack_neg]
  cases x.toModel.unpack with
  | notANumber => rfl
  | infinity s => rfl
  | zero s => simp [UnpackedFloat.neg, unpackedValue?]
  | finite s m e hm => cases s <;> simp [UnpackedFloat.neg, unpackedValue?, Sign.apply]

/-- A double with a value is finite. -/
lemma isFinite_of_value? {x : Float} {v : ℚ} (h : value? x = some v) :
    x.isFinite = true := by
  change x.toModel.unpack.isFinite = true
  unfold value? at h
  cases hu : x.toModel.unpack <;> simp_all [unpackedValue?, UnpackedFloat.isFinite]

/-- A double without a value is not a number or infinite. -/
lemma isNaN_or_isInf_of_value? {x : Float} (h : value? x = none) :
    (x.isNaN || x.isInf) = true := by
  cases hf : x.isFinite
  · have := isFinite_eq x
    rw [hf] at this
    revert this
    cases x.isNaN <;> cases x.isInf <;> decide
  · obtain ⟨v, hv⟩ := exists_value?_of_isFinite hf
    simp [hv] at h

/-- A finite double is positive exactly when its value is. -/
lemma zero_lt_iff_of_value? {x : Float} {v : ℚ} (h : value? x = some v) :
    0 < x ↔ 0 < v := by
  have hz : value? 0 = some 0 := value?_eq_zero_iff.mpr ⟨.positive, rfl⟩
  rw [lt_iff_rank (by rfl) (isNaN_of_isFinite (isFinite_of_value? h))]
  refine ⟨fun hr => value?_lt_of_rank_lt hz h hr, fun hv => ?_⟩
  by_contra hr
  exact absurd (value?_le_of_rank_le h hz (not_lt.mp hr)) (not_le.mpr hv)

/-- A finite double is negative exactly when its value is. -/
lemma lt_zero_iff_of_value? {x : Float} {v : ℚ} (h : value? x = some v) :
    x < 0 ↔ v < 0 := by
  have hz : value? 0 = some 0 := value?_eq_zero_iff.mpr ⟨.positive, rfl⟩
  rw [lt_iff_rank (isNaN_of_isFinite (isFinite_of_value? h)) (by rfl)]
  refine ⟨fun hr => value?_lt_of_rank_lt h hz hr, fun hv => ?_⟩
  by_contra hr
  exact absurd (value?_le_of_rank_le hz h (not_lt.mp hr)) (not_le.mpr hv)

end Decimal

/-! ## Tallies of keys -/

namespace Tally

/-- Counting one more key is adding one to it. -/
lemma ofKeys_append_singleton {κ : Type} [Ord κ] (ks : List κ) (k : κ) :
    ofKeys (ks ++ [k]) = (ofKeys ks).add k 1 := by
  rw [ofKeys, List.foldl_append]
  rfl

/-- The tallies of two lists of keys merge into the tally of both. -/
lemma merge_ofKeys {κ : Type} [Ord κ] [DecidableEq κ] [Std.TransOrd κ] [Std.LawfulEqOrd κ]
    (ks js : List κ) : (ofKeys ks).merge (ofKeys js) = ofKeys (ks ++ js) := by
  refine ext (ascending_merge (ascending_ofKeys ks) (ascending_ofKeys js))
    (ascending_ofKeys _) fun j => ?_
  rw [lookup_merge (ascending_ofKeys ks) (ascending_ofKeys js), lookup_ofKeys, lookup_ofKeys,
    lookup_ofKeys]
  by_cases hk : j ∈ ks <;> by_cases hj : j ∈ js <;>
    simp [hk, hj, Option.merge, List.count_append, List.count_eq_zero_of_not_mem]

end Tally

namespace QuantileSketch

/-! ## Sketches of lists of numbers -/

/-- The values of the finite numbers of a list, in order. -/
def finiteValues (xs : List Float) : List ℚ := xs.filterMap value?

lemma finiteValues_append (xs ys : List Float) :
    finiteValues (xs ++ ys) = finiteValues xs ++ finiteValues ys :=
  List.filterMap_append

lemma finiteValues_singleton (x : Float) : finiteValues [x] = (value? x).toList := by
  cases h : value? x <;> simp [finiteValues, h]

/-- The sketches of the numbers of a list: grown from the empty sketch of accuracy `a` by
inserting the list's numbers, each into the bucket `key` gives for the sketch it enters, and by
merging the sketches of two lists into a sketch of their concatenation. -/
inductive SketchOf (key : QuantileSketch → Float → Int) (a : Float) :
    QuantileSketch → List Float → Prop
  | empty : SketchOf key a (QuantileSketch.empty a) []
  | insert {s : QuantileSketch} {xs : List Float} (x : Float) :
      SketchOf key a s xs → SketchOf key a (s.insertWith (key s) x) (xs ++ [x])
  | merge {s t u : QuantileSketch} {xs ys : List Float} :
      SketchOf key a s xs → SketchOf key a t ys → s.merge? t = some u →
        SketchOf key a u (xs ++ ys)

/-- Least and greatest numbers worth the least and the greatest of a list of values: both absent
for no values. -/
def Extremes (lo? hi? : Option Float) (vs : List ℚ) : Prop :=
  (vs = [] ∧ lo? = none ∧ hi? = none) ∨
    ∃ l u lo hi, lo? = some l ∧ hi? = some u ∧ value? l = some lo ∧ value? u = some hi ∧
      IsLeast {v | v ∈ vs} lo ∧ IsGreatest {v | v ∈ vs} hi

/-- What a sketch of accuracy `a` keeps of the values `vs`, its buckets given by `K`. -/
structure Summarizes (K : ℚ → Int) (a : Float) (s : QuantileSketch) (vs : List ℚ) : Prop where
  accuracy : s.accuracy = a
  count : s.count = UInt64.ofNat vs.length
  zeroCount : s.zeroCount = UInt64.ofNat (vs.count 0)
  positive : s.positive = Tally.ofKeys ((vs.filter (0 < ·)).map K)
  negative : s.negative = Tally.ofKeys ((vs.filter (· < 0)).map fun v => K (-v))
  extremes : Extremes s.min s.max vs

section Insert

variable {key : Float → Int} {s : QuantileSketch} {x : Float} {v : ℚ}

/-- A number that is not finite changes nothing. -/
lemma insertWith_of_value?_none (h : value? x = none) : s.insertWith key x = s := by
  rw [insertWith, if_pos (isNaN_or_isInf_of_value? h)]

/-- A finite number is counted on the side of its sign and bounds the sketch. -/
lemma insertWith_of_value? (h : value? x = some v) :
    s.insertWith key x = { s with
      positive := if 0 < v then s.positive.add (key x) 1 else s.positive
      negative := if v < 0 then s.negative.add (key (-x)) 1 else s.negative
      zeroCount := if v = 0 then s.zeroCount + 1 else s.zeroCount
      count := s.count + 1
      min := combine minNum s.min (some x)
      max := combine maxNum s.max (some x) } := by
  have hfin : (x.isNaN || x.isInf) = false := by
    have := isFinite_of_value? h
    rw [isFinite_eq] at this
    simpa using this
  have hmin : combine minNum s.min (some x) = some ((s.min.map (minNum · x)).getD x) := by
    cases s.min <;> rfl
  have hmax : combine maxNum s.max (some x) = some ((s.max.map (maxNum · x)).getD x) := by
    cases s.max <;> rfl
  rw [insertWith, if_neg (by rw [hfin]; exact Bool.false_ne_true), hmin, hmax]
  rcases lt_trichotomy v 0 with hv | rfl | hv
  · have hn : ¬ 0 < v := not_lt.mpr hv.le
    rw [if_neg (by rw [gt_iff_lt, zero_lt_iff_of_value? h]; exact hn),
      if_pos ((lt_zero_iff_of_value? h).mpr hv)]
    simp [hn, hv, hv.ne]
  · rw [if_neg (by rw [gt_iff_lt, zero_lt_iff_of_value? h]; simp),
      if_neg (by rw [lt_zero_iff_of_value? h]; simp)]
    simp
  · rw [if_pos (by rw [gt_iff_lt, zero_lt_iff_of_value? h]; exact hv)]
    simp [hv, not_lt.mpr hv.le, hv.ne']

end Insert

/-! ## Least and greatest values -/

section Extremes

/-- The least of two finite numbers is worth one of them, and at most both. -/
lemma value?_minNum {l x : Float} {lo v : ℚ} (hl : value? l = some lo) (hx : value? x = some v) :
    ∃ w, value? (minNum l x) = some w ∧ (w = lo ∨ w = v) ∧ w ≤ lo ∧ w ≤ v := by
  obtain ⟨-, h₁, h₂⟩ := minNum_of_isFinite (isFinite_of_value? hl) (isFinite_of_value? hx)
  rcases @chooseBy_eq_or_eq _ _ rank l x with h | h <;> rw [← minNum_eq_chooseBy] at h <;>
    rw [h] at h₁ h₂ ⊢
  · exact ⟨lo, hl, Or.inl rfl, le_rfl, value?_le_of_rank_le hl hx h₂⟩
  · exact ⟨v, hx, Or.inr rfl, value?_le_of_rank_le hx hl h₁, le_rfl⟩

/-- The greatest of two finite numbers is worth one of them, and at least both. -/
lemma value?_maxNum {u x : Float} {hi v : ℚ} (hu : value? u = some hi) (hx : value? x = some v) :
    ∃ w, value? (maxNum u x) = some w ∧ (w = hi ∨ w = v) ∧ hi ≤ w ∧ v ≤ w := by
  obtain ⟨-, h₁, h₂⟩ := maxNum_of_isFinite (isFinite_of_value? hu) (isFinite_of_value? hx)
  rcases @chooseBy_eq_or_eq _ _ (fun z => OrderDual.toDual (rank z)) u x with h | h <;>
    rw [← maxNum_eq_chooseBy] at h <;> rw [h] at h₁ h₂ ⊢
  · exact ⟨hi, hu, Or.inl rfl, le_rfl, value?_le_of_rank_le hx hu h₂⟩
  · exact ⟨v, hx, Or.inr rfl, value?_le_of_rank_le hu hx h₁, le_rfl⟩

/-- Least values of two lists give the least value of both, whichever is smaller. -/
lemma isLeast_append {vs ws : List ℚ} {lo lo' w : ℚ} (h : IsLeast {v | v ∈ vs} lo)
    (h' : IsLeast {v | v ∈ ws} lo') (hw : w = lo ∨ w = lo') (hw₁ : w ≤ lo) (hw₂ : w ≤ lo') :
    IsLeast {v | v ∈ vs ++ ws} w := by
  refine ⟨?_, fun v hv => ?_⟩
  · rcases hw with rfl | rfl
    · exact List.mem_append_left ws h.1
    · exact List.mem_append_right vs h'.1
  · rcases List.mem_append.mp hv with hv | hv
    · exact hw₁.trans (h.2 hv)
    · exact hw₂.trans (h'.2 hv)

/-- Greatest values of two lists give the greatest value of both, whichever is larger. -/
lemma isGreatest_append {vs ws : List ℚ} {hi hi' w : ℚ} (h : IsGreatest {v | v ∈ vs} hi)
    (h' : IsGreatest {v | v ∈ ws} hi') (hw : w = hi ∨ w = hi') (hw₁ : hi ≤ w) (hw₂ : hi' ≤ w) :
    IsGreatest {v | v ∈ vs ++ ws} w := by
  refine ⟨?_, fun v hv => ?_⟩
  · rcases hw with rfl | rfl
    · exact List.mem_append_left ws h.1
    · exact List.mem_append_right vs h'.1
  · rcases List.mem_append.mp hv with hv | hv
    · exact (h.2 hv).trans hw₁
    · exact (h'.2 hv).trans hw₂

/-- The bounds of two sketches combine into the bounds of the values of both. -/
lemma Extremes.combine {lo₁ hi₁ lo₂ hi₂ : Option Float} {vs ws : List ℚ}
    (h₁ : Extremes lo₁ hi₁ vs) (h₂ : Extremes lo₂ hi₂ ws) :
    Extremes (combine minNum lo₁ lo₂) (combine maxNum hi₁ hi₂) (vs ++ ws) := by
  rcases h₁ with ⟨rfl, rfl, rfl⟩ | ⟨l₁, u₁, lo, hi, rfl, rfl, hl₁, hu₁, hlo, hhi⟩ <;>
    rcases h₂ with ⟨rfl, rfl, rfl⟩ | ⟨l₂, u₂, lo', hi', rfl, rfl, hl₂, hu₂, hlo', hhi'⟩
  · exact Or.inl ⟨rfl, rfl, rfl⟩
  · exact Or.inr ⟨l₂, u₂, lo', hi', rfl, rfl, hl₂, hu₂, by simpa using hlo', by simpa using hhi'⟩
  · exact Or.inr ⟨l₁, u₁, lo, hi, rfl, rfl, hl₁, hu₁, by simpa using hlo, by simpa using hhi⟩
  · obtain ⟨w, hw, hw', hw₁, hw₂⟩ := value?_minNum hl₁ hl₂
    obtain ⟨z, hz, hz', hz₁, hz₂⟩ := value?_maxNum hu₁ hu₂
    exact Or.inr ⟨_, _, w, z, rfl, rfl, hw, hz, isLeast_append hlo hlo' hw' hw₁ hw₂,
      isGreatest_append hhi hhi' hz' hz₁ hz₂⟩

/-- A finite number is the least and the greatest of its own value. -/
lemma extremes_singleton {x : Float} {v : ℚ} (h : value? x = some v) :
    Extremes (some x) (some x) [v] :=
  Or.inr ⟨x, x, v, v, rfl, rfl, h, h, by simp [IsLeast, lowerBounds],
    by simp [IsGreatest, upperBounds]⟩

end Extremes

/-! ## Summaries kept by insertion and merging -/

section Summary

variable {K : ℚ → Int} {a : Float} {s t u : QuantileSketch} {vs ws : List ℚ}

lemma summarizes_empty (K : ℚ → Int) (a : Float) : Summarizes K a (empty a) [] :=
  ⟨rfl, rfl, rfl, rfl, rfl, Or.inl ⟨rfl, rfl, rfl⟩⟩

/-- Inserting a number whose positive magnitudes get the buckets `K` gives of their values adds
its value to the summary. -/
lemma Summarizes.insertWith (h : Summarizes K a s vs) {key : Float → Int}
    (hkey : ∀ x v, value? x = some v → 0 < v → key x = K v) (x : Float) :
    Summarizes K a (s.insertWith key x) (vs ++ (value? x).toList) := by
  cases hx : value? x with
  | none => simpa [insertWith_of_value?_none hx] using h
  | some v =>
    rw [insertWith_of_value? hx]
    have hneg : value? (-x) = some (-v) := by rw [value?_neg, hx]; rfl
    refine ⟨h.accuracy, ?_, ?_, ?_, ?_, h.extremes.combine (extremes_singleton hx)⟩
    · simp [h.count]
    · by_cases hv : v = 0 <;> simp [h.zeroCount, hv]
    · by_cases hv : 0 < v
      · simp [h.positive, hv, List.filter_append, Tally.ofKeys_append_singleton, hkey x v hx hv]
      · simp [h.positive, hv, List.filter_append]
    · by_cases hv : v < 0
      · simp [h.negative, hv, List.filter_append, Tally.ofKeys_append_singleton,
          hkey (-x) (-v) hneg (neg_pos.mpr hv)]
      · simp [h.negative, hv, List.filter_append]

/-- Merging two sketches adds up their summaries. -/
lemma Summarizes.merge? (hs : Summarizes K a s vs) (ht : Summarizes K a t ws)
    (h : s.merge? t = some u) : Summarizes K a u (vs ++ ws) := by
  rw [merge?_of_accuracy (hs.accuracy.trans ht.accuracy.symm), Option.some.injEq] at h
  subst h
  refine ⟨hs.accuracy, ?_, ?_, ?_, ?_, hs.extremes.combine ht.extremes⟩
  · simp [hs.count, ht.count]
  · simp [hs.zeroCount, ht.zeroCount, List.count_append]
  · simp [hs.positive, ht.positive, Tally.merge_ofKeys, List.filter_append]
  · simp [hs.negative, ht.negative, Tally.merge_ofKeys, List.filter_append]

/-- Every sketch of a list of numbers summarizes the values of its finite numbers, when the
bucket a sketch of accuracy `a` gives a positive magnitude is `K` of its value. -/
theorem sketchOf_summarizes {key : QuantileSketch → Float → Int} {xs : List Float}
    (hkey : ∀ s, s.accuracy = a → ∀ x v, value? x = some v → 0 < v → key s x = K v)
    (h : SketchOf key a s xs) : Summarizes K a s (finiteValues xs) := by
  induction h with
  | empty => exact summarizes_empty K a
  | insert x _ ih =>
    rw [finiteValues_append, finiteValues_singleton]
    exact ih.insertWith (hkey _ ih.accuracy) x
  | merge _ _ hu ihs iht =>
    rw [finiteValues_append]
    exact ihs.merge? iht hu

end Summary

end QuantileSketch

end DataQuality
