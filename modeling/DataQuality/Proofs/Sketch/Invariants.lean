import Mathlib
import DataQuality.Proofs.Sketch.Accuracy

/-!
# Representation invariants of the sketches

A quantile sketch grown from empty sketches by inserting numbers and merging (`SketchOf`) counts
the values of its finite numbers (`QuantileSketch.Counts`), whatever buckets its numbers went
to: its tallies are the tallies of one key per positive and per negative value.  Its 64-bit
counters are exact while fewer than `2^64` values are counted, and then the sketch keeps the
invariants `quantile?` relies on (`QuantileSketch.Invariant`): the count is that of the zeros and
the buckets, no bucket is empty, the least and greatest numbers are absent exactly when nothing
is counted and otherwise are the least and greatest values, in order, and the walk of
`quantile?` to a rank below the count always stops at a cell, never reaching its fallback.  A
merge adds the counters with no check, so a sketch merged with copies of itself past `2^64`
numbers wraps: its count and its buckets can fall to zero while its bounds stay.

A distinct-count sketch grown from empty sketches by insertions and merges that pass the check
of `merge?` (`DistinctSketch.Grown`) holds a precision `p` in `[4, 18]`, `2^p` registers and no
register above `65 - p` (`DistinctSketch.WellFormed`), so every text has its register and an
insertion always raises it (`DistinctSketch.WellFormed.insert_raises`).
-/

namespace DataQuality
open Decimal

namespace QuantileSketch

/-- A key has an entry in the tally of a list of keys exactly when it is in the list. -/
lemma Tally.mem_keys_ofKeys {ks : List Int} {k : Int} :
    k ∈ (Tally.ofKeys ks).entries.map Prod.fst ↔ k ∈ ks := by
  constructor
  · intro hk
    obtain ⟨⟨k', n⟩, he, rfl⟩ := List.mem_map.mp hk
    have hl := (Tally.mem_iff_lookup (Tally.ascending_ofKeys ks)).mp he
    rw [Tally.lookup_ofKeys] at hl
    split_ifs at hl with hk'
    exact hk'
  · intro hk
    obtain ⟨n, hn⟩ := Tally.exists_mem_ofKeys hk
    exact List.mem_map.mpr ⟨_, hn, rfl⟩

/-- In the tally of fewer than `2^64` keys, an entry holds the number of times its key is listed. -/
lemma Tally.toNat_of_mem_ofKeys {ks : List Int} (hks : ks.length < 2 ^ 64) {e : Int × UInt64}
    (he : e ∈ (Tally.ofKeys ks).entries) : e.2.toNat = ks.count e.1 := by
  rw [Tally.count_of_mem_ofKeys he,
    UInt64.toNat_ofNat_of_lt' (lt_of_le_of_lt List.count_le_length hks)]

/-- The counts of the tally of fewer than `2^64` keys add up to the number of keys. -/
lemma Tally.sum_toNat_ofKeys {ks : List Int} (hks : ks.length < 2 ^ 64) :
    ((Tally.ofKeys ks).entries.map (·.2.toNat)).sum = ks.length := by
  have hkeys : ((Tally.ofKeys ks).entries.map Prod.fst).toFinset = ks.toFinset := by
    ext k
    simp only [List.mem_toFinset, Tally.mem_keys_ofKeys]
  have hmap : (Tally.ofKeys ks).entries.map (·.2.toNat) =
      ((Tally.ofKeys ks).entries.map Prod.fst).map ks.count := by
    rw [List.map_map]
    exact List.map_congr_left fun e he => Tally.toNat_of_mem_ofKeys hks he
  rw [hmap, ← List.sum_toFinset _ (Tally.nodup_keys (Tally.ascending_ofKeys ks)), hkeys,
    List.sum_toFinset_count_eq_length]

/-- Every entry of the tally of fewer than `2^64` keys counts at least one. -/
lemma Tally.pos_of_mem_ofKeys {ks : List Int} (hks : ks.length < 2 ^ 64) {e : Int × UInt64}
    (he : e ∈ (Tally.ofKeys ks).entries) : 0 < e.2.toNat := by
  rw [Tally.toNat_of_mem_ofKeys hks he, List.count_pos_iff]
  exact Tally.mem_keys_ofKeys.mp (List.mem_map_of_mem he)

/-! ## What a sketch counts, whatever its buckets -/

/-- What a sketch keeps of the values `vs` it has counted, whatever buckets its numbers went to:
their number, their zeros, one key for each positive and for each negative value, and the least
and the greatest value. -/
structure Counts (s : QuantileSketch) (vs : List ℚ) : Prop where
  count : s.count = UInt64.ofNat vs.length
  zeroCount : s.zeroCount = UInt64.ofNat (vs.count 0)
  positive : ∃ ks : List Int, s.positive = Tally.ofKeys ks ∧ ks.length = (vs.filter (0 < ·)).length
  negative : ∃ ks : List Int, s.negative = Tally.ofKeys ks ∧ ks.length = (vs.filter (· < 0)).length
  extremes : Extremes s.min s.max vs

/-- A merge that succeeds adds the two sketches field by field. -/
lemma merge?_eq_some {s t u : QuantileSketch} (h : s.merge? t = some u) :
    u = { s with
      positive := s.positive.merge t.positive
      negative := s.negative.merge t.negative
      zeroCount := s.zeroCount + t.zeroCount
      count := s.count + t.count
      min := combine minNum s.min t.min
      max := combine maxNum s.max t.max } := by
  unfold merge? at h
  split_ifs at h
  exact (Option.some.inj h).symm

section Counts

variable {s t u : QuantileSketch} {vs ws : List ℚ}

lemma counts_empty (a : Float) : Counts (empty a) [] :=
  ⟨rfl, rfl, ⟨[], rfl, rfl⟩, ⟨[], rfl, rfl⟩, Or.inl ⟨rfl, rfl, rfl⟩⟩

/-- Inserting a number, into whatever bucket, adds its value to what a sketch counts. -/
lemma Counts.insertWith (h : Counts s vs) (key : Float → Int) (x : Float) :
    Counts (s.insertWith key x) (vs ++ (value? x).toList) := by
  cases hx : value? x with
  | none => simpa [insertWith_of_value?_none hx] using h
  | some v =>
    rw [insertWith_of_value? hx]
    obtain ⟨ps, hps, hpl⟩ := h.positive
    obtain ⟨ns, hns, hnl⟩ := h.negative
    refine ⟨?_, ?_, ?_, ?_, h.extremes.combine (extremes_singleton hx)⟩
    · simp [h.count]
    · by_cases hv : v = 0 <;> simp [h.zeroCount, hv]
    · by_cases hv : 0 < v
      · exact ⟨ps ++ [key x], by simp [hps, hv, Tally.ofKeys_append_singleton],
          by simp [hpl, hv, List.filter_append]⟩
      · exact ⟨ps, by simp [hps, hv], by simp [hpl, hv, List.filter_append]⟩
    · by_cases hv : v < 0
      · exact ⟨ns ++ [key (-x)], by simp [hns, hv, Tally.ofKeys_append_singleton],
          by simp [hnl, hv, List.filter_append]⟩
      · exact ⟨ns, by simp [hns, hv], by simp [hnl, hv, List.filter_append]⟩

/-- A merge counts what both sketches count. -/
lemma Counts.merge? (hs : Counts s vs) (ht : Counts t ws) (h : s.merge? t = some u) :
    Counts u (vs ++ ws) := by
  rw [merge?_eq_some h]
  obtain ⟨ps, hps, hpl⟩ := hs.positive
  obtain ⟨ns, hns, hnl⟩ := hs.negative
  obtain ⟨ps', hps', hpl'⟩ := ht.positive
  obtain ⟨ns', hns', hnl'⟩ := ht.negative
  refine ⟨?_, ?_, ⟨ps ++ ps', ?_, ?_⟩, ⟨ns ++ ns', ?_, ?_⟩, hs.extremes.combine ht.extremes⟩
  · simp [hs.count, ht.count]
  · simp [hs.zeroCount, ht.zeroCount, List.count_append]
  · simp [hps, hps', Tally.merge_ofKeys]
  · simp [hpl, hpl', List.filter_append]
  · simp [hns, hns', Tally.merge_ofKeys]
  · simp [hnl, hnl', List.filter_append]

/-- Every sketch of a list of numbers counts the values of its finite numbers, whatever its key
function. -/
theorem sketchOf_counts {key : QuantileSketch → Float → Int} {a : Float} {xs : List Float}
    (h : SketchOf key a s xs) : Counts s (finiteValues xs) := by
  induction h with
  | empty => exact counts_empty a
  | insert x _ ih =>
    rw [finiteValues_append, finiteValues_singleton]
    exact ih.insertWith _ x
  | merge _ _ hu ihs iht =>
    rw [finiteValues_append]
    exact ihs.merge? iht hu

end Counts

/-! ## Invariants of the sketches of fewer than `2^64` numbers -/

/-- A list of values is its zeros, its positive values and its negative values. -/
lemma length_eq_count_zero_add (vs : List ℚ) :
    vs.length = vs.count 0 + (vs.filter (0 < ·)).length + (vs.filter (· < 0)).length := by
  induction vs with
  | nil => rfl
  | cons v vs ih =>
    rcases lt_trichotomy v 0 with hv | rfl | hv
    · simp [hv, hv.ne, not_lt.mpr hv.le, ih]
      omega
    · simp [ih]
      omega
    · simp [hv, hv.ne', not_lt.mpr hv.le, ih]
      omega

/-- A walk whose cells count past the rank, from a running count not yet past it and with no
wrap, stops at some cell. -/
lemma firstPast_isSome {α : Type} {rank : UInt64} :
    ∀ {seen : UInt64} {l : List (α × UInt64)}, seen.toNat ≤ rank.toNat →
      rank.toNat < seen.toNat + (l.map (·.2.toNat)).sum →
      seen.toNat + (l.map (·.2.toNat)).sum < 2 ^ 64 → (firstPast rank seen l).isSome
  | seen, [], hle, hlt, _ => by simp at hlt; omega
  | seen, (v, n) :: rest, hle, hlt, htop => by
    simp only [List.map_cons, List.sum_cons] at hlt htop
    have hadd : (seen + n).toNat = seen.toNat + n.toNat := by
      rw [UInt64.toNat_add]
      exact Nat.mod_eq_of_lt (by omega)
    simp only [firstPast]
    split_ifs with hpast
    · rfl
    · -- the count after this cell is still not past the rank
      rw [gt_iff_lt, UInt64.lt_iff_toNat_lt, hadd, not_lt] at hpast
      exact firstPast_isSome (by rw [hadd]; exact hpast) (by omega) (by omega)

/-- The cells of a sketch count its zeros and the counts of its buckets. -/
lemma sum_cells {α : Type} [Neg α] [OfNat α 0] (value : Int → α) (s : QuantileSketch) :
    ((cells value s).map (·.2.toNat)).sum = (s.negative.entries.map (·.2.toNat)).sum +
      s.zeroCount.toNat + (s.positive.entries.map (·.2.toNat)).sum := by
  simp [cells, List.sum_reverse, Function.comp_def, Nat.add_assoc]

/-- What a sketch of fewer than `2^64` numbers keeps, with `vs` the values of its finite
numbers: its count is that of its zeros and of its buckets, each bucket counts at least one
number, the least and greatest numbers are absent exactly when nothing is counted and otherwise
are in order, worth the least and the greatest value; and the walk of `quantile?` to any rank below
the count stops at a cell before its end. -/
structure Invariant (s : QuantileSketch) (vs : List ℚ) : Prop where
  count_eq_sum : s.count.toNat = s.zeroCount.toNat + (s.positive.entries.map (·.2.toNat)).sum +
    (s.negative.entries.map (·.2.toNat)).sum
  bucket_pos : ∀ e ∈ s.positive.entries ++ s.negative.entries, 0 < e.2.toNat
  min_eq_none_iff : s.min = none ↔ s.count = 0
  max_eq_none_iff : s.max = none ↔ s.count = 0
  bounds : s.count ≠ 0 → ∃ l u lo hi, s.min = some l ∧ s.max = some u ∧ l ≤ u ∧
    value? l = some lo ∧ value? u = some hi ∧ IsLeast {v | v ∈ vs} lo ∧ IsGreatest {v | v ∈ vs} hi
  walk_finds : ∀ r : UInt64, r < s.count → (firstPast r 0 (cells s.bucketValue s)).isSome

section Invariant

variable {s : QuantileSketch} {vs : List ℚ}

/-- The least number is absent exactly when there is no value. -/
lemma Extremes.eq_none_iff_left {lo? hi? : Option Float} (h : Extremes lo? hi? vs) :
    lo? = none ↔ vs = [] := by
  rcases h with ⟨rfl, rfl, -⟩ | ⟨l, u, lo, hi, rfl, -, -, -, hleast, -⟩
  · simp
  · simpa using List.ne_nil_of_mem hleast.1

/-- The greatest number is absent exactly when there is no value. -/
lemma Extremes.eq_none_iff_right {lo? hi? : Option Float} (h : Extremes lo? hi? vs) :
    hi? = none ↔ vs = [] := by
  rcases h with ⟨rfl, -, rfl⟩ | ⟨l, u, lo, hi, -, rfl, -, -, -, hgreatest⟩
  · simp
  · simpa using List.ne_nil_of_mem hgreatest.1

/-- Finite numbers worth values in order are in order. -/
lemma le_of_value? {l u : Float} {lo hi : ℚ} (hl : value? l = some lo) (hu : value? u = some hi)
    (h : lo ≤ hi) : l ≤ u := by
  rw [le_iff_rank (isNaN_of_isFinite (isFinite_of_value? hl))
    (isNaN_of_isFinite (isFinite_of_value? hu))]
  exact not_lt.mp fun hlt => absurd (value?_lt_of_rank_lt hu hl hlt) (not_lt.mpr h)

/-- A sketch counts nothing exactly when it counts no value. -/
lemma Counts.count_eq_zero_iff (h : Counts s vs) (hn : vs.length < 2 ^ 64) :
    s.count = 0 ↔ vs = [] := by
  rw [h.count, ← List.length_eq_zero_iff, ← UInt64.toNat_inj, UInt64.toNat_ofNat_of_lt' hn]
  rfl

lemma Counts.count_toNat_eq_sum (h : Counts s vs) (hn : vs.length < 2 ^ 64) :
    s.count.toNat = s.zeroCount.toNat + (s.positive.entries.map (·.2.toNat)).sum +
      (s.negative.entries.map (·.2.toNat)).sum := by
  obtain ⟨ps, hps, hpl⟩ := h.positive
  obtain ⟨ns, hns, hnl⟩ := h.negative
  have hpos : (vs.filter (0 < ·)).length ≤ vs.length := List.length_filter_le _ _
  have hneg : (vs.filter (· < 0)).length ≤ vs.length := List.length_filter_le _ _
  have hzero : vs.count 0 ≤ vs.length := List.count_le_length
  have hsize : UInt64.size = 2 ^ 64 := rfl
  rw [h.count, h.zeroCount, hps, hns, Tally.sum_toNat_ofKeys (by omega),
    Tally.sum_toNat_ofKeys (by omega), UInt64.toNat_ofNat_of_lt' hn,
    UInt64.toNat_ofNat_of_lt' (by omega), hpl, hnl]
  exact length_eq_count_zero_add vs

lemma Counts.bucket_pos (h : Counts s vs) (hn : vs.length < 2 ^ 64) :
    ∀ e ∈ s.positive.entries ++ s.negative.entries, 0 < e.2.toNat := by
  obtain ⟨ps, hps, hpl⟩ := h.positive
  obtain ⟨ns, hns, hnl⟩ := h.negative
  have hpos : (vs.filter (0 < ·)).length ≤ vs.length := List.length_filter_le _ _
  have hneg : (vs.filter (· < 0)).length ≤ vs.length := List.length_filter_le _ _
  intro e he
  rcases List.mem_append.mp he with he | he
  · rw [hps] at he
    exact Tally.pos_of_mem_ofKeys (by omega) he
  · rw [hns] at he
    exact Tally.pos_of_mem_ofKeys (by omega) he

/-- The walk to a rank below the count stops at a cell: the cells count every number, with no
wrap. -/
lemma Counts.walk_finds (h : Counts s vs) (hn : vs.length < 2 ^ 64) {α : Type} [Neg α]
    [OfNat α 0] (value : Int → α) {r : UInt64} (hr : r < s.count) :
    (firstPast r 0 (cells value s)).isSome := by
  have hsum := h.count_toNat_eq_sum hn
  have hcount : s.count.toNat < 2 ^ 64 := s.count.toNat_lt
  rw [UInt64.lt_iff_toNat_lt] at hr
  refine firstPast_isSome (by simp) ?_ ?_ <;> rw [sum_cells, UInt64.toNat_zero] <;> omega

/-- Every sketch that counts fewer than `2^64` values keeps the invariants. -/
theorem Counts.invariant (h : Counts s vs) (hn : vs.length < 2 ^ 64) : Invariant s vs := by
  have hzero := h.count_eq_zero_iff hn
  refine ⟨h.count_toNat_eq_sum hn, h.bucket_pos hn, ?_, ?_, fun hc => ?_,
    fun r hr => h.walk_finds hn s.bucketValue hr⟩
  · rw [h.extremes.eq_none_iff_left, hzero]
  · rw [h.extremes.eq_none_iff_right, hzero]
  · rcases h.extremes with ⟨rfl, -, -⟩ | ⟨l, u, lo, hi, hl, hu, hlo, hhi, hleast, hgreatest⟩
    · exact absurd (hzero.mpr rfl) hc
    · exact ⟨l, u, lo, hi, hl, hu, le_of_value? hlo hhi (hleast.2 hgreatest.1), hlo, hhi, hleast,
        hgreatest⟩

end Invariant

end QuantileSketch
namespace DistinctSketch

/-- The distinct-count sketches grown from empty sketches, of any precision, by inserting texts
and by merging two grown sketches that pass the check of `merge?`. -/
inductive Grown : DistinctSketch → Prop
  | empty (p : UInt8) : Grown (empty p)
  | insert {s : DistinctSketch} (text : String) : Grown s → Grown (s.insert text)
  | merge {s t u : DistinctSketch} : Grown s → Grown t → s.merge? t = some u → Grown u

/-- A precision `p` in `[4, 18]`, `2^p` registers, and no register above `65 - p`, the greatest
rank a hash offers at that precision. -/
structure WellFormed (s : DistinctSketch) : Prop where
  precision_ge : 4 ≤ s.precision.toNat
  precision_le : s.precision.toNat ≤ 18
  size_registers : s.registers.size = 2 ^ s.precision.toNat
  register_le : ∀ r ∈ s.registers, r.toNat ≤ 65 - s.precision.toNat

variable {s t u : DistinctSketch}

/-- The greater of two registers under a bound is under it. -/
lemma toNat_max_le {a b : UInt8} {n : Nat} (ha : a.toNat ≤ n) (hb : b.toNat ≤ n) :
    (max a b).toNat ≤ n := by
  simp only [max]
  split_ifs
  · exact hb
  · exact ha

/-- The empty sketch holds its precision between 4 and 18 and has `2^p` zero registers. -/
lemma wellFormed_empty (p : UInt8) : (empty p).WellFormed := by
  have hp : 4 ≤ (empty p).precision.toNat ∧ (empty p).precision.toNat ≤ 18 := by
    simp only [empty]
    split_ifs with h₁ h₂
    · decide
    · decide
    · simp only [UInt8.lt_iff_toNat_lt, not_lt] at h₁ h₂
      exact ⟨h₁, h₂⟩
  refine ⟨hp.1, hp.2, by simp [empty, Nat.pow_eq], fun r hr => ?_⟩
  simp only [empty, Array.mem_replicate] at hr
  rw [hr.2]
  exact Nat.zero_le _

/-- The register a text lands in is below `2^p`: the top `p` bits of a 64-bit hash. -/
lemma slot_fst_lt {p : UInt8} (hp₁ : 4 ≤ p.toNat) (hp₂ : p.toNat ≤ 18) (text : String) :
    (slot p text).1 < 2 ^ p.toNat := by
  have hshift : ((64 - p.toNat).toUInt64).toNat % 64 = 64 - p.toNat := by
    rw [Nat.toUInt64_eq, UInt64.toNat_ofNat']
    omega
  -- the top `p` bits of the hash are the hash divided by `2^(64 - p)`
  have hhash : (hash text).toNat < 2 ^ (64 - p.toNat) * 2 ^ p.toNat := by
    rw [← Nat.pow_add, show 64 - p.toNat + p.toNat = 64 by omega]
    exact (hash text).toNat_lt
  simp only [slot]
  rw [UInt64.toNat_shiftRight, hshift, Nat.shiftRight_eq_div_pow]
  exact Nat.div_lt_of_lt_mul hhash

/-- The rank a text offers at precision `p` is at most `65 - p`. -/
lemma slot_snd_le {p : UInt8} (hp : p.toNat ≤ 64) (text : String) :
    (slot p text).2.toNat ≤ 65 - p.toNat := by
  simp only [slot]
  rw [UInt8.toNat_ofNat']
  exact (Nat.mod_le _ _).trans ((Nat.min_le_right _ _).trans (by omega))

namespace WellFormed

/-- A well-formed sketch has a register for every text. -/
lemma slot_lt (hs : s.WellFormed) (text : String) :
    (slot s.precision text).1 < s.registers.size :=
  hs.size_registers ▸ slot_fst_lt hs.precision_ge hs.precision_le text

/-- Inserting a text keeps a sketch well formed. -/
lemma insert (hs : s.WellFormed) (text : String) : (s.insert text).WellFormed := by
  rw [insert_eq_modify]
  refine ⟨hs.precision_ge, hs.precision_le, by rw [Array.size_modify, hs.size_registers],
    fun r hr => ?_⟩
  obtain ⟨i, hi, rfl⟩ := Array.mem_iff_getElem.mp hr
  rw [Array.getElem_modify]
  have hi' : i < s.registers.size := by simpa using hi
  have hle := hs.register_le _ (Array.getElem_mem hi')
  split_ifs
  · exact toNat_max_le hle (slot_snd_le (by have := hs.precision_le; omega) _)
  · exact hle

/-- A merge of two well-formed sketches that passes the check is well formed. -/
lemma merge? (hs : s.WellFormed) (ht : t.WellFormed) (h : s.merge? t = some u) :
    u.WellFormed := by
  unfold DistinctSketch.merge? at h
  split_ifs at h with hsame
  cases h
  simp only [Bool.and_eq_true, beq_iff_eq] at hsame
  refine ⟨hs.precision_ge, hs.precision_le,
    by rw [Array.size_zipWith, ← hsame.2, Nat.min_self, hs.size_registers], fun r hr => ?_⟩
  obtain ⟨i, hi, rfl⟩ := Array.mem_iff_getElem.mp hr
  simp only [Array.size_zipWith] at hi
  rw [Array.getElem_zipWith]
  refine toNat_max_le (hs.register_le _ (Array.getElem_mem _)) ?_
  rw [hsame.1]
  exact ht.register_le _ (Array.getElem_mem _)

/-- Inserting a text into a well-formed sketch raises its register to the rank the text offers:
the register is there, so the update is never lost. -/
lemma insert_raises (hs : s.WellFormed) (text : String) :
    ∃ r, s.registers[(slot s.precision text).1]? = some r ∧
      (s.insert text).registers[(slot s.precision text).1]? =
        some (max r (slot s.precision text).2) := by
  have hlt := hs.slot_lt text
  refine ⟨_, Array.getElem?_eq_getElem hlt, ?_⟩
  rw [insert_eq_modify, Array.getElem?_modify, Array.getElem?_eq_getElem hlt]
  simp

end WellFormed

/-- Every grown sketch is well formed. -/
theorem Grown.wellFormed (h : s.Grown) : s.WellFormed := by
  induction h with
  | empty p => exact wellFormed_empty p
  | insert text _ ih => exact ih.insert text
  | merge _ _ hu ihs iht => exact ihs.merge? iht hu

end DistinctSketch


/-- Quantile sketches grown by insertions and merges that have counted fewer than `2^64` numbers
keep their invariants, with `finiteValues xs` the values of the numbers inserted; distinct-count
sketches grown by insertions and merges are well formed, with a register for every text that an
insertion raises to the rank the text offers. -/
theorem sketches_keep_invariants {key : QuantileSketch → Float → Int} {a : Float}
    {s : QuantileSketch} {xs : List Float} (hs : QuantileSketch.SketchOf key a s xs)
    (hn : (QuantileSketch.finiteValues xs).length < 2 ^ 64) {d : DistinctSketch}
    (hd : d.Grown) :
    s.Invariant (QuantileSketch.finiteValues xs) ∧ d.WellFormed ∧
      ∀ text, ∃ r, d.registers[(DistinctSketch.slot d.precision text).1]? = some r ∧
        (d.insert text).registers[(DistinctSketch.slot d.precision text).1]? =
          some (max r (DistinctSketch.slot d.precision text).2) :=
  ⟨(QuantileSketch.sketchOf_counts hs).invariant hn, hd.wellFormed, hd.wellFormed.insert_raises⟩

/-- The sketch of the number one at accuracy 1%, and the empty distinct-count sketch of the
default precision. -/
theorem sketches_keep_invariants_oneNumber :
    QuantileSketch.SketchOf (fun s => s.bucket) 0.01 QuantileSketch.oneSketch [1] ∧
      (QuantileSketch.finiteValues [1]).length < 2 ^ 64 ∧
      (DistinctSketch.empty DistinctSketch.defaultPrecision).Grown ∧
      QuantileSketch.oneSketch.Invariant (QuantileSketch.finiteValues [1]) ∧
      (DistinctSketch.empty DistinctSketch.defaultPrecision).WellFormed ∧
      ∀ text, ∃ r, (DistinctSketch.empty DistinctSketch.defaultPrecision).registers[
          (DistinctSketch.slot (DistinctSketch.empty DistinctSketch.defaultPrecision).precision
            text).1]? = some r ∧
        ((DistinctSketch.empty DistinctSketch.defaultPrecision).insert text).registers[
          (DistinctSketch.slot (DistinctSketch.empty DistinctSketch.defaultPrecision).precision
            text).1]? =
          some (max r (DistinctSketch.slot
            (DistinctSketch.empty DistinctSketch.defaultPrecision).precision text).2) := by
  have hs : QuantileSketch.SketchOf (fun s => s.bucket) 0.01 QuantileSketch.oneSketch [1] :=
    QuantileSketch.SketchOf.insert 1 QuantileSketch.SketchOf.empty
  have hn : (QuantileSketch.finiteValues [1]).length < 2 ^ 64 := by
    simp [QuantileSketch.finiteValues, value?_one]
  have hd := DistinctSketch.Grown.empty DistinctSketch.defaultPrecision
  exact ⟨hs, hn, hd, sketches_keep_invariants hs hn hd⟩

end DataQuality
