import Mathlib
import DataQuality.Proofs.Scan.Counters
import DataQuality.Proofs.Frequencies.Key

/-!
# Histograms

The histogram of a one-column frequency table has a bin for each counted value, with its count,
and one more for the rows whose value is null, if there are any.  Sorted by falling count and then
by label, the first bins are kept, each with its share of the rows, and collected by label; the
number of bins counts the dropped ones too.

The bins kept are described without the sort: a bin is kept exactly when fewer bins than the
limit go strictly before it.  This needs the labels to be distinct.  A counted value can be the
text the null bin is labelled with, and then two bins share a label: collecting them by label
keeps only one, while the number of bins counts both.  So the description below assumes that the
label of the null bin is not also a counted value whenever there are null rows.

Main statement: `histogram_keeps_first_bins`.
-/

namespace DataQuality

open Decimal

/-! ## The first elements of a strictly ordered list -/

section Rank

variable {α : Type} {R : α → α → Prop} [DecidableRel R]

/-- In a list ordered strictly by an irreflexive, asymmetric relation, an element stands among the
first `k` exactly when fewer than `k` elements go before it. -/
lemma mem_take_iff_countP_lt {l : List α} (hl : l.Pairwise R) (hirr : ∀ x, ¬ R x x)
    (hasymm : ∀ x y, R x y → ¬ R y x) {x : α} (hx : x ∈ l) (k : Nat) :
    x ∈ l.take k ↔ l.countP (fun y => decide (R y x)) < k := by
  obtain ⟨s, t, rfl⟩ := List.append_of_mem hx
  have hord := List.pairwise_append.mp hl
  -- what stands before `x` goes before it, and nothing after it does
  have hbefore : ∀ y ∈ s, R y x := fun y hy => hord.2.2 y hy x List.mem_cons_self
  have hafter : ∀ z ∈ t, ¬ R z x := fun z hz =>
    hasymm x z ((List.pairwise_cons.mp hord.2.1).1 z hz)
  have hcount : (s ++ x :: t).countP (fun y => decide (R y x)) = s.length := by
    rw [List.countP_append, List.countP_cons, List.countP_eq_length.mpr (by simpa using hbefore),
      List.countP_eq_zero.mpr (by simpa using hafter)]
    simp [hirr x]
  rw [hcount, List.take_append, List.mem_append]
  constructor
  · rintro (hs | ht)
    · exact absurd (hbefore x (List.mem_of_mem_take hs)) (hirr x)
    · by_contra hk
      rw [Nat.sub_eq_zero_of_le (not_lt.mp hk), List.take_zero] at ht
      exact List.not_mem_nil ht
  · intro hk
    obtain ⟨j, hj⟩ : ∃ j, k - s.length = j + 1 := ⟨k - s.length - 1, by omega⟩
    rw [hj, List.take_succ_cons]
    exact .inr List.mem_cons_self

end Rank

/-! ## The order of bins -/

/-- A bin goes strictly before another: it has the greater count, or the same count and the
smaller label. -/
def BinPrecedes (a b : String × UInt64) : Prop :=
  b.2.toNat < a.2.toNat ∨ (b.2.toNat = a.2.toNat ∧ a.1 < b.1)

instance : DecidableRel BinPrecedes := fun _ _ => inferInstanceAs (Decidable (_ ∨ _))

lemma binBefore_iff {a b : String × UInt64} :
    binBefore a b = true ↔ b.2.toNat < a.2.toNat ∨ (a.2.toNat = b.2.toNat ∧ a.1 ≤ b.1) := by
  simp only [binBefore, Bool.or_eq_true, Bool.and_eq_true, decide_eq_true_eq, beq_iff_eq,
    UInt64.lt_iff_toNat_lt, ← UInt64.toNat_inj]

lemma binBefore_trans {a b c : String × UInt64} (hab : binBefore a b = true)
    (hbc : binBefore b c = true) : binBefore a c = true := by
  rw [binBefore_iff] at *
  rcases hab with h | ⟨h, h'⟩ <;> rcases hbc with g | ⟨g, g'⟩
  · exact .inl (by omega)
  · exact .inl (by omega)
  · exact .inl (by omega)
  · exact .inr ⟨by omega, h'.trans g'⟩

lemma binBefore_total (a b : String × UInt64) : (binBefore a b || binBefore b a) = true := by
  rw [Bool.or_eq_true, binBefore_iff, binBefore_iff]
  rcases Nat.lt_trichotomy a.2.toNat b.2.toNat with h | h | h
  · exact .inr (.inl h)
  · rcases le_total a.1 b.1 with g | g
    · exact .inl (.inr ⟨h, g⟩)
    · exact .inr (.inr ⟨h.symm, g⟩)
  · exact .inl (.inl h)

/-- Of two bins with different labels, the one sorted first goes strictly before the other. -/
lemma binPrecedes_of_binBefore {a b : String × UInt64} (h : binBefore a b = true)
    (hne : a.1 ≠ b.1) : BinPrecedes a b := by
  rcases binBefore_iff.mp h with h | ⟨h, h'⟩
  · exact .inl h
  · exact .inr ⟨h.symm, lt_of_le_of_ne h' hne⟩

lemma binPrecedes_irrefl (a : String × UInt64) : ¬ BinPrecedes a a := by
  simp [BinPrecedes]

lemma binPrecedes_asymm {a b : String × UInt64} (h : BinPrecedes a b) : ¬ BinPrecedes b a := by
  rintro (g | ⟨g, g'⟩) <;> rcases h with h | ⟨h, h'⟩
  · omega
  · omega
  · omega
  · exact lt_asymm h' g'

/-- Sorting bins of distinct labels orders them strictly, so the first `k` after sorting are the
bins that fewer than `k` bins go before. -/
lemma mem_take_mergeSort_iff {bins : List (String × UInt64)} (hlabels : (bins.map Prod.fst).Nodup)
    {x : String × UInt64} (hx : x ∈ bins) (k : Nat) :
    x ∈ (bins.mergeSort binBefore).take k ↔
      bins.countP (fun y => decide (BinPrecedes y x)) < k := by
  have hperm := List.mergeSort_perm bins binBefore
  have hdistinct : (bins.mergeSort binBefore).Pairwise (fun a b => a.1 ≠ b.1) :=
    List.pairwise_map.mp ((hperm.map Prod.fst).nodup_iff.mpr hlabels)
  have hordered : (bins.mergeSort binBefore).Pairwise (fun a b => binBefore a b = true) :=
    @List.pairwise_mergeSort _ binBefore (fun _ _ _ => binBefore_trans) binBefore_total bins
  have hsorted : (bins.mergeSort binBefore).Pairwise BinPrecedes :=
    (hordered.and hdistinct).imp fun h => binPrecedes_of_binBefore h.1 h.2
  rw [mem_take_iff_countP_lt hsorted binPrecedes_irrefl (fun _ _ => binPrecedes_asymm)
    (hperm.mem_iff.mpr hx), hperm.countP_eq]

/-! ## Collecting bins by label -/

section Collect

variable {label : String} {share : BinShare}

/-- A bin put in its place is the new bin or one of those there before. -/
lemma mem_insertBin {acc : List (String × BinShare)} {y : String × BinShare}
    (hy : y ∈ histogramOf.insertBin label share acc) : y = (label, share) ∨ y ∈ acc := by
  induction acc with
  | nil => simpa [histogramOf.insertBin] using hy
  | cons z rest ih =>
    obtain ⟨l, s⟩ := z
    simp only [histogramOf.insertBin] at hy
    split_ifs at hy with hlt heq
    · exact List.mem_cons.mp hy
    · rcases List.mem_cons.mp hy with h | h
      · exact .inl h
      · exact .inr (List.mem_cons_of_mem _ h)
    · rcases List.mem_cons.mp hy with h | h
      · exact .inr (h ▸ List.mem_cons_self)
      · rcases ih h with h | h
        · exact .inl h
        · exact .inr (List.mem_cons_of_mem _ h)

/-- Putting a bin in its place keeps the bins ordered by label. -/
lemma insertBin_pairwise {acc : List (String × BinShare)} (h : acc.Pairwise (·.1 < ·.1)) :
    (histogramOf.insertBin label share acc).Pairwise (·.1 < ·.1) := by
  induction acc with
  | nil => simp [histogramOf.insertBin]
  | cons z rest ih =>
    obtain ⟨l, s⟩ := z
    obtain ⟨hl, hrest⟩ := List.pairwise_cons.mp h
    simp only [histogramOf.insertBin]
    split_ifs with hlt heq
    · -- in front of all
      refine List.Pairwise.cons ?_ h
      intro y hy
      rcases List.mem_cons.mp hy with rfl | hy
      · exact hlt
      · exact hlt.trans (hl y hy)
    · -- in place of the bin of the same label
      obtain rfl : label = l := beq_iff_eq.mp heq
      exact List.Pairwise.cons hl hrest
    · -- after the first bin
      have hgt : l < label :=
        lt_of_le_of_ne (not_lt.mp hlt) fun h => heq (beq_iff_eq.mpr h.symm)
      refine List.Pairwise.cons ?_ (ih hrest)
      intro y hy
      rcases mem_insertBin hy with rfl | hy
      · exact hgt
      · exact hl y hy

/-- A bin of a fresh label goes in among the others. -/
lemma insertBin_perm {acc : List (String × BinShare)} (hfresh : ∀ y ∈ acc, y.1 ≠ label) :
    (histogramOf.insertBin label share acc).Perm ((label, share) :: acc) := by
  induction acc with
  | nil => simp [histogramOf.insertBin]
  | cons z rest ih =>
    obtain ⟨l, s⟩ := z
    have hl : label ≠ l := fun h => hfresh _ List.mem_cons_self h.symm
    simp only [histogramOf.insertBin]
    split_ifs with hlt heq
    · exact List.Perm.refl _
    · exact absurd (beq_iff_eq.mp heq) hl
    · exact ((ih fun y hy => hfresh y (List.mem_cons_of_mem _ hy)).cons _).trans
        (List.Perm.swap _ _ _)

variable (g : UInt64 → BinShare)

/-- Collecting bins in their places keeps them ordered by label. -/
lemma foldl_insertBin_pairwise (bins : List (String × UInt64)) {acc : List (String × BinShare)}
    (h : acc.Pairwise (·.1 < ·.1)) :
    (bins.foldl (fun acc b => histogramOf.insertBin b.1 (g b.2) acc) acc).Pairwise
      (·.1 < ·.1) := by
  induction bins generalizing acc with
  | nil => exact h
  | cons b rest ih => exact ih (insertBin_pairwise h)

/-- Collecting bins of distinct labels loses none of them. -/
lemma foldl_insertBin_perm (bins : List (String × UInt64)) {acc : List (String × BinShare)}
    (hfresh : (bins.map Prod.fst ++ acc.map Prod.fst).Nodup) :
    (bins.foldl (fun acc b => histogramOf.insertBin b.1 (g b.2) acc) acc).Perm
      (bins.map (fun b => (b.1, g b.2)) ++ acc) := by
  induction bins generalizing acc with
  | nil => simp
  | cons b rest ih =>
    rw [List.map_cons, List.cons_append, List.nodup_cons] at hfresh
    have hb : ∀ y ∈ acc, y.1 ≠ b.1 := fun y hy h =>
      hfresh.1 (List.mem_append_right _ (h ▸ List.mem_map_of_mem hy))
    have hins : (histogramOf.insertBin b.1 (g b.2) acc).Perm ((b.1, g b.2) :: acc) :=
      insertBin_perm hb
    -- the labels after the first bin is in are those before, rearranged
    have hfresh' :
        (rest.map Prod.fst ++ (histogramOf.insertBin b.1 (g b.2) acc).map Prod.fst).Nodup := by
      rw [((hins.map Prod.fst).append_left _).nodup_iff, List.map_cons, List.perm_middle.nodup_iff]
      exact List.nodup_cons.mpr hfresh
    rw [List.foldl_cons, List.map_cons, List.cons_append]
    exact (ih hfresh').trans ((hins.append_left _).trans List.perm_middle)

end Collect

/-! ## The bins of a one-column table -/

namespace Frequencies

/-- The bins of the histogram of a one-column table, before they are sorted: each counted value
with its count, and the null bin with the rows whose value is null, if there are any. -/
def histogramBins (f : Frequencies) : List (String × UInt64) :=
  f.counts.entries.map (fun e => ((splitKey e.1).headD "", e.2)) ++
    if 0 < f.nullRows then [(nullBin, f.nullRows)] else []

lemma length_histogramBins (f : Frequencies) :
    f.histogramBins.length = f.distinct + if 0 < f.nullRows then 1 else 0 := by
  simp only [histogramBins, List.length_append, List.length_map, distinct, Tally.size]
  split <;> rfl

/-- The counts of the bins are those of the keys and the null rows. -/
lemma countSum_histogramBins (f : Frequencies) :
    Tally.countSum f.histogramBins = Tally.countSum f.counts.entries + f.nullRows.toNat := by
  unfold histogramBins
  split
  · simp [Tally.countSum, Function.comp_def]
  · rename_i hnone
    have hzero : f.nullRows.toNat = 0 := by
      rw [UInt64.lt_iff_toNat_lt] at hnone
      simpa using hnone
    simp [Tally.countSum, Function.comp_def, hzero]

section Counted

variable {n : Nat} {f : Frequencies}

lemma Counted.positive_histogramBins (hc : f.Counted n) : Tally.Positive f.histogramBins := by
  intro e he
  rcases List.mem_append.mp he with he | he
  · obtain ⟨e', he', rfl⟩ := List.mem_map.mp he
    exact hc.positive e' he'
  · split at he
    · rename_i hpos
      rw [List.mem_singleton.mp he]
      exact UInt64.lt_iff_toNat_lt.mp hpos
    · exact absurd he List.not_mem_nil

/-- The bins of a table that has seen fewer than `2 ^ 64` rows count all its rows. -/
lemma Counted.countSum_histogramBins (hc : f.Counted n) (hn : n < 2 ^ 64) :
    Tally.countSum f.histogramBins = f.rows.toNat := by
  have htotal := Tally.toNat_total (t := f.counts) (by have := hc.sum_le; omega)
  rw [Frequencies.countSum_histogramBins, ← hc.nullRows_add_total hn, htotal]
  omega

/-- Each bin counts a row at least, so there are at most as many bins as rows. -/
lemma Counted.length_histogramBins_le (hc : f.Counted n) (hn : n < 2 ^ 64) :
    f.histogramBins.length ≤ f.rows.toNat :=
  hc.countSum_histogramBins hn ▸ Tally.length_le_countSum hc.positive_histogramBins

end Counted

section OneColumn

open Aggregate

variable {column : String} {n : Nat} {f : Frequencies}

/-- A key of a one-column table is the key of the value read from it. -/
lemma key_eq_keyOf_value (h : KeysJoin (.frequencies [column]) (.frequencies f))
    {e : String × UInt64} (he : e ∈ f.counts.entries) :
    e.1 = keyOf [(splitKey e.1).headD ""] := by
  obtain ⟨vs, hlen, hkey⟩ := h e he
  obtain ⟨v, rfl⟩ := List.length_eq_one_iff.mp hlen
  rw [hkey, splitKey_keyOf [v] (List.cons_ne_nil _ _)]
  rfl

/-- The bins of a one-column table are its values with the counts of their keys, and the null bin
with the null rows if there are any. -/
lemma mem_histogramBins (h : KeysJoin (.frequencies [column]) (.frequencies f))
    {x : String × UInt64} :
    x ∈ f.histogramBins ↔ (keyOf [x.1], x.2) ∈ f.counts.entries ∨
      (x = (nullBin, f.nullRows) ∧ 0 < f.nullRows) := by
  have hdata : x ∈ f.counts.entries.map (fun e => ((splitKey e.1).headD "", e.2)) ↔
      (keyOf [x.1], x.2) ∈ f.counts.entries := by
    constructor
    · intro hx
      obtain ⟨e, he, rfl⟩ := List.mem_map.mp hx
      show (keyOf [(splitKey e.1).headD ""], e.2) ∈ f.counts.entries
      rw [← key_eq_keyOf_value h he]
      exact he
    · intro hx
      refine List.mem_map.mpr ⟨_, hx, ?_⟩
      rw [splitKey_keyOf [x.1] (List.cons_ne_nil _ _)]
      rfl
  rw [histogramBins, List.mem_append, hdata]
  split <;> simp [*]

/-- The labels of the bins of a one-column table are distinct, as long as the label of the null
bin is not also a counted value when there are null rows. -/
lemma histogramBins_labels_nodup (h : Accumulates (.frequencies [column]) n (.frequencies f))
    (hlabels : 0 < f.nullRows → keyOf [nullBin] ∉ f.counts.entries.map Prod.fst) :
    (f.histogramBins.map Prod.fst).Nodup := by
  have hjoin : KeysJoin (.frequencies [column]) (.frequencies f) := h.keysJoin
  have hkeys : (f.counts.entries.map Prod.fst).Nodup := Tally.nodup_keys h.conforms
  -- values of different keys differ, since each key is the key of its value
  have hvalues : (f.counts.entries.map fun e => (splitKey e.1).headD "").Nodup := by
    refine List.Nodup.map_on (fun a ha b hb hab => ?_) (hkeys.of_map Prod.fst)
    refine List.inj_on_of_nodup_map hkeys ha hb ?_
    rw [key_eq_keyOf_value hjoin ha, key_eq_keyOf_value hjoin hb, hab]
  simp only [histogramBins, List.map_append, List.map_map, Function.comp_def]
  split
  · rename_i hpos
    refine List.nodup_append.mpr ⟨hvalues, List.nodup_singleton _, ?_⟩
    intro a ha b hb hab
    obtain ⟨e, he, rfl⟩ := List.mem_map.mp ha
    rw [List.map_singleton, List.mem_singleton] at hb
    subst hb
    refine hlabels hpos (List.mem_map.mpr ⟨e, he, ?_⟩)
    rw [key_eq_keyOf_value hjoin he, hab]
  · simpa using hvalues

end OneColumn

end Frequencies

/-! ## Histograms of one-column tables -/

/-- The histogram of a table whose bins are empty when it has no rows: its bins sorted, cut at the
limit and collected by label, each with its share of the rows, and their number. -/
lemma histogramOf_eq {f : Frequencies} (hempty : f.rows = 0 → f.histogramBins = [])
    (maxBins : Nat) :
    histogramOf f maxBins =
      ⟨((f.histogramBins.mergeSort binBefore).take maxBins).foldl
          (fun acc b => histogramOf.insertBin b.1
            ⟨b.2, countToFloat b.2 / countToFloat f.rows⟩ acc) [],
        UInt64.ofNat f.histogramBins.length⟩ := by
  by_cases hrows : f.rows = 0
  · rw [hempty hrows]
    simp [histogramOf, hrows]
  · -- the histogram appends the null bin in one branch of a test, the bins append the test
    have hbins : f.histogramBins =
        if f.nullRows > 0 then
          f.counts.entries.map (fun e => ((Frequencies.splitKey e.1).headD "", e.2)) ++
            [(nullBin, f.nullRows)]
        else f.counts.entries.map fun e => ((Frequencies.splitKey e.1).headD "", e.2) := by
      simp only [Frequencies.histogramBins]
      split <;> simp
    rw [hbins]
    simp [histogramOf, hrows]

section Counted

variable {n : Nat} {f : Frequencies} (hc : f.Counted n) (hn : n < 2 ^ 64)
include hc hn

/-- A table without rows has no bins. -/
lemma Frequencies.Counted.histogramBins_eq_nil (hrows : f.rows = 0) : f.histogramBins = [] := by
  have hle := hc.length_histogramBins_le hn
  rw [hrows, UInt64.toNat_zero, Nat.le_zero, List.length_eq_zero_iff] at hle
  exact hle

/-- The number of bins of the histogram counts them all, the dropped ones too. -/
lemma toNat_bins_histogramOf (maxBins : Nat) :
    (histogramOf f maxBins).bins.toNat = f.histogramBins.length := by
  rw [histogramOf_eq (hc.histogramBins_eq_nil hn) maxBins, UInt64.toNat_ofNat',
    Nat.mod_eq_of_lt ((hc.length_histogramBins_le hn).trans_lt (hc.rows ▸ hn))]

/-- The histogram lists its bins by label. -/
lemma histogramOf_values_pairwise (maxBins : Nat) :
    (histogramOf f maxBins).values.Pairwise (·.1 < ·.1) := by
  rw [histogramOf_eq (hc.histogramBins_eq_nil hn) maxBins]
  exact foldl_insertBin_pairwise (fun m => ⟨m, countToFloat m / countToFloat f.rows⟩) _
    List.Pairwise.nil

variable (hlabels : (f.histogramBins.map Prod.fst).Nodup)
include hlabels

/-- When the bins have distinct labels, the histogram lists those kept after sorting and cutting,
each with its share of the rows. -/
lemma histogramOf_values_perm (maxBins : Nat) :
    (histogramOf f maxBins).values.Perm
      (((f.histogramBins.mergeSort binBefore).take maxBins).map
        fun b => (b.1, (⟨b.2, countToFloat b.2 / countToFloat f.rows⟩ : BinShare))) := by
  have hsorted := (List.mergeSort_perm f.histogramBins binBefore).map Prod.fst
  -- the bins kept are a part of the sorted bins, so their labels are distinct too
  have hkept : (((f.histogramBins.mergeSort binBefore).take maxBins).map Prod.fst ++
      ([] : List (String × BinShare)).map Prod.fst).Nodup := by
    rw [List.map_nil, List.append_nil]
    exact (hsorted.nodup_iff.mpr hlabels).sublist ((List.take_sublist _ _).map _)
  rw [histogramOf_eq (hc.histogramBins_eq_nil hn) maxBins]
  simpa using foldl_insertBin_perm (fun m => ⟨m, countToFloat m / countToFloat f.rows⟩) _ hkept

/-- A histogram of bins with distinct labels holds a bin exactly when it is one of the table's
bins that fewer than `maxBins` bins go before, with its share of the rows. -/
lemma mem_histogramOf_values (maxBins : Nat) {label : String} {share : BinShare} :
    (label, share) ∈ (histogramOf f maxBins).values ↔ ∃ m, (label, m) ∈ f.histogramBins ∧
      f.histogramBins.countP (fun y => decide (BinPrecedes y (label, m))) < maxBins ∧
      share = ⟨m, countToFloat m / countToFloat f.rows⟩ := by
  rw [(histogramOf_values_perm hc hn hlabels maxBins).mem_iff, List.mem_map]
  constructor
  · rintro ⟨⟨l, m⟩, hkept, heq⟩
    obtain ⟨rfl, rfl⟩ := Prod.mk.inj heq
    have hbin : (l, m) ∈ f.histogramBins :=
      (List.mergeSort_perm _ _).mem_iff.mp (List.mem_of_mem_take hkept)
    exact ⟨m, hbin, (mem_take_mergeSort_iff hlabels hbin maxBins).mp hkept, rfl⟩
  · rintro ⟨m, hbin, hrank, rfl⟩
    exact ⟨(label, m), (mem_take_mergeSort_iff hlabels hbin maxBins).mpr hrank, rfl⟩

/-- A histogram of bins with distinct labels keeps as many as the limit allows. -/
lemma length_histogramOf_values (maxBins : Nat) :
    (histogramOf f maxBins).values.length = min maxBins f.histogramBins.length := by
  rw [(histogramOf_values_perm hc hn hlabels maxBins).length_eq, List.length_map,
    List.length_take, List.length_mergeSort]

/-- A histogram that keeps all its bins, of distinct labels, counts every row. -/
lemma sum_absolute_histogramOf {maxBins : Nat} (hall : f.histogramBins.length ≤ maxBins) :
    ((histogramOf f maxBins).values.map fun b => b.2.absolute.toNat).sum = f.rows.toNat := by
  have hsorted := List.mergeSort_perm f.histogramBins binBefore
  rw [((histogramOf_values_perm hc hn hlabels maxBins).map _).sum_eq,
    List.take_of_length_le (hsorted.length_eq ▸ hall), List.map_map,
    ((hsorted.map _).sum_eq), ← hc.countSum_histogramBins hn]
  rfl

end Counted

/-! ## The histogram metric -/

open Aggregate in
/-- The histogram of a one-column table that scans and merges build over fewer than `2 ^ 64` rows,
when the label of the null bin is not also a counted value while there are null rows: its number
of bins is the number of values plus one for the null rows if there are any; it holds a value with
its count and share of the rows, or the null bin with the null rows, exactly when fewer than
`maxBins` bins go before it by count and label; it lists them by label, as many as the limit
allows; and when it keeps every bin their counts add up to the rows. -/
theorem histogram_keeps_first_bins {column : String} {n : Nat} {f : Frequencies}
    (h : Accumulates (.frequencies [column]) n (.frequencies f)) (hn : n < 2 ^ 64)
    (hlabels : 0 < f.nullRows → Frequencies.keyOf [nullBin] ∉ f.counts.entries.map Prod.fst)
    (filter : Option String) (maxBins : Nat) :
    ∃ D, Analyzer.valueFrom ⟨.histogram column maxBins, filter⟩ (.frequencies f) =
        .ok (.distribution D) ∧
      D.bins.toNat = f.distinct + (if 0 < f.nullRows then 1 else 0) ∧
      (∀ label share, (label, share) ∈ D.values ↔ ∃ m,
        ((Frequencies.keyOf [label], m) ∈ f.counts.entries ∨
          (label = nullBin ∧ m = f.nullRows ∧ 0 < f.nullRows)) ∧
        f.histogramBins.countP (fun y => decide (BinPrecedes y (label, m))) < maxBins ∧
        share = ⟨m, countToFloat m / countToFloat f.rows⟩) ∧
      D.values.Pairwise (·.1 < ·.1) ∧
      D.values.length = min maxBins f.histogramBins.length ∧
      (f.histogramBins.length ≤ maxBins →
        (D.values.map fun b => b.2.absolute.toNat).sum = f.rows.toNat) := by
  have hc : f.Counted n := h.counted hn
  have hnodup := Frequencies.histogramBins_labels_nodup h hlabels
  refine ⟨histogramOf f maxBins, rfl, ?_, fun label share => ?_,
    histogramOf_values_pairwise hc hn maxBins, length_histogramOf_values hc hn hnodup maxBins,
    sum_absolute_histogramOf hc hn hnodup⟩
  · rw [toNat_bins_histogramOf hc hn, Frequencies.length_histogramBins]
  · -- a bin is a counted value or the null bin
    simp only [mem_histogramOf_values hc hn hnodup, Frequencies.mem_histogramBins h.keysJoin,
      Prod.mk.injEq, and_assoc]

open Aggregate in
/-- A column `n` whose two rows hold `1` and null, and its histogram cut at one bin: of the value
`1` and the null bin, each counted once, the first by label is kept. -/
theorem histogram_keeps_first_bins_oneNull :
    Accumulates (.frequencies ["n"]) 2 (.frequencies ⟨2, ⟨[("1", 1)]⟩⟩) ∧ 2 < 2 ^ 64 ∧
      (0 < (⟨2, ⟨[("1", 1)]⟩⟩ : Frequencies).nullRows →
        Frequencies.keyOf [nullBin] ∉ [("1", (1 : UInt64))].map Prod.fst) ∧
      ∃ D, Analyzer.valueFrom ⟨.histogram "n" 1, none⟩ (.frequencies ⟨2, ⟨[("1", 1)]⟩⟩) =
          .ok (.distribution D) ∧
        D.bins.toNat = Frequencies.distinct ⟨2, ⟨[("1", 1)]⟩⟩ +
          (if 0 < Frequencies.nullRows ⟨2, ⟨[("1", 1)]⟩⟩ then 1 else 0) ∧
        (∀ label share, (label, share) ∈ D.values ↔ ∃ m,
          ((Frequencies.keyOf [label], m) ∈ [("1", (1 : UInt64))] ∨
            (label = nullBin ∧ m = Frequencies.nullRows ⟨2, ⟨[("1", 1)]⟩⟩ ∧
              0 < Frequencies.nullRows ⟨2, ⟨[("1", 1)]⟩⟩)) ∧
          (Frequencies.histogramBins ⟨2, ⟨[("1", 1)]⟩⟩).countP
            (fun y => decide (BinPrecedes y (label, m))) < 1 ∧
          share = ⟨m, countToFloat m / countToFloat 2⟩) ∧
        D.values.Pairwise (·.1 < ·.1) ∧
        D.values.length = min 1 (Frequencies.histogramBins ⟨2, ⟨[("1", 1)]⟩⟩).length ∧
        ((Frequencies.histogramBins ⟨2, ⟨[("1", 1)]⟩⟩).length ≤ 1 →
          (D.values.map fun b => b.2.absolute.toNat).sum = (2 : UInt64).toNat) := by
  -- the column resolves to the first position, and both rows are read through its key
  have hv : (⟨[{ name := "n", columnType := .integral }]⟩ : Schema).validate = .ok () := rfl
  have hres : resolveColumn (RowView.index ["n"]) "n" = .ok 0 :=
    Schema.resolveColumn_eq hv (c := "n") (j := 0) rfl
  have hp : (Computation.frequencies ["n"]).probe (RowView.index ["n"]) = .ok (.key [0]) := by
    rw [Computation.probe, List.mapM_cons, hres]
    rfl
  have h : Accumulates (.frequencies ["n"]) 2 (.frequencies ⟨2, ⟨[("1", 1)]⟩⟩) :=
    Accumulates.observe [.null] hp (Accumulates.observe [.int 1] hp .empty)
  have hlabels : 0 < (⟨2, ⟨[("1", 1)]⟩⟩ : Frequencies).nullRows →
      Frequencies.keyOf [nullBin] ∉ [("1", (1 : UInt64))].map Prod.fst := fun _ => by decide
  exact ⟨h, by norm_num, hlabels, histogram_keeps_first_bins h (by norm_num) hlabels none 1⟩

end DataQuality
