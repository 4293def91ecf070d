import Mathlib
import DataQuality.Data.Tally

/-!
# Tallies as finite maps

A tally lists its keys in strictly increasing order.  Read through `List.lookup` it is a finite
map from keys to counts, and the operations act pointwise on that map: `add` adds a count to one
key, `merge` adds the counts of the second tally to those of the first.  A strictly ordered list
is determined by its lookups (`Tally.ext_lookup`), so the algebra of merges (unit, commutativity,
associativity) is that of optional counts under addition.

A tally built by counting a list of keys once each lists the distinct keys with their
multiplicities; its size is the number of distinct keys, and its singles are the keys met exactly
once, as long as the list is shorter than `2^64` (`Tally.size_ofKeys`, `Tally.singles_ofKeys`).
-/

namespace DataQuality

/-- Optional counts add, an absent count giving way. -/
lemma Option.merge_add_assoc (a b c : Option UInt64) :
    (a.merge (· + ·) b).merge (· + ·) c = a.merge (· + ·) (b.merge (· + ·) c) := by
  cases a <;> cases b <;> cases c <;> simp [Option.merge, UInt64.add_assoc]

/-- Addition of optional counts is commutative. -/
lemma Option.merge_add_comm (a b : Option UInt64) :
    a.merge (· + ·) b = b.merge (· + ·) a := by
  cases a <;> cases b <;> simp [Option.merge, UInt64.add_comm]

namespace Tally

/-- Entries in strictly increasing order of key. -/
def Ascending {κ : Type} [Ord κ] (l : List (κ × UInt64)) : Prop :=
  l.Pairwise fun a b => compare a.1 b.1 = .lt

/-- The tally of a list of keys, each counted once. -/
def ofKeys {κ : Type} [Ord κ] (ks : List κ) : Tally κ :=
  ks.foldl (fun t k => t.add k 1) {}

section Lookup

variable {κ : Type} [Ord κ] [BEq κ] [LawfulBEq κ] [Std.TransOrd κ] [Std.LawfulEqOrd κ]

/-! ## Lookups in ascending lists -/

omit [Ord κ] [Std.TransOrd κ] [Std.LawfulEqOrd κ] in
/-- A lookup meets the head of a list first. -/
@[simp] lemma lookup_cons_ite {k j : κ} {n : UInt64} {rest : List (κ × UInt64)} :
    ((k, n) :: rest).lookup j = if j == k then some n else rest.lookup j := by
  simp only [List.lookup]
  split <;> simp_all

omit [Std.TransOrd κ] in
/-- A key below every listed key is not listed. -/
lemma lookup_eq_none_of_lt {j : κ} {l : List (κ × UInt64)} (h : ∀ e ∈ l, compare j e.1 = .lt) :
    l.lookup j = none := by
  induction l with
  | nil => rfl
  | cons e rest ih =>
    obtain ⟨k, n⟩ := e
    simp only [List.mem_cons, forall_eq_or_imp] at h
    have hne : (j == k) = false := by
      rw [beq_eq_false_iff_ne]
      rintro rfl
      simp [Std.ReflCmp.compare_self] at h
    simp [hne, ih h.2]

omit [Std.TransOrd κ] in
/-- The head key of an ascending list is listed nowhere after the head. -/
lemma lookup_tail_head {k : κ} {n : UInt64} {rest : List (κ × UInt64)}
    (h : Ascending ((k, n) :: rest)) : rest.lookup k = none := by
  rw [Ascending, List.pairwise_cons] at h
  exact lookup_eq_none_of_lt h.1

omit [BEq κ] [LawfulBEq κ] [Std.TransOrd κ] [Std.LawfulEqOrd κ] in
/-- A key below the bumped key and below every listed key is below every key of the bump. -/
lemma lt_of_mem_bump {j k : κ} {n : UInt64} {l : List (κ × UInt64)} (hk : compare j k = .lt)
    (hl : ∀ e ∈ l, compare j e.1 = .lt) : ∀ e ∈ bump k n l, compare j e.1 = .lt := by
  induction l with
  | nil => simpa [bump] using hk
  | cons e rest ih =>
    have hhead : compare j e.1 = .lt := hl e (List.mem_cons_self ..)
    have hrest : ∀ e' ∈ rest, compare j e'.1 = .lt := fun e' he' => hl e' (List.mem_cons_of_mem _ he')
    simp only [bump]
    split
    · intro e' he'
      simp only [List.mem_cons] at he'
      rcases he' with rfl | rfl | he'
      · exact hk
      · exact hhead
      · exact hrest e' he'
    · intro e' he'
      simp only [List.mem_cons] at he'
      rcases he' with rfl | he'
      · exact hhead
      · exact hrest e' he'
    · intro e' he'
      simp only [List.mem_cons] at he'
      rcases he' with rfl | he'
      · exact hhead
      · exact ih hrest e' he'

omit [BEq κ] [LawfulBEq κ] [Std.LawfulEqOrd κ] in
/-- Bumping a key keeps the keys ascending. -/
lemma ascending_bump {k : κ} {n : UInt64} {l : List (κ × UInt64)} (h : Ascending l) :
    Ascending (bump k n l) := by
  induction l with
  | nil => simp [bump, Ascending]
  | cons e rest ih =>
    rw [Ascending, List.pairwise_cons] at h
    obtain ⟨hhead, hrest⟩ := h
    simp only [bump]
    split
    · next hlt =>
      refine List.Pairwise.cons ?_ (List.Pairwise.cons hhead hrest)
      simp only [List.mem_cons, forall_eq_or_imp]
      exact ⟨hlt, fun e' he' => Std.TransCmp.lt_trans hlt (hhead e' he')⟩
    · exact List.Pairwise.cons hhead hrest
    · next hgt =>
      have hlt : compare e.1 k = .lt := Std.OrientedCmp.gt_iff_lt.mp hgt
      exact List.Pairwise.cons (lt_of_mem_bump hlt hhead) (ih hrest)

/-- A bump adds its count to the key's count, and leaves the other keys alone. -/
lemma lookup_bump {k j : κ} {n : UInt64} {l : List (κ × UInt64)} (h : Ascending l) :
    (bump k n l).lookup j = (l.lookup j).merge (· + ·) (if j == k then some n else none) := by
  induction l with
  | nil => by_cases hj : j = k <;> simp [bump, List.lookup, hj]
  | cons e rest ih =>
    obtain ⟨k', m⟩ := e
    have hrest : Ascending rest := (List.pairwise_cons.mp h).2
    simp only [bump]
    split
    · next hlt =>
      by_cases hj : j = k
      · subst hj
        have hnone : ((k', m) :: rest).lookup j = none := by
          apply lookup_eq_none_of_lt
          simp only [List.mem_cons, forall_eq_or_imp]
          exact ⟨hlt, fun e he => Std.TransCmp.lt_trans hlt ((List.pairwise_cons.mp h).1 e he)⟩
        simp [hnone]
      · simp [hj]
    · next heq =>
      have hk : k = k' := Std.LawfulEqCmp.eq_of_compare heq
      subst hk
      by_cases hj : j = k <;> simp [hj]
    · next hgt =>
      by_cases hj : j = k'
      · subst hj
        have hne : j ≠ k := by
          rintro rfl
          simp [Std.ReflCmp.compare_self] at hgt
        simp [hne]
      · simp [hj, ih hrest]

/-- Ascending lists that look up alike are equal. -/
lemma ext_lookup {l₁ l₂ : List (κ × UInt64)} (h₁ : Ascending l₁) (h₂ : Ascending l₂)
    (h : ∀ j, l₁.lookup j = l₂.lookup j) : l₁ = l₂ := by
  induction l₁ generalizing l₂ with
  | nil =>
    cases l₂ with
    | nil => rfl
    | cons e rest => simpa using (h e.1).symm
  | cons e rest ih =>
    obtain ⟨k, n⟩ := e
    cases l₂ with
    | nil => simpa using h k
    | cons e' rest' =>
      obtain ⟨k', n'⟩ := e'
      have hd₁ := (List.pairwise_cons.mp h₁).1
      have hd₂ := (List.pairwise_cons.mp h₂).1
      -- the two heads are the least keys of equal maps, hence the same key
      have hkk : k = k' := by
        rcases hc : compare k k' with _ | _ | _
        · have : ((k', n') :: rest').lookup k = none := by
            apply lookup_eq_none_of_lt
            simp only [List.mem_cons, forall_eq_or_imp]
            exact ⟨hc, fun e he => Std.TransCmp.lt_trans hc (hd₂ e he)⟩
          simpa [this] using h k
        · exact Std.LawfulEqCmp.eq_of_compare hc
        · have hlt : compare k' k = .lt := Std.OrientedCmp.gt_iff_lt.mp hc
          have : ((k, n) :: rest).lookup k' = none := by
            apply lookup_eq_none_of_lt
            simp only [List.mem_cons, forall_eq_or_imp]
            exact ⟨hlt, fun e he => Std.TransCmp.lt_trans hlt (hd₁ e he)⟩
          simpa [this] using (h k').symm
      subst hkk
      have hnn : n = n' := by simpa using h k
      subst hnn
      congr 1
      apply ih (List.pairwise_cons.mp h₁).2 (List.pairwise_cons.mp h₂).2
      intro j
      by_cases hj : j = k
      · subst hj
        rw [lookup_tail_head h₁, lookup_tail_head h₂]
      · simpa [hj] using h j

/-! ## Adding and merging -/

omit [BEq κ] [LawfulBEq κ] [Std.TransOrd κ] [Std.LawfulEqOrd κ] in
/-- The empty tally is ascending. -/
lemma ascending_empty : Ascending ({} : Tally κ).entries := List.Pairwise.nil

omit [BEq κ] [LawfulBEq κ] [Std.LawfulEqOrd κ] in
/-- Adding to a key keeps a tally ascending. -/
lemma ascending_add {t : Tally κ} (k : κ) (n : UInt64) (h : Ascending t.entries) :
    Ascending (t.add k n).entries :=
  ascending_bump h

/-- Adding to a key adds to its count alone. -/
lemma lookup_add {t : Tally κ} {k j : κ} {n : UInt64} (h : Ascending t.entries) :
    (t.add k n).entries.lookup j =
      (t.entries.lookup j).merge (· + ·) (if j == k then some n else none) :=
  lookup_bump h

/-- Folding additions over ascending entries keeps a tally ascending and adds their counts. -/
lemma foldl_add_spec (l : List (κ × UInt64)) (hl : Ascending l) (t : Tally κ)
    (ht : Ascending t.entries) :
    Ascending (l.foldl (fun t (k, n) => t.add k n) t).entries ∧
      ∀ j, (l.foldl (fun t (k, n) => t.add k n) t).entries.lookup j =
        (t.entries.lookup j).merge (· + ·) (l.lookup j) := by
  induction l generalizing t with
  | nil => exact ⟨ht, fun j => by simp⟩
  | cons e rest ih =>
    obtain ⟨k, n⟩ := e
    obtain ⟨hasc, hlook⟩ := ih (List.pairwise_cons.mp hl).2 (t.add k n) (ascending_add k n ht)
    refine ⟨hasc, fun j => ?_⟩
    rw [List.foldl_cons, hlook, lookup_add ht, Option.merge_add_assoc]
    by_cases hj : j = k
    · subst hj
      simp [lookup_tail_head hl]
    · simp [hj]

/-- A merge of ascending tallies is ascending. -/
lemma ascending_merge {a b : Tally κ} (ha : Ascending a.entries) (hb : Ascending b.entries) :
    Ascending (a.merge b).entries :=
  (foldl_add_spec b.entries hb a ha).1

/-- A merge adds the counts of the two tallies key by key. -/
lemma lookup_merge {a b : Tally κ} (ha : Ascending a.entries) (hb : Ascending b.entries) (j : κ) :
    (a.merge b).entries.lookup j = (a.entries.lookup j).merge (· + ·) (b.entries.lookup j) :=
  (foldl_add_spec b.entries hb a ha).2 j

/-- Tallies with ascending entries that look up alike are equal. -/
lemma ext {a b : Tally κ} (ha : Ascending a.entries) (hb : Ascending b.entries)
    (h : ∀ j, a.entries.lookup j = b.entries.lookup j) : a = b := by
  cases a; cases b
  simpa using ext_lookup ha hb h

omit [BEq κ] [LawfulBEq κ] [Std.TransOrd κ] [Std.LawfulEqOrd κ] in
/-- Merging with the empty tally changes nothing. -/
lemma merge_empty (a : Tally κ) : a.merge {} = a := rfl

/-- The empty tally merged with another is that tally. -/
lemma empty_merge {a : Tally κ} (ha : Ascending a.entries) : ({} : Tally κ).merge a = a :=
  ext (ascending_merge ascending_empty ha) ha fun j => by
    simp [lookup_merge ascending_empty ha]

/-- Merging is commutative. -/
lemma merge_comm {a b : Tally κ} (ha : Ascending a.entries) (hb : Ascending b.entries) :
    a.merge b = b.merge a :=
  ext (ascending_merge ha hb) (ascending_merge hb ha) fun j => by
    rw [lookup_merge ha hb, lookup_merge hb ha, Option.merge_add_comm]

/-- Merging is associative. -/
lemma merge_assoc {a b c : Tally κ} (ha : Ascending a.entries) (hb : Ascending b.entries)
    (hc : Ascending c.entries) : (a.merge b).merge c = a.merge (b.merge c) :=
  ext (ascending_merge (ascending_merge ha hb) hc) (ascending_merge ha (ascending_merge hb hc))
    fun j => by
      rw [lookup_merge (ascending_merge ha hb) hc, lookup_merge ha hb, lookup_merge ha
        (ascending_merge hb hc), lookup_merge hb hc, Option.merge_add_assoc]

/-- Adding to a key after a merge is adding it to the second tally before. -/
lemma merge_add {a b : Tally κ} (ha : Ascending a.entries) (hb : Ascending b.entries) (k : κ)
    (n : UInt64) : a.merge (b.add k n) = (a.merge b).add k n :=
  ext (ascending_merge ha (ascending_add k n hb)) (ascending_add k n (ascending_merge ha hb))
    fun j => by
      rw [lookup_merge ha (ascending_add k n hb), lookup_add hb, lookup_add (ascending_merge ha hb),
        lookup_merge ha hb, Option.merge_add_assoc]

/-- Additions to two keys commute. -/
lemma add_add_swap {t : Tally κ} (ht : Ascending t.entries) (k k' : κ) (n n' : UInt64) :
    (t.add k n).add k' n' = (t.add k' n').add k n :=
  ext (ascending_add k' n' (ascending_add k n ht)) (ascending_add k n (ascending_add k' n' ht))
    fun j => by
      rw [lookup_add (ascending_add k n ht), lookup_add ht, lookup_add (ascending_add k' n' ht),
        lookup_add ht, Option.merge_add_assoc, Option.merge_add_assoc,
        Option.merge_add_comm (if j == k then some n else none)]

/-! ## Entries as a set -/

/-- In an ascending list an entry is listed exactly when its key looks up its count. -/
lemma mem_iff_lookup {l : List (κ × UInt64)} (h : Ascending l) {k : κ} {n : UInt64} :
    (k, n) ∈ l ↔ l.lookup k = some n := by
  induction l with
  | nil => simp
  | cons e rest ih =>
    obtain ⟨k', m⟩ := e
    have hrest := (List.pairwise_cons.mp h).2
    by_cases hk : k = k'
    · subst hk
      have hout : (k, n) ∉ rest := fun hin => by
        simpa [Std.ReflCmp.compare_self] using (List.pairwise_cons.mp h).1 _ hin
      simp [hout, eq_comm]
    · simp [hk, ih hrest]

omit [BEq κ] [LawfulBEq κ] [Std.TransOrd κ] in
/-- The keys of an ascending list are listed once each. -/
lemma nodup_keys {l : List (κ × UInt64)} (h : Ascending l) : (l.map Prod.fst).Nodup := by
  rw [List.Nodup, List.pairwise_map]
  refine h.imp fun {a b} hab heq => ?_
  rw [heq] at hab
  simp [Std.ReflCmp.compare_self] at hab

end Lookup

section Counting

variable {κ : Type} [Ord κ] [DecidableEq κ] [Std.TransOrd κ] [Std.LawfulEqOrd κ]

/-- The entries of an ascending list whose counts pass a test are as many as the keys that look
up such a count. -/
lemma length_filter_eq_card {l : List (κ × UInt64)} (h : Ascending l) (p : UInt64 → Bool)
    (S : Finset κ) (hS : ∀ k, k ∈ S ↔ ∃ n, l.lookup k = some n ∧ p n = true) :
    (l.filter fun e => p e.2).length = S.card := by
  have hsub : ((l.filter fun e => p e.2).map Prod.fst).Sublist (l.map Prod.fst) :=
    (List.filter_sublist).map _
  have hnodup := (nodup_keys h).sublist hsub
  have hset : ((l.filter fun e => p e.2).map Prod.fst).toFinset = S := by
    ext k
    simp only [List.mem_toFinset, List.mem_map, List.mem_filter, hS]
    constructor
    · rintro ⟨⟨k', n⟩, ⟨hin, hp⟩, rfl⟩
      exact ⟨n, (mem_iff_lookup h).mp hin, hp⟩
    · rintro ⟨n, hn, hp⟩
      exact ⟨(k, n), ⟨(mem_iff_lookup h).mpr hn, hp⟩, rfl⟩
  rw [← hset, List.toFinset_card_of_nodup hnodup, List.length_map]

omit [DecidableEq κ] [Std.LawfulEqOrd κ] in
/-- The tally of a list of keys is ascending. -/
lemma ascending_ofKeys (ks : List κ) : Ascending (ofKeys ks).entries := by
  induction ks using List.reverseRecOn with
  | nil => exact ascending_empty
  | append_singleton ks k ih =>
    rw [ofKeys, List.foldl_append, List.foldl_cons, List.foldl_nil]
    exact ascending_add k 1 ih

/-- The tally of a list of keys lists each key met, with its multiplicity. -/
lemma lookup_ofKeys (ks : List κ) (j : κ) :
    (ofKeys ks).entries.lookup j = if j ∈ ks then some (UInt64.ofNat (ks.count j)) else none := by
  induction ks using List.reverseRecOn with
  | nil => rfl
  | append_singleton ks k ih =>
    have hstep : ofKeys (ks ++ [k]) = (ofKeys ks).add k 1 := by
      rw [ofKeys, List.foldl_append, List.foldl_cons, List.foldl_nil]; rfl
    rw [hstep, lookup_add (ascending_ofKeys ks), ih]
    by_cases hj : j = k
    · subst hj
      by_cases hin : j ∈ ks
      · simp [hin, UInt64.ofNat_add]
      · simp [hin, List.count_eq_zero_of_not_mem hin]
    · have hkj : (k == j) = false := beq_eq_false_iff_ne.mpr (Ne.symm hj)
      simp [hj, List.count_singleton, hkj]

/-- A tally of keys has one entry per distinct key. -/
lemma size_ofKeys (ks : List κ) : (ofKeys ks).size = ks.toFinset.card := by
  have h := length_filter_eq_card (ascending_ofKeys ks) (fun _ => true) ks.toFinset
    fun k => by by_cases hk : k ∈ ks <;> simp [lookup_ofKeys, hk]
  simpa [size] using h

/-- In a list of fewer than `2^64` keys, the keys met once are the singles of its tally. -/
lemma singles_ofKeys (ks : List κ) (hks : ks.length < UInt64.size) :
    (ofKeys ks).singles = (ks.toFinset.filter fun k => ks.count k = 1).card := by
  apply length_filter_eq_card (ascending_ofKeys ks) (· == 1)
  intro k
  have hcount : ks.count k < UInt64.size := lt_of_le_of_lt (List.count_le_length) hks
  by_cases hk : k ∈ ks
  · simp only [Finset.mem_filter, List.mem_toFinset, lookup_ofKeys, hk, if_true,
      Option.some.injEq, true_and, exists_eq_left', beq_iff_eq]
    constructor
    · intro h1; simp [h1]
    · intro h1
      have := congrArg UInt64.toNat h1
      rwa [UInt64.toNat_ofNat_of_lt' hcount] at this
  · simp [lookup_ofKeys, hk]

end Counting

end Tally

end DataQuality
