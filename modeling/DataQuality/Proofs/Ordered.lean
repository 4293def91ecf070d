import Mathlib
import DataQuality.Data.Ordered

/-!
# Ordered maps as finite maps

An ordered map is built by putting and pushing entries one at a time.  Whatever the order on the
keys does, an entry of the map is one that was put or one that was there before (`mem_put`), and
a value pushed under a key is one of the values pushed (`mem_foldl_push_values`).  So the keys of a
map grouped by a key function are keys of the items grouped (`mem_foldl_push_keys`), and the keys
of `keysOf` are among the keys given (`mem_keysOf`).

With a transitive order on the keys, a map read through `get?` is a finite map and the operations
act on it pointwise: a lookup after a put finds the value put under a key that compares equal and
what was there under any other (`get?_put`), a union lets the second map win (`get?_union`), and
pushes append to the list of a key (`getD_get?_foldl_push`).  Puts keep a map sorted, and when
keys that compare equal are equal, two sorted maps with the same lookups are equal
(`eq_of_get?`).
-/

namespace DataQuality.Ordered

variable {κ α : Type} [Ord κ]

/-- An entry after a put is the entry put or one that was there. -/
lemma mem_put {k : κ} {v : α} {m : List (κ × α)} {x : κ × α} (h : x ∈ put k v m) :
    x = (k, v) ∨ x ∈ m := by
  induction m with
  | nil => simpa [put] using h
  | cons y m ih =>
    unfold put at h
    split at h
    · simpa using h
    · rcases List.mem_cons.mp h with rfl | h
      · exact .inl rfl
      · exact .inr (List.mem_cons_of_mem _ h)
    · rcases List.mem_cons.mp h with rfl | h
      · exact .inr List.mem_cons_self
      · exact (ih h).imp_right (List.mem_cons_of_mem _)

@[simp] lemma get?_nil (k : κ) : get? k ([] : List (κ × α)) = none := rfl

/-- A value found under a key is the value of an entry whose key compares equal. -/
lemma exists_mem_of_get? {k : κ} {v : α} {m : List (κ × α)} (h : get? k m = some v) :
    ∃ k', compare k k' = .eq ∧ (k', v) ∈ m := by
  induction m with
  | nil => simp [get?] at h
  | cons y m ih =>
    unfold get? at h
    split_ifs at h with hk
    · obtain rfl := Option.some.inj h
      exact ⟨y.1, by simpa using hk, List.mem_cons_self⟩
    · obtain ⟨k', hk', hmem⟩ := ih h
      exact ⟨k', hk', List.mem_cons_of_mem _ hmem⟩

/-- A key that compares equal to the key of an entry is found. -/
lemma isSome_get? {k k' : κ} {v : α} {m : List (κ × α)} (h : (k', v) ∈ m)
    (hk : compare k k' = .eq) : (get? k m).isSome := by
  induction m with
  | nil => simp at h
  | cons y m ih =>
    unfold get?
    split_ifs with hy
    · rfl
    · rcases List.mem_cons.mp h with rfl | h
      · exact absurd hk (by simpa using hy)
      · exact ih h

/-- An entry after a push is a new list under the key pushed, or one that was there; every value
of the new list is the value pushed or a value that was there. -/
lemma mem_push {k : κ} {v : α} {m : List (κ × List α)} {x : κ × List α} (h : x ∈ push k v m) :
    (x.1 = k ∨ x ∈ m) ∧ ∀ u ∈ x.2, u = v ∨ ∃ y ∈ m, u ∈ y.2 := by
  rcases mem_put h with rfl | hx
  · refine ⟨.inl rfl, fun u hu => ?_⟩
    rcases List.mem_append.mp hu with hu | hu
    · cases hg : get? k m with
      | none => simp [hg] at hu
      | some vs =>
        obtain ⟨k', -, hk'⟩ := exists_mem_of_get? hg
        exact .inr ⟨(k', vs), hk', by simpa [hg] using hu⟩
    · exact .inl (List.mem_singleton.mp hu)
  · exact ⟨.inr hx, fun u hu => .inr ⟨x, hx, hu⟩⟩

variable {γ : Type} (key : γ → κ) (val : γ → α)

/-- The keys of a map grouped by a key function are keys of the items grouped, or were there. -/
lemma mem_foldl_push_keys (l : List γ) (m : List (κ × List α)) :
    ∀ x ∈ l.foldl (fun acc a => push (key a) (val a) acc) m, x ∈ m ∨ ∃ a ∈ l, x.1 = key a := by
  induction l generalizing m with
  | nil => simp
  | cons a l ih =>
    intro x hx
    rcases ih _ x hx with hx | ⟨b, hb, hkey⟩
    · rcases (mem_push hx).1 with hkey | hx
      · exact .inr ⟨a, List.mem_cons_self, hkey⟩
      · exact .inl hx
    · exact .inr ⟨b, List.mem_cons_of_mem _ hb, hkey⟩

/-- The values grouped under the keys of a map are values of the items grouped, or were there. -/
lemma mem_foldl_push_values (l : List γ) (m : List (κ × List α)) :
    ∀ x ∈ l.foldl (fun acc a => push (key a) (val a) acc) m, ∀ u ∈ x.2,
      (∃ y ∈ m, u ∈ y.2) ∨ ∃ a ∈ l, u = val a := by
  induction l generalizing m with
  | nil => exact fun x hx u hu => .inl ⟨x, hx, hu⟩
  | cons a l ih =>
    intro x hx u hu
    rcases ih _ x hx u hu with ⟨y, hy, huy⟩ | ⟨b, hb, hub⟩
    · rcases (mem_push hy).2 u huy with rfl | hold
      · exact .inr ⟨a, List.mem_cons_self, rfl⟩
      · exact .inl hold
    · exact .inr ⟨b, List.mem_cons_of_mem _ hb, hub⟩

/-- The keys of a list of keys, each once, are among them. -/
lemma mem_keysOf {ks : List κ} {k : κ} (h : k ∈ keysOf ks) : k ∈ ks := by
  -- the map is built by puts, each entry one of the pairs
  have hput : ∀ (l : List (κ × Unit)) (m : List (κ × Unit)),
      ∀ x ∈ l.foldl (fun m p => put p.1 p.2 m) m, x ∈ m ∨ x ∈ l := by
    intro l
    induction l with
    | nil => simp
    | cons p l ih =>
      intro m x hx
      rcases ih _ x hx with hx | hx
      · rcases mem_put hx with rfl | hx
        · exact .inr List.mem_cons_self
        · exact .inl hx
      · exact .inr (List.mem_cons_of_mem _ hx)
  obtain ⟨x, hx, rfl⟩ := List.mem_map.mp h
  rcases hput _ [] x hx with hx | hx
  · simp at hx
  · obtain ⟨k', hk', rfl⟩ := List.mem_map.mp hx
    exact hk'

/-! ## Lookups

With a transitive order on the keys, a lookup after a put finds the value put exactly when the
key looked up compares equal to the key put (`get?_put`), whether or not the map is sorted.  Puts
keep a map sorted (`sorted_put`), and two sorted maps with the same lookups are equal
(`eq_of_get?`) once keys that compare equal are equal.
-/

section Lookup

variable [Std.TransOrd κ]

/-- Entries in strictly increasing order of key. -/
def Sorted (m : List (κ × α)) : Prop := m.Pairwise fun x y => compare x.1 y.1 = .lt

omit [Std.TransOrd κ] in
lemma get?_cons (k : κ) (x : κ × α) (m : List (κ × α)) :
    get? k (x :: m) = if compare k x.1 = .eq then some x.2 else get? k m := by
  simp [get?]

omit [Std.TransOrd κ] in
lemma get?_append (k : κ) (m₁ m₂ : List (κ × α)) : get? k (m₁ ++ m₂) = (get? k m₁).or (get? k m₂) := by
  induction m₁ with
  | nil => rfl
  | cons x m₁ ih =>
    rw [List.cons_append, get?_cons, get?_cons, ih]
    split <;> rfl

omit [Std.TransOrd κ] in
/-- A key below every key of a map is not in it. -/
lemma get?_eq_none_of_lt {k : κ} {m : List (κ × α)} (h : ∀ x ∈ m, compare k x.1 = .lt) :
    get? k m = none := by
  induction m with
  | nil => rfl
  | cons x m ih =>
    rw [get?_cons, if_neg (by simp [h x List.mem_cons_self]),
      ih fun y hy => h y (List.mem_cons_of_mem _ hy)]

omit [Std.TransOrd κ] in
/-- A key whose every entry has one value, and which has an entry, is found with that value. -/
lemma get?_of_forall_eq {k : κ} {v : α} {m : List (κ × α)}
    (h : ∀ x ∈ m, compare k x.1 = .eq → x.2 = v) (hk : ∃ x ∈ m, compare k x.1 = .eq) :
    get? k m = some v := by
  induction m with
  | nil => simp at hk
  | cons x m ih =>
    rw [get?_cons]
    split
    · rename_i hx
      rw [h x List.mem_cons_self hx]
    · rename_i hx
      refine ih (fun y hy => h y (List.mem_cons_of_mem _ hy)) ?_
      obtain ⟨y, hy, hky⟩ := hk
      rcases List.mem_cons.mp hy with rfl | hy
      · exact absurd hky hx
      · exact ⟨y, hy, hky⟩

omit [Std.TransOrd κ] in
/-- A key with no entry is not found. -/
lemma get?_eq_none {k : κ} {m : List (κ × α)} (h : ∀ x ∈ m, compare k x.1 ≠ .eq) :
    get? k m = none := by
  induction m with
  | nil => rfl
  | cons x m ih =>
    rw [get?_cons, if_neg (h x List.mem_cons_self), ih fun y hy => h y (List.mem_cons_of_mem _ hy)]

/-- Keys that compare equal find the same value. -/
lemma get?_congr {k k' : κ} (h : compare k k' = .eq) (m : List (κ × α)) :
    get? k m = get? k' m := by
  induction m with
  | nil => rfl
  | cons x m ih =>
    rw [get?_cons, get?_cons, ih]
    have hiff : compare k x.1 = .eq ↔ compare k' x.1 = .eq :=
      ⟨Std.TransCmp.eq_trans (Std.OrientedCmp.eq_symm h), Std.TransCmp.eq_trans h⟩
    simp only [hiff]

/-- A lookup after a put finds the value put under a key that compares equal, and what was there
under any other. -/
lemma get?_put (k k' : κ) (v : α) (m : List (κ × α)) :
    get? k (put k' v m) = if compare k k' = .eq then some v else get? k m := by
  induction m with
  | nil => simp [put, get?_cons]
  | cons x m ih =>
    unfold put
    split
    · simp only [get?_cons]
    · rename_i hkx
      simp only [get?_cons]
      -- a key equal to the one put is equal to the entry replaced
      by_cases hk : compare k k' = .eq
      · simp [hk]
      · have : compare k x.1 ≠ .eq := fun h => hk (Std.TransCmp.eq_trans h (Std.OrientedCmp.eq_symm hkx))
        simp [hk, this]
    · rename_i hkx
      simp only [get?_cons, ih]
      -- the entry kept is greater than the key put, so no key equals both
      by_cases hx : compare k x.1 = .eq
      · have : compare k k' ≠ .eq := fun h => by
          have := Std.TransCmp.eq_trans (Std.OrientedCmp.eq_symm h) hx
          simp [this] at hkx
        simp [hx, this]
      · simp [hx]

variable {γ : Type} (key : γ → κ) (val : γ → α)

/-- After a fold of puts, a lookup finds the last value put under an equal key, or what was
there. -/
lemma get?_foldl_put (k : κ) (l : List γ) (m : List (κ × α)) :
    get? k (l.foldl (fun acc a => put (key a) (val a) acc) m) =
      (get? k (l.reverse.map fun a => (key a, val a))).or (get? k m) := by
  induction l generalizing m with
  | nil => rfl
  | cons a l ih =>
    rw [List.foldl_cons, ih, get?_put, List.reverse_cons, List.map_append, get?_append]
    simp only [List.map_cons, List.map_nil, get?_cons, get?_nil, Option.or_assoc]
    split <;> rfl

/-- The lookups of a union: the second map wins. -/
lemma get?_union (k : κ) (a b : List (κ × α)) : get? k (union a b) = (get? k b.reverse).or (get? k a) := by
  have := get?_foldl_put Prod.fst Prod.snd k b a
  simpa [union] using this

/-- The lookups of a map built from pairs: the last pair of a key wins. -/
lemma get?_ofList (k : κ) (l : List (κ × α)) : get? k (ofList l) = get? k l.reverse := by
  have := get?_foldl_put Prod.fst Prod.snd k l []
  simpa [ofList] using this

/-- A push appends the value to the list found under an equal key. -/
lemma get?_push (k k' : κ) (v : α) (m : List (κ × List α)) :
    get? k (push k' v m) = if compare k k' = .eq then some ((get? k m).getD [] ++ [v]) else get? k m := by
  rw [push, get?_put]
  split
  · rename_i h
    rw [get?_congr h]
  · rfl

/-- After a fold of pushes, the list under a key is what was there followed by the values pushed
under equal keys, in order. -/
lemma getD_get?_foldl_push (k : κ) (l : List γ) (m : List (κ × List α)) :
    (get? k (l.foldl (fun acc a => push (key a) (val a) acc) m)).getD [] =
      (get? k m).getD [] ++ (l.filter fun a => compare k (key a) == .eq).map val := by
  induction l generalizing m with
  | nil => simp
  | cons a l ih =>
    rw [List.foldl_cons, ih, get?_push, List.filter_cons]
    split <;> simp_all

/-- A put keeps a map sorted. -/
lemma sorted_put {m : List (κ × α)} (h : Sorted m) (k : κ) (v : α) : Sorted (put k v m) := by
  induction m with
  | nil => simp [put, Sorted]
  | cons x m ih =>
    rw [Sorted, List.pairwise_cons] at h
    unfold put
    split
    · rename_i hlt
      refine List.Pairwise.cons ?_ (List.Pairwise.cons h.1 h.2)
      intro y hy
      rcases List.mem_cons.mp hy with rfl | hy
      · exact hlt
      · exact Std.TransCmp.lt_trans hlt (h.1 y hy)
    · rename_i heq
      exact List.Pairwise.cons (fun y hy => Std.TransCmp.lt_of_eq_of_lt heq (h.1 y hy)) h.2
    · rename_i hgt
      refine List.Pairwise.cons (fun y hy => ?_) (ih h.2)
      rcases mem_put hy with rfl | hy
      · exact Std.OrientedCmp.lt_of_gt hgt
      · exact h.1 y hy

/-- A fold of puts keeps a map sorted. -/
lemma sorted_foldl_put {m : List (κ × α)} (h : Sorted m) (l : List γ) :
    Sorted (l.foldl (fun acc a => put (key a) (val a) acc) m) := by
  induction l generalizing m with
  | nil => exact h
  | cons a l ih => exact ih (sorted_put h _ _)

lemma sorted_union {a : List (κ × α)} (h : Sorted a) (b : List (κ × α)) : Sorted (union a b) :=
  sorted_foldl_put Prod.fst Prod.snd h b

lemma sorted_ofList (l : List (κ × α)) : Sorted (ofList l) :=
  sorted_foldl_put Prod.fst Prod.snd List.Pairwise.nil l

/-- A key is found in a sorted map with the value it has there. -/
lemma get?_of_mem {m : List (κ × α)} (h : Sorted m) {k : κ} {v : α} (hm : (k, v) ∈ m) :
    get? k m = some v := by
  induction m with
  | nil => simp at hm
  | cons x m ih =>
    rw [Sorted, List.pairwise_cons] at h
    rw [get?_cons]
    rcases List.mem_cons.mp hm with rfl | hm
    · simp [Std.ReflCmp.compare_self]
    · have hlt := Std.OrientedCmp.gt_of_lt (h.1 _ hm)
      rw [if_neg (by simp [hlt]), ih h.2 hm]

/-- A sorted map holds at most one value under the keys equal to a key: the one found. -/
lemma map_snd_filter_eq_toList {m : List (κ × α)} (h : Sorted m) (k : κ) :
    (m.filter fun x => compare k x.1 == .eq).map Prod.snd = (get? k m).toList := by
  induction m with
  | nil => rfl
  | cons x m ih =>
    rw [Sorted, List.pairwise_cons] at h
    rw [get?_cons, List.filter_cons]
    by_cases hk : compare k x.1 = .eq
    · -- the keys after the head are above it, so none equals the key
      have hrest : m.filter (fun y => compare k y.1 == .eq) = [] :=
        List.filter_eq_nil_iff.mpr fun y hy => by
          simp [Std.TransCmp.lt_of_eq_of_lt hk (h.1 y hy)]
      simp [hk, hrest]
    · simp [hk, ih h.2]

/-- A fold of pushes keeps a map sorted. -/
lemma sorted_foldl_push {m : List (κ × List α)} (h : Sorted m) (l : List γ) :
    Sorted (l.foldl (fun acc a => push (key a) (val a) acc) m) := by
  induction l generalizing m with
  | nil => exact h
  | cons a l ih => exact ih (sorted_put h _ _)

/-- Each list of a map grouped from nothing holds the values of the items whose keys compare equal
to its key, in order. -/
lemma eq_filter_of_mem_foldl_push (l : List γ) {x : κ × List α}
    (hx : x ∈ l.foldl (fun acc a => push (key a) (val a) acc) []) :
    x.2 = (l.filter fun a => compare x.1 (key a) == .eq).map val := by
  have hget := get?_of_mem (sorted_foldl_push key val List.Pairwise.nil l) hx
  have := getD_get?_foldl_push key val x.1 l []
  rw [hget] at this
  simpa using this

/-- Every value pushed is in some list of the map grouped. -/
lemma exists_mem_foldl_push (l : List γ) (m : List (κ × List α)) {a : γ} (ha : a ∈ l) :
    ∃ x ∈ l.foldl (fun acc a => push (key a) (val a) acc) m, val a ∈ x.2 := by
  have hmem : val a ∈ (get? (key a) (l.foldl (fun acc a => push (key a) (val a) acc) m)).getD [] := by
    rw [getD_get?_foldl_push]
    exact List.mem_append_right _
      (List.mem_map_of_mem (List.mem_filter.mpr ⟨ha, by simp [Std.ReflCmp.compare_self]⟩))
  cases hget : get? (key a) (l.foldl (fun acc a => push (key a) (val a) acc) m) with
  | none => simp [hget] at hmem
  | some vs =>
    obtain ⟨k', -, hk'⟩ := exists_mem_of_get? hget
    exact ⟨(k', vs), hk', by simpa [hget] using hmem⟩

section Lawful

variable [Std.LawfulEqOrd κ]

omit [Std.TransOrd κ] in
/-- Keys listed with their values: a key listed is found with its value. -/
lemma get?_map_self_of_mem (f : κ → α) {k : κ} {l : List κ} (hk : k ∈ l) :
    get? k (l.map fun a => (a, f a)) = some (f k) := by
  induction l with
  | nil => simp at hk
  | cons a l ih =>
    rw [List.map_cons, get?_cons]
    by_cases hka : k = a
    · subst hka
      simp [Std.ReflCmp.compare_self]
    · simpa [hka, Std.LawfulEqCmp.compare_eq_iff_eq] using ih (List.mem_of_ne_of_mem hka hk)

omit [Std.TransOrd κ] in
/-- Keys listed with their values: a key not listed is not found. -/
lemma get?_map_self_of_not_mem (f : κ → α) {k : κ} {l : List κ} (hk : k ∉ l) :
    get? k (l.map fun a => (a, f a)) = none := by
  induction l with
  | nil => rfl
  | cons a l ih =>
    have hka : k ≠ a := fun h => hk (h ▸ List.mem_cons_self)
    rw [List.map_cons, get?_cons, ih fun h => hk (List.mem_cons_of_mem a h)]
    simp [Std.LawfulEqCmp.compare_eq_iff_eq, hka]

/-- The keys of a list of keys, each once, are exactly the keys listed. -/
lemma mem_keysOf_iff {ks : List κ} {k : κ} : k ∈ keysOf ks ↔ k ∈ ks := by
  refine ⟨mem_keysOf, fun hk => ?_⟩
  have hget : get? k (ofList (ks.map fun k => (k, ()))) = some () := by
    rw [get?_ofList, ← List.map_reverse, get?_map_self_of_mem _ (List.mem_reverse.mpr hk)]
  obtain ⟨k', hk', hmem⟩ := exists_mem_of_get? hget
  rw [Std.LawfulEqCmp.compare_eq_iff_eq] at hk'
  subst hk'
  exact List.mem_map.mpr ⟨(k, ()), hmem, rfl⟩

/-- Two sorted maps with the same lookups are equal, when keys that compare equal are equal. -/
theorem eq_of_get? {m₁ m₂ : List (κ × α)} (h₁ : Sorted m₁) (h₂ : Sorted m₂)
    (h : ∀ k, get? k m₁ = get? k m₂) : m₁ = m₂ := by
  induction m₁ generalizing m₂ with
  | nil =>
    cases m₂ with
    | nil => rfl
    | cons y m₂ => simpa [get?_cons, Std.ReflCmp.compare_self] using (h y.1).symm
  | cons x m₁ ih =>
    rw [Sorted, List.pairwise_cons] at h₁
    cases m₂ with
    | nil => simpa [get?_cons, Std.ReflCmp.compare_self] using h x.1
    | cons y m₂ =>
      rw [Sorted, List.pairwise_cons] at h₂
      -- the heads: each key is found in the other map, so neither is below the other
      have hx := h x.1
      have hy := h y.1
      rw [get?_cons, get?_cons, if_pos Std.ReflCmp.compare_self] at hx
      rw [get?_cons, get?_cons, if_pos Std.ReflCmp.compare_self] at hy
      have hxy : compare x.1 y.1 = .eq := by
        cases hc : compare x.1 y.1 with
        | eq => rfl
        | lt =>
          rw [if_neg (by simp [hc]),
            get?_eq_none_of_lt fun z hz => Std.TransCmp.lt_trans hc (h₂.1 z hz)] at hx
          exact absurd hx (by simp)
        | gt =>
          have hlt := Std.OrientedCmp.lt_of_gt hc
          rw [if_neg (by simp [hlt]),
            get?_eq_none_of_lt fun z hz => Std.TransCmp.lt_trans hlt (h₁.1 z hz)] at hy
          exact absurd hy (by simp)
      have hkey : x.1 = y.1 := Std.LawfulEqOrd.eq_of_compare hxy
      rw [if_pos hxy] at hx
      have hval : x.2 = y.2 := Option.some.inj hx
      -- the tails: a key equal to the head is in neither, any other finds the same in both
      have htail : ∀ k, get? k m₁ = get? k m₂ := by
        intro k
        by_cases hk : compare k x.1 = .eq
        · rw [get?_eq_none_of_lt fun z hz => Std.TransCmp.lt_of_eq_of_lt hk (h₁.1 z hz),
            get?_eq_none_of_lt fun z hz => Std.TransCmp.lt_of_eq_of_lt (hkey ▸ hk) (h₂.1 z hz)]
        · have := h k
          rw [get?_cons, get?_cons, if_neg hk, if_neg (hkey ▸ hk)] at this
          exact this
      rw [ih h₁.2 h₂.2 htail, Prod.ext hkey hval]

omit [Std.TransOrd κ] [Std.LawfulEqOrd κ] in
/-- A map with its values forgotten finds the keys the map finds. -/
lemma get?_map_unit (k : κ) (m : List (κ × α)) :
    get? k (m.map fun x => (x.1, ())) = (get? k m).map fun _ => () := by
  induction m with
  | nil => rfl
  | cons x m ih =>
    rw [List.map_cons, get?_cons, get?_cons, ih]
    split <;> rfl

/-- The keys of a sorted map that finds exactly the keys of a list are those keys, in order and
each once. -/
theorem map_fst_eq_keysOf {m : List (κ × α)} (hm : Sorted m) {ks : List κ}
    (h : ∀ k, (get? k m).isSome ↔ k ∈ ks) : m.map Prod.fst = keysOf ks := by
  -- both are the keys of a map without values, and the two maps find the same keys
  have hunit : m.map (fun x => (x.1, ())) = ofList (ks.map fun k => (k, ())) := by
    refine eq_of_get? (hm.map _ fun _ _ hxy => hxy) (sorted_ofList _) fun k => ?_
    rw [get?_map_unit, get?_ofList, ← List.map_reverse]
    by_cases hk : k ∈ ks
    · obtain ⟨v, hv⟩ := Option.isSome_iff_exists.mp ((h k).mpr hk)
      rw [hv, get?_map_self_of_mem _ (List.mem_reverse.mpr hk)]
      rfl
    · rw [Option.not_isSome_iff_eq_none.mp fun hs => hk ((h k).mp hs),
        get?_map_self_of_not_mem _ fun hr => hk (List.mem_reverse.mp hr)]
      rfl
  calc m.map Prod.fst = (m.map fun x => (x.1, ())).map Prod.fst := by simp
    _ = keysOf ks := by rw [hunit, keysOf]

end Lawful

end Lookup

end DataQuality.Ordered
