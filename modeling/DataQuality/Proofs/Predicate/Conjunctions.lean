import DataQuality.Proofs.Predicate.Forms

/-!
# Where a predicate is cut into a conjunction

A conjunction is cut at each `AND` (blanks, a word that can stand for `and`, a blank) that has an
even number of quotes before it.  `AndAhead` says that such an `AND` starts at the front of a
text, and every match of the pattern of the cuts is one (`andAhead_of_ends`).  `Unjoined` says
that none starts outside quotes, position by position, in a form that follows a text piece by
piece; a text of which that holds is read whole (`conjuncts_eq_none`).  A range
`c BETWEEN lo AND hi` has one cut, the `AND` of the range, and its parts are joined back.
-/

namespace DataQuality.Predicate

open Pattern Term

/-- Whether a quote is open after one more character. -/
def insideAfter (inside : Bool) (x : Char) : Bool :=
  if x = '\'' then !inside else inside

/-- An `AND` of a conjunction starts at the front of the text: one or more blanks, a word that can
stand for `and`, and a blank. -/
def AndAhead (v : List Char) : Prop :=
  ∃ k, 1 ≤ k ∧ k ≤ runLength Text.isBlank v ∧ fitsAt ("and".toList.map caseless) (v.drop k) = true ∧
    0 < runLength Text.isBlank (v.drop (k + 3))

/-- No `AND` of a conjunction starts outside quotes in `u`, read before `v`; `inside` tells
whether a quote is open before `u`. -/
def Unjoined (v : List Char) : Bool → List Char → Prop
  | _, [] => True
  | inside, x :: u => (inside = false → ¬AndAhead (x :: (u ++ v))) ∧ Unjoined v (insideAfter inside x) u

/-! ### Facts about listed characters

A statement about each character of a list is decided here through the list's `all`: deciding
the statement itself may instead go through every character there is, once the instance that
decides statements about all characters is in scope. -/

section Listed

variable {P : Char → Prop} [DecidablePred P]

lemma forall_mem_of_all {l : List Char} (h : (l.all fun ch => decide (P ch)) = true) :
    ∀ ch ∈ l, P ch := by
  simpa using h

lemma forall_mem_of_option_all {o : Option Char} (h : (o.all fun ch => decide (P ch)) = true) :
    ∀ ch ∈ o, P ch := by
  cases o <;> simp_all

end Listed

/-! ### Texts without blanks at their ends -/

section Trim

lemma dropWhile_of_head {p : Char → Bool} {s : List Char} (h : ∀ ch ∈ s.head?, p ch = false) :
    s.dropWhile p = s := by
  cases s with
  | nil => rfl
  | cons ch s => rw [List.dropWhile_cons_of_neg (by simpa using h ch rfl)]

/-- Trimming keeps a text that neither starts nor ends with a blank. -/
lemma trim_ofList {s : List Char} (hhead : ∀ ch ∈ s.head?, Text.isBlank ch = false)
    (hlast : ∀ ch ∈ s.getLast?, Text.isBlank ch = false) : Text.trim (String.ofList s) = String.ofList s := by
  rw [Text.trim, Text.trimStart, String.toList_ofList, dropWhile_of_head hhead, Text.trimEnd,
    String.toList_ofList, dropWhile_of_head (by rwa [List.head?_reverse]), List.reverse_reverse]

end Trim

/-! ### The start of an `AND` -/

section Ahead

/-- Every match of the pattern of the cuts starts an `AND`. -/
lemma andAhead_of_ends {t : List Char} {j : Nat} {g : Groups} (h : conjunctionTerm.ends t j g ≠ []) :
    AndAhead (t.drop j) := by
  rw [conjunctionTerm, seqs_cons, ends_seq, Ne, List.flatMap_eq_nil_iff] at h
  obtain ⟨e, he, hne⟩ : ∃ e ∈ (many Text.isBlank 1).ends t j g,
      (seqs [keyword "and", many Text.isBlank 1]).ends t e.1 e.2 ≠ [] := by
    simpa only [Classical.not_forall, Classical.not_imp, exists_prop] using h
  simp only [ends_many_eq, List.mem_map, List.mem_reverse, List.mem_range'_1] at he
  obtain ⟨k, hk, rfl⟩ := he
  rw [seqs_cons, ends_seq_keyword] at hne
  split at hne
  · rename_i hfit
    rw [seqs_cons, seqs_nil, ends_seq_empty_right] at hne
    simp only [ends_many_eq, Ne, List.map_eq_nil_iff, List.reverse_eq_nil_iff, List.range'_eq_nil_iff] at hne
    have h3 : j + (k + 3) = j + k + "and".toList.length := by
      rw [show "and".toList.length = 3 from rfl, Nat.add_assoc]
    refine ⟨k, hk.1, by omega, by rwa [List.drop_drop], ?_⟩
    rw [List.drop_drop, h3]
    omega
  · exact absurd rfl hne

lemma runLength_eq_zero_of_head {p : Char → Bool} {v : List Char} (h : ∀ ch ∈ v.head?, p ch = false) :
    runLength p v = 0 := by
  cases v with
  | nil => rfl
  | cons ch v => exact runLength_cons_of_not _ (h ch rfl)

/-- No `AND` starts at a character that is not blank. -/
lemma not_andAhead_of_head {v : List Char} (h : ∀ ch ∈ v.head?, Text.isBlank ch = false) : ¬AndAhead v := by
  rintro ⟨k, hk, hkr, -, -⟩
  rw [runLength_eq_zero_of_head h] at hkr
  omega

/-- A single blank before the character `y` is the whole run of blanks there. -/
lemma runLength_blank_cons {x : Char} {w : List Char} (hx : Text.isBlank x = true)
    (hw : ∀ ch ∈ w.head?, Text.isBlank ch = false) : runLength Text.isBlank (x :: w) = 1 := by
  rw [show x :: w = [x] ++ w from rfl, runLength_append_of_all _ (by simpa using hx),
    runLength_eq_zero_of_head hw, List.length_singleton]

/-- A blank followed by a character that is no blank and cannot stand for `a` starts no `AND`. -/
lemma not_andAhead_blank_of_next {x y : Char} {rest : List Char} (hx : Text.isBlank x = true)
    (hy : Text.isBlank y = false) (ha : caseless 'a' y = false) : ¬AndAhead (x :: y :: rest) := by
  rintro ⟨k, hk, hkr, hfit, -⟩
  rw [runLength_blank_cons hx (by simpa using hy)] at hkr
  obtain rfl : k = 1 := by omega
  simp [fitsAt, ha] at hfit

/-- A blank followed by a character that is no blank, where the text does not go on with `and`
in any case, starts no `AND`. -/
lemma not_andAhead_blank_of_fits {x : Char} {w : List Char} (hx : Text.isBlank x = true)
    (hw : ∀ ch ∈ w.head?, Text.isBlank ch = false) (hfit : fitsAt ("and".toList.map caseless) w = false) :
    ¬AndAhead (x :: w) := by
  rintro ⟨k, hk, hkr, hfit', -⟩
  rw [runLength_blank_cons hx hw] at hkr
  obtain rfl : k = 1 := by omega
  rw [List.drop_one, List.tail_cons, hfit] at hfit'
  exact Bool.false_ne_true hfit'

/-- A blank followed by a word without blanks that ends the text starts no `AND`: the blank
after `and` is missing. -/
lemma not_andAhead_blank_of_token {x : Char} {w : List Char} (hx : Text.isBlank x = true)
    (hw : ∀ ch ∈ w, Text.isBlank ch = false) : ¬AndAhead (x :: w) := by
  rintro ⟨k, hk, hkr, -, hafter⟩
  rw [runLength_blank_cons hx fun ch hch => hw ch (List.mem_of_mem_head? hch)] at hkr
  obtain rfl : k = 1 := by omega
  rw [show (x :: w).drop (1 + 3) = w.drop 3 from rfl,
    runLength_eq_zero_of_head fun ch hch => hw ch (List.mem_of_mem_drop (List.mem_of_mem_head? hch))] at hafter
  exact Nat.lt_irrefl 0 hafter

end Ahead

/-! ### No `AND` outside quotes -/

section Unjoined

variable {v : List Char}

/-- Whether a quote is open after a text is the parity of its quotes. -/
lemma foldl_insideAfter (b : Bool) (u : List Char) :
    u.foldl insideAfter b = (b ^^ decide (u.count '\'' % 2 = 1)) := by
  induction u generalizing b with
  | nil => simp
  | cons x u ih =>
    rw [List.foldl_cons, ih, List.count_cons]
    by_cases hx : x = '\''
    · subst hx
      have hpar : decide ((u.count '\'' + 1) % 2 = 1) = !decide (u.count '\'' % 2 = 1) := by
        rcases Nat.mod_two_eq_zero_or_one (u.count '\'') with h | h <;> simp [h, Nat.add_mod]
      simp [insideAfter, hpar]
    · simp [insideAfter, hx]

lemma foldl_insideAfter_of_ne {b : Bool} {u : List Char} (h : ∀ x ∈ u, x ≠ '\'') : u.foldl insideAfter b = b := by
  rw [foldl_insideAfter, List.count_eq_zero.mpr fun hq => h _ hq rfl]
  simp

/-- A text read in two pieces: the first before the second and what follows, the second after
the quotes the first opened. -/
lemma unjoined_append {b : Bool} {u₁ u₂ : List Char} (h₁ : Unjoined (u₂ ++ v) b u₁)
    (h₂ : Unjoined v (u₁.foldl insideAfter b) u₂) : Unjoined v b (u₁ ++ u₂) := by
  induction u₁ generalizing b with
  | nil => exact h₂
  | cons x u ih =>
    obtain ⟨hx, hu⟩ := h₁
    rw [List.cons_append]
    exact ⟨fun hb => by rw [List.append_assoc]; exact hx hb, ih hu h₂⟩

/-- Characters none of which is blank start no `AND`. -/
lemma unjoined_of_nonblank {b : Bool} {u : List Char} (h : ∀ x ∈ u, Text.isBlank x = false) :
    Unjoined v b u := by
  induction u generalizing b with
  | nil => trivial
  | cons x u ih =>
    exact ⟨fun _ => not_andAhead_of_head (by simpa using h x List.mem_cons_self),
      ih fun y hy => h y (List.mem_cons_of_mem x hy)⟩

/-- Inside quotes no `AND` counts. -/
lemma unjoined_inside {u : List Char} (h : ∀ x ∈ u, x ≠ '\'') : Unjoined v true u := by
  induction u with
  | nil => trivial
  | cons x u ih =>
    refine ⟨fun hb => Bool.noConfusion hb, ?_⟩
    rw [insideAfter, if_neg (h x List.mem_cons_self)]
    exact ih fun y hy => h y (List.mem_cons_of_mem x hy)

/-- A quoted text without quotes inside: no `AND` in it counts, and it closes the quote it opens. -/
lemma unjoined_quoted {q : List Char} (hq : ∀ x ∈ q, x ≠ '\'') :
    Unjoined v false ('\'' :: (q ++ ['\''])) ∧ ('\'' :: (q ++ ['\''])).foldl insideAfter false = false := by
  have hinside : (q ++ ['\'']).foldl insideAfter true = false := by
    rw [List.foldl_append, foldl_insideAfter_of_ne hq]
    rfl
  refine ⟨⟨fun _ => not_andAhead_of_head (by simp; rfl), ?_⟩, hinside⟩
  exact unjoined_append (unjoined_inside hq) (by rw [foldl_insideAfter_of_ne hq]; exact ⟨fun hb => Bool.noConfusion hb, trivial⟩)

/-- A blank followed by a character that is no blank and cannot stand for `a`. -/
lemma unjoined_blank {b : Bool} {x : Char} {u : List Char} (hx : Text.isBlank x = true)
    (hnext : ∀ ch ∈ (u ++ v).head?, Text.isBlank ch = false ∧ caseless 'a' ch = false) (hu : Unjoined v b u) :
    Unjoined v b (x :: u) := by
  have hq : x ≠ '\'' := ne_of_isBlank hx rfl
  refine ⟨fun _ => ?_, by rwa [insideAfter, if_neg hq]⟩
  cases hw : u ++ v with
  | nil => exact not_andAhead_blank_of_token hx fun _ hch => absurd hch List.not_mem_nil
  | cons y w =>
    obtain ⟨hy, ha⟩ := hnext y (by rw [hw]; rfl)
    exact not_andAhead_blank_of_next hx hy ha

/-- Where no `AND` starts outside quotes, none starts at a position with an even number of
quotes before it. -/
lemma not_andAhead_of_unjoined {b : Bool} {u : List Char} (h : Unjoined v b u) {a : Nat} (ha : a < u.length)
    (hout : (u.take a).foldl insideAfter b = false) : ¬AndAhead ((u ++ v).drop a) := by
  induction u generalizing b a with
  | nil => exact absurd ha (Nat.not_lt_zero a)
  | cons x u ih =>
    cases a with
    | zero => exact h.1 hout
    | succ a =>
      rw [List.cons_append, List.drop_succ_cons]
      exact ih h.2 (by simpa using ha) hout

end Unjoined

/-! ### The cuts of a predicate -/

section Cuts

variable {P : Patterns} {word : Char → Bool}

/-- Each cut that the pattern of the cuts finds in a text with no `AND` outside quotes has an odd
number of quotes before it. -/
lemma odd_of_mem_conjunction (hf : P.Follow word) {expr : String} (h : Unjoined [] false expr.toList)
    {span : Nat × Nat} (hspan : span ∈ P.conjunction expr) : (expr.toList.take span.1).count '\'' % 2 ≠ 0 := by
  rw [hf.conjunction] at hspan
  obtain ⟨g, hg⟩ := firstAt_of_mem_spansFrom hspan
  have hahead : AndAhead (expr.toList.drop span.1) := by
    refine andAhead_of_ends (g := Groups.empty) fun hnil => ?_
    rw [firstAt, hnil, List.head?_nil] at hg
    cases hg
  intro heven
  by_cases ha : span.1 < expr.toList.length
  · have hout : (expr.toList.take span.1).foldl insideAfter false = false := by
      rw [foldl_insideAfter, heven]
      rfl
    exact not_andAhead_of_unjoined h ha hout (by rwa [List.append_nil])
  · rw [List.drop_eq_nil_of_le (Nat.le_of_not_lt ha)] at hahead
    exact not_andAhead_of_head (fun _ hch => absurd hch (by simp)) hahead

/-- A text with no `AND` outside quotes is no conjunction. -/
lemma conjuncts_eq_none (hf : P.Follow word) {expr : String} (h : Unjoined [] false expr.toList) :
    conjuncts P expr = none := by
  have hnil : (P.conjunction expr).filter (fun span => (expr.toList.take span.1).count '\'' % 2 == 0) = [] :=
    List.filter_eq_nil_iff.mpr fun span hspan => by simpa using odd_of_mem_conjunction hf h hspan
  unfold conjuncts
  simp only [hnil, List.foldl_nil, Array.back?_empty]
  exact if_neg (Nat.not_lt.mpr (Nat.le_trans (List.length_filter_le _ _) (by simp)))

/-- A text with one cut, whose first part ends in `BETWEEN x`, is no conjunction: the second part
is joined back to the first. -/
lemma conjuncts_eq_none_of_cut {expr : String} {a b : Nat}
    (h : (P.conjunction expr).filter (fun span => (expr.toList.take span.1).count '\'' % 2 == 0) = [(a, b)])
    (hopen : P.openBetween (Text.trim (String.ofList (expr.toList.take a))) = true) :
    conjuncts P expr = none := by
  unfold conjuncts
  simp only [h, List.foldl_cons, List.foldl_nil, Array.back?_empty, Nat.sub_zero, List.drop_zero,
    Array.back?_push, hopen, if_true]
  exact if_neg (Nat.not_lt.mpr (Nat.le_trans (List.length_filter_le _ _) (by simp)))

/-- The cuts of a text with one `AND` outside quotes and none before it in `u`: the `AND` itself. -/
lemma spansFrom_conjunction_single {u hi : List Char} (hu : Unjoined (' ' :: 'A' :: 'N' :: 'D' :: ' ' :: hi) false u)
    (hq : ∀ x ∈ u, x ≠ '\'') (hhi : IsToken hi) :
    conjunctionTerm.spansFrom (u ++ ' ' :: 'A' :: 'N' :: 'D' :: ' ' :: hi) 0 = [(u.length, u.length + 5)] := by
  have d₀ : (u ++ ' ' :: 'A' :: 'N' :: 'D' :: ' ' :: hi).drop u.length = ' ' :: 'A' :: 'N' :: 'D' :: ' ' :: hi :=
    List.drop_left
  have d₁ := drop_succ_of_drop_eq_cons d₀
  have d₄ := drop_add_of_drop_eq_append (u := ['A', 'N', 'D']) d₁
  have hand : "and".toList.length = ['A', 'N', 'D'].length := rfl
  have hbefore : ∀ j, 0 ≤ j → j < u.length →
      conjunctionTerm.ends (u ++ ' ' :: 'A' :: 'N' :: 'D' :: ' ' :: hi) j Groups.empty = [] := by
    intro j _ hj
    refine Classical.byContradiction fun hne => not_andAhead_of_unjoined hu hj ?_ (andAhead_of_ends hne)
    exact foldl_insideAfter_of_ne fun x hx => hq x (List.mem_of_mem_take hx)
  have hat : conjunctionTerm.ends (u ++ ' ' :: 'A' :: 'N' :: 'D' :: ' ' :: hi) u.length Groups.empty =
      [(u.length + 1 + ['A', 'N', 'D'].length + 1, Groups.empty)] := by
    rw [conjunctionTerm, ends_one_blank _ d₀ (by simp; rfl), seqs_cons, ends_seq_keyword,
      if_pos (by rw [d₁]; rfl), hand, ends_one_blank _ d₄ hhi.head_not_blank, seqs_nil, ends_empty]
  have hafter : ∀ j, u.length + 5 ≤ j → j ≤ (u ++ ' ' :: 'A' :: 'N' :: 'D' :: ' ' :: hi).length →
      conjunctionTerm.ends (u ++ ' ' :: 'A' :: 'N' :: 'D' :: ' ' :: hi) j Groups.empty = [] := by
    intro j hj _
    refine Classical.byContradiction fun hne => not_andAhead_of_head ?_ (andAhead_of_ends hne)
    rw [show j = u.length + 1 + ['A', 'N', 'D'].length + 1 + (j - (u.length + 5)) by simp; omega, ← List.drop_drop,
      drop_succ_of_drop_eq_cons d₄]
    exact fun ch hch => hhi.not_blank ch (List.mem_of_mem_drop (List.mem_of_mem_head? hch))
  rw [spansFrom_of_leftmost_some (leftmost_eq_some hbefore (Nat.zero_le _) (by simp) (by rw [firstAt, hat]; rfl)),
    spansFrom_of_leftmost_none (leftmost_eq_none fun j hj hjt => hafter j (by simp at hj; omega) hjt)]
  simp

/-- The part of a range before its `AND` ends in `BETWEEN lo`, whatever stands before the blank. -/
lemma openBetween_ends (hw : WordClass word) (c : List Char) {lo : List Char} (hlo : IsToken lo) :
    (openBetweenTerm word).ends (c ++ ' ' :: 'B' :: 'E' :: 'T' :: 'W' :: 'E' :: 'E' :: 'N' :: ' ' :: lo)
      (c.length + 1) Groups.empty ≠ [] := by
  have d₀ : (c ++ ' ' :: 'B' :: 'E' :: 'T' :: 'W' :: 'E' :: 'E' :: 'N' :: ' ' :: lo).drop c.length =
      ' ' :: 'B' :: 'E' :: 'T' :: 'W' :: 'E' :: 'E' :: 'N' :: ' ' :: lo := List.drop_left
  have d₁ := drop_succ_of_drop_eq_cons d₀
  have d₈ := drop_add_of_drop_eq_append (u := ['B', 'E', 'T', 'W', 'E', 'E', 'N']) d₁
  have d₉ := drop_succ_of_drop_eq_cons d₈
  have hkw : "between".toList.length = ['B', 'E', 'T', 'W', 'E', 'E', 'N'].length := rfl
  have hblank : (c ++ ' ' :: 'B' :: 'E' :: 'T' :: 'W' :: 'E' :: 'E' :: 'N' :: ' ' :: lo)[c.length + 1 - 1]? = some ' ' := by
    rw [Nat.add_sub_cancel]
    exact getElem?_of_drop_eq_cons d₀
  have hrun : runLength nonblank ((c ++ ' ' :: 'B' :: 'E' :: 'T' :: 'W' :: 'E' :: 'E' :: 'N' :: ' ' :: lo).drop
      (c.length + 1 + ['B', 'E', 'T', 'W', 'E', 'E', 'N'].length + 1)) = lo.length := by
    rw [d₉]
    exact runLength_of_all fun ch hch => by simp [nonblank, hlo.not_blank ch hch]
  rw [openBetweenTerm, seqs_cons, ends_seq_boundary_of_word _ hblank (getElem?_of_drop_eq_cons d₁)
      (hw.eq_false (by decide) (by decide)) (by rw [hw.ascii 'B' (by decide)]; rfl),
    seqs_cons, ends_seq_keyword, if_pos (by rw [d₁]; rfl), hkw, ends_one_blank _ d₈ hlo.head_not_blank, seqs_cons,
    ends_seq_many_of_rejects hrun (List.length_pos_iff.mpr hlo.ne_nil) fun x _ => rejects_seqs_cons _ (rejects_finish x),
    seqs_cons, ends_seq_finish, if_pos (by simp; omega), seqs_nil, ends_empty]
  exact List.cons_ne_nil _ _

/-- A range `c BETWEEN lo AND hi` is no conjunction: its one cut is the `AND` of the range, and
the part before it ends in `BETWEEN lo`. -/
lemma conjuncts_range (hw : WordClass word) (hf : P.Follow word) {c lo hi : List Char} (hc : IsName word c)
    (hlo : IsToken lo) (hlo_a : ∀ ch ∈ lo.head?, caseless 'a' ch = false) (hhi : IsToken hi) :
    conjuncts P (String.ofList (c ++ ' ' :: 'B' :: 'E' :: 'T' :: 'W' :: 'E' :: 'E' :: 'N' :: ' ' ::
      (lo ++ ' ' :: 'A' :: 'N' :: 'D' :: ' ' :: hi))) = none := by
  have ht : c ++ ' ' :: 'B' :: 'E' :: 'T' :: 'W' :: 'E' :: 'E' :: 'N' :: ' ' :: (lo ++ ' ' :: 'A' :: 'N' :: 'D' :: ' ' :: hi) =
      (c ++ ' ' :: 'B' :: 'E' :: 'T' :: 'W' :: 'E' :: 'E' :: 'N' :: ' ' :: lo) ++ ' ' :: 'A' :: 'N' :: 'D' :: ' ' :: hi := by
    simp
  have hcq : ∀ x ∈ c, x ≠ '\'' := fun x hx => hw.ne_of_word (hc.word x hx) (by decide) (by decide)
  have hq : ∀ x ∈ c ++ ' ' :: 'B' :: 'E' :: 'T' :: 'W' :: 'E' :: 'E' :: 'N' :: ' ' :: lo, x ≠ '\'' := by
    intro x hx
    simp only [List.mem_append, List.mem_cons] at hx
    rcases hx with hx | rfl | rfl | rfl | rfl | rfl | rfl | rfl | rfl | rfl | hx
    · exact hcq x hx
    all_goals first | decide | exact hlo.not_quote x hx
  -- the name, a blank before `B`, the keyword, a blank before the lower bound, the bound
  have hu : Unjoined (' ' :: 'A' :: 'N' :: 'D' :: ' ' :: hi) false
      (c ++ ' ' :: 'B' :: 'E' :: 'T' :: 'W' :: 'E' :: 'E' :: 'N' :: ' ' :: lo) := by
    refine unjoined_append (unjoined_of_nonblank fun x hx => hw.isBlank_eq_false (hc.word x hx)) ?_
    rw [foldl_insideAfter_of_ne hcq]
    refine unjoined_blank rfl (by simp; decide) ?_
    refine unjoined_append (show Unjoined _ false ['B', 'E', 'T', 'W', 'E', 'E', 'N'] from
      unjoined_of_nonblank (forall_mem_of_all (by decide))) ?_
    refine unjoined_blank rfl ?_ (unjoined_of_nonblank hlo.not_blank)
    intro ch hch
    exact ⟨hlo.head_append_not_blank _ ch hch, hlo_a ch (by rwa [List.head?_append, List.head?_eq_some_head hlo.ne_nil, Option.some_or, ← List.head?_eq_some_head hlo.ne_nil] at hch)⟩
  have hcount : ((c ++ ' ' :: 'B' :: 'E' :: 'T' :: 'W' :: 'E' :: 'E' :: 'N' :: ' ' :: lo).count '\'' % 2 == 0) = true := by
    rw [List.count_eq_zero.mpr fun hx => hq _ hx rfl]
    rfl
  apply conjuncts_eq_none_of_cut (a := (c ++ ' ' :: 'B' :: 'E' :: 'T' :: 'W' :: 'E' :: 'E' :: 'N' :: ' ' :: lo).length)
    (b := (c ++ ' ' :: 'B' :: 'E' :: 'T' :: 'W' :: 'E' :: 'E' :: 'N' :: ' ' :: lo).length + 5)
  · rw [hf.conjunction, Term.spans, String.toList_ofList, ht, spansFrom_conjunction_single hu hq hhi,
      List.filter_cons_of_pos (by rw [List.take_left]; exact hcount), List.filter_nil]
  · have hlast : ∀ ch ∈ (c ++ ' ' :: 'B' :: 'E' :: 'T' :: 'W' :: 'E' :: 'E' :: 'N' :: ' ' :: lo).getLast?,
        Text.isBlank ch = false := by
      rw [show c ++ ' ' :: 'B' :: 'E' :: 'T' :: 'W' :: 'E' :: 'E' :: 'N' :: ' ' :: lo =
        (c ++ [' ', 'B', 'E', 'T', 'W', 'E', 'E', 'N', ' ']) ++ lo by simp]
      exact hlo.getLast_append_not_blank _
    rw [hf.openBetween, String.toList_ofList, ht, List.take_left, trim_ofList (hc.head_append_not_blank hw _) hlast, Term.isMatch,
      String.toList_ofList]
    exact isSome_leftmost (Nat.zero_le _) (by simp) (openBetween_ends hw c hlo)

end Cuts

end DataQuality.Predicate
