import Mathlib
import DataQuality.Proofs.Predicate.Conjunctions

/-!
# Reading a predicate always finishes

Reading a predicate recurses on texts that are not pieces of the one it reads: the parts of a
conjunction are cut out and trimmed, and a part ending in `BETWEEN x` is glued back to the next
one with ` AND `.  So the reader runs on fuel, one unit for each level of nested reads, and
`parseWith` hands it one unit more than the unwrapped text has characters.  This module shows
that the fuel is never what stops it.

* A match of a term takes at least `Term.least` characters and ends inside the text.  A cut of
  a conjunction thus takes five characters at least, as many as the ` AND ` that glues two
  parts back, and the rest of `col IS NULL OR rest` starts after the thirteen characters that
  come before it at least.
* Each text that reading reads in turn is strictly shorter than the unwrapped text it came from
  (`length_lt_of_mem_nestedReads`), and unwrapping takes two characters in each round, so its
  loop stops by its own test before its bound (`wrapped_unwrap`).
* Hence no chain of nested reads is as long as the text (`readsWithin_length`), and reading with
  that fuel gives what any larger fuel gives (`read_eq_of_readsWithin`).
-/

namespace DataQuality

namespace Pattern.Term

/-! ### How many characters a match takes -/

/-- The fewest characters a match of a term takes. -/
def least : Term → Nat
  | one _ => 1
  | many _ m => m
  | seq a b => a.least + b.least
  | alt a b => min a.least b.least
  | group _ a => a.least
  | start => 0
  | finish => 0
  | boundary _ => 0
  | empty => 0

variable {t : List Char}

/-- A match takes at least the fewest characters of its term. -/
lemma add_least_le_of_mem_ends (r : Term) {i : Nat} {g : Groups} {e : Nat × Groups}
    (h : e ∈ r.ends t i g) : i + r.least ≤ e.1 := by
  induction r generalizing i g e with
  | one p =>
    rw [ends_one] at h
    split at h
    · rw [List.mem_singleton.mp h]
      rfl
    · cases h
  | many p m =>
    simp only [ends_many_eq, List.mem_map, List.mem_reverse, List.mem_range'_1] at h
    obtain ⟨k, hk, rfl⟩ := h
    simp only [least]
    omega
  | seq a b iha ihb =>
    rw [ends_seq, List.mem_flatMap] at h
    obtain ⟨e₁, h₁, h₂⟩ := h
    have ha := iha h₁
    have hb := ihb h₂
    simp only [least]
    omega
  | alt a b iha ihb =>
    rw [ends_alt, List.mem_append] at h
    simp only [least]
    rcases h with h | h
    · have ha := iha h
      omega
    · have hb := ihb h
      omega
  | group n a ih =>
    rw [ends_group, List.mem_map] at h
    obtain ⟨e', h', rfl⟩ := h
    exact (ih h' :)
  | start =>
    rw [ends_start] at h
    split at h <;> simp_all [least]
  | finish =>
    rw [ends_finish] at h
    split at h <;> simp_all [least]
  | boundary w =>
    rw [ends_boundary] at h
    split at h <;> simp_all [least]
  | empty => simp_all [least]

/-- A match that starts inside the text ends inside it. -/
lemma le_length_of_mem_ends (r : Term) {i : Nat} {g : Groups} {e : Nat × Groups}
    (hi : i ≤ t.length) (h : e ∈ r.ends t i g) : e.1 ≤ t.length := by
  induction r generalizing i g e with
  | one p =>
    rw [ends_one] at h
    split at h
    · rename_i hc
      rw [List.mem_singleton.mp h]
      -- a character of the class stands at `i`, so `i` is a position of the text
      have hlt : i < t.length := by
        by_contra hge
        simp [classAt, List.getElem?_eq_none (Nat.le_of_not_lt hge)] at hc
      exact hlt
    · cases h
  | many p m =>
    simp only [ends_many_eq, List.mem_map, List.mem_reverse, List.mem_range'_1] at h
    obtain ⟨k, hk, rfl⟩ := h
    have hrun : runLength p (t.drop i) ≤ t.length - i :=
      (List.takeWhile_prefix p).length_le.trans_eq List.length_drop
    dsimp only
    omega
  | seq a b iha ihb =>
    rw [ends_seq, List.mem_flatMap] at h
    obtain ⟨e₁, h₁, h₂⟩ := h
    exact ihb (iha hi h₁) h₂
  | alt a b iha ihb =>
    rw [ends_alt, List.mem_append] at h
    exact h.elim (iha hi) (ihb hi)
  | group n a ih =>
    rw [ends_group, List.mem_map] at h
    obtain ⟨e', h', rfl⟩ := h
    exact (ih hi h' :)
  | start =>
    rw [ends_start] at h
    split at h <;> simp_all
  | finish =>
    rw [ends_finish] at h
    split at h <;> simp_all
  | boundary w =>
    rw [ends_boundary] at h
    split at h <;> simp_all
  | empty => simp_all

/-- A sequence of terms read in two stretches, the second from each end of the first. -/
lemma ends_seqs_append (l₁ l₂ : List Term) {i : Nat} {g : Groups} :
    (seqs (l₁ ++ l₂)).ends t i g = ((seqs l₁).ends t i g).flatMap fun e => (seqs l₂).ends t e.1 e.2 := by
  induction l₁ generalizing i g with
  | nil => simp
  | cons r l₁ ih => simp only [List.cons_append, seqs_cons, ends_seq, ih, List.flatMap_assoc]

end Pattern.Term

namespace Predicate

open Pattern Term

variable {P : Patterns} {word : Char → Bool}

/-! ### Texts that only get shorter -/

lemma length_trim_le (s : String) : (Text.trim s).length ≤ s.length := by
  simp only [Text.trim, Text.trimEnd, Text.trimStart, List.length_reverse, String.toList_ofList,
    ← String.length_toList]
  calc _ ≤ (List.dropWhile Text.isBlank s.toList).reverse.length := List.length_dropWhile_le _ _
    _ = (List.dropWhile Text.isBlank s.toList).length := List.length_reverse
    _ ≤ s.toList.length := List.length_dropWhile_le _ _

/-! ### The cuts of a conjunction

The pieces between cuts go to the parts; a piece that follows a part ending in `BETWEEN x` is
glued to it with ` AND `.  Either way the parts grow by the piece and five characters, and a
cut takes five characters at least, so the parts with five characters for each never hold more
than the text up to the last cut (`cutWeight`). -/

/-- Spans in order from position `last` on: each starts where the one before stopped or later,
takes five characters at least, and stops by `n`. -/
def Spaced (n : Nat) : Nat → List (Nat × Nat) → Prop
  | _, [] => True
  | last, span :: rest => last ≤ span.1 ∧ span.1 + 5 ≤ span.2 ∧ span.2 ≤ n ∧ Spaced n span.2 rest

lemma Spaced.mono {n last last' : Nat} {spans : List (Nat × Nat)} (h : Spaced n last spans)
    (hle : last' ≤ last) : Spaced n last' spans := by
  cases spans with
  | nil => trivial
  | cons span rest =>
    obtain ⟨h₁, h₂, h₃, h₄⟩ := h
    exact ⟨hle.trans h₁, h₂, h₃, h₄⟩

/-- Leaving spans out keeps the others in order. -/
lemma Spaced.filter {n : Nat} (p : Nat × Nat → Bool) {last : Nat} {spans : List (Nat × Nat)}
    (h : Spaced n last spans) : Spaced n last (spans.filter p) := by
  induction spans generalizing last with
  | nil => trivial
  | cons span rest ih =>
    obtain ⟨h₁, h₂, h₃, h₄⟩ := h
    rw [List.filter_cons]
    split
    · exact ⟨h₁, h₂, h₃, ih h₄⟩
    · exact (ih h₄).mono (by omega)

/-- The successive matches of the `AND` of conjunctions are spaced: each takes five characters
at least, and the search for the next starts where it stopped. -/
lemma spaced_spansFrom_conjunction (t : List Char) (s : Nat) :
    Spaced t.length s (conjunctionTerm.spansFrom t s) := by
  induction s using spansFrom.induct conjunctionTerm t with
  | case1 s hnone =>
    rw [spansFrom_of_leftmost_none hnone]
    trivial
  | case2 s m hm ih =>
    obtain ⟨hs, hm₁⟩ := leftmost_bounds hm
    have hmem : m.2 ∈ conjunctionTerm.ends t m.1 Groups.empty := List.mem_of_mem_head? (firstAt_of_leftmost hm)
    have hfive : m.1 + 5 ≤ m.2.1 := add_least_le_of_mem_ends conjunctionTerm hmem
    rw [max_eq_left (by omega)] at ih
    rw [spansFrom_of_leftmost_some hm, max_eq_left (by omega)]
    exact ⟨hs, hfive, le_length_of_mem_ends conjunctionTerm hm₁ hmem, ih⟩

/-- The characters of some parts, and five more for each. -/
def cutWeight (parts : List String) : Nat :=
  (parts.map String.length).sum + 5 * parts.length

@[simp] lemma cutWeight_nil : cutWeight [] = 0 := rfl

@[simp] lemma cutWeight_append_singleton (parts : List String) (p : String) :
    cutWeight (parts ++ [p]) = cutWeight parts + p.length + 5 := by
  simp only [cutWeight, List.map_append, List.map_cons, List.map_nil, List.sum_append, List.sum_cons,
    List.sum_nil, List.length_append, List.length_cons, List.length_nil]
  omega

lemma cutWeight_filter_le (q : String → Bool) (parts : List String) :
    cutWeight (parts.filter q) ≤ cutWeight parts := by
  have hsub : List.Sublist (parts.filter q) parts := List.filter_sublist
  have hsum := (hsub.map String.length).sum_le_sum fun _ _ => Nat.zero_le _
  have hlen := hsub.length_le
  simp only [cutWeight]
  omega

/-- Of two parts or more, each leaves room for five characters besides its own and its own
five. -/
lemma add_ten_le_cutWeight {parts : List String} {p : String} (hp : p ∈ parts) (hlen : 1 < parts.length) :
    p.length + 10 ≤ cutWeight parts := by
  have hle : p.length ≤ (parts.map String.length).sum := List.le_sum_of_mem (List.mem_map_of_mem hp)
  simp only [cutWeight]
  omega

/-- Cutting a text from the left: while each piece goes to the parts through `attach`, which
adds the piece and five characters to their weight, the weight stays within the position of
the last cut. -/
lemma cutWeight_of_foldl (attach : Array String → String → Array String) (slice : Nat → Nat → String)
    (hattach : ∀ parts piece, cutWeight (attach parts piece).toList = cutWeight parts.toList + piece.length + 5)
    (hslice : ∀ a b, (slice a b).length ≤ b - a) {n : Nat} {spans : List (Nat × Nat)}
    {acc : Array String × Nat} {parts : Array String} {last : Nat}
    (h : spans.foldl (fun acc span => (attach acc.1 (Text.trim (slice acc.2 span.1)), span.2)) acc = (parts, last))
    (hs : Spaced n acc.2 spans) (hw : cutWeight acc.1.toList ≤ acc.2) (hn : acc.2 ≤ n) :
    cutWeight parts.toList ≤ last ∧ last ≤ n := by
  induction spans generalizing acc with
  | nil =>
    cases h
    exact ⟨hw, hn⟩
  | cons span rest ih =>
    obtain ⟨h₁, h₂, h₃, h₄⟩ := hs
    rw [List.foldl_cons] at h
    -- the piece before the cut fits in the characters since the last cut
    have hpiece := (length_trim_le (slice acc.2 span.1)).trans (hslice acc.2 span.1)
    refine ih h h₄ ?_ h₃
    rw [hattach]
    omega

/-- Each part of a conjunction is shorter than the text it was cut from. -/
lemma length_lt_of_mem_conjuncts (hf : P.Follow word) {expr : String} {parts : List String}
    (h : conjuncts P expr = some parts) {p : String} (hp : p ∈ parts) : p.length < expr.length := by
  unfold conjuncts at h
  extract_lets chars slice spans attach at h
  have hslice : ∀ a b, (slice a b).length ≤ b - a := fun a b => by
    simp only [slice, String.length_ofList, List.length_take]
    exact Nat.min_le_left _ _
  have hattach : ∀ ps piece, cutWeight (attach ps piece).toList = cutWeight ps.toList + piece.length + 5 := by
    intro ps piece
    simp only [attach]
    split
    · rename_i previous hback
      obtain ⟨ys, rfl⟩ := Array.back?_eq_some_iff.mp hback
      split
      · simp only [Array.pop_push, Array.toList_push, cutWeight_append_singleton, String.length_append]
        have hand : " AND ".length = 5 := rfl
        omega
      · rw [Array.toList_push, cutWeight_append_singleton]
    · rw [Array.toList_push, cutWeight_append_singleton]
  have hspaced : Spaced chars.length 0 spans := by
    show Spaced expr.toList.length 0 ((P.conjunction expr).filter _)
    rw [hf.conjunction]
    exact (spaced_spansFrom_conjunction expr.toList 0).filter _
  split at h
  rename_i cut last hfold
  obtain ⟨hw, hlast⟩ := cutWeight_of_foldl attach slice hattach hslice hfold hspaced (by simp) (Nat.zero_le _)
  extract_lets final at h
  split at h
  · rename_i hlen
    have hps := Option.some.inj h
    subst hps
    -- the last piece runs to the end of the text
    have htail := (length_trim_le (slice last chars.length)).trans (hslice last chars.length)
    have hfinal : cutWeight final ≤ chars.length + 5 :=
      (cutWeight_filter_le _ _).trans (by rw [hattach]; omega)
    have hten := add_ten_le_cutWeight hp hlen
    have hchars : chars.length = expr.length := String.length_toList
    omega
  · cases h

/-! ### The rest of `col IS NULL OR rest` -/

/-- In a match of a group around a term followed by the end of the text, the group spans the
whole match. -/
lemma group_of_mem_ends_group_finish {t : List Char} {n j : Nat} {a : Term} {G : Groups} {e : Nat × Groups}
    (h : e ∈ (seqs [group n a, finish]).ends t j G) : e.2 n = some (j, e.1) := by
  simp only [seqs_cons, seqs_nil, ends_seq, ends_group, ends_finish, List.flatMap_map, List.mem_flatMap] at h
  obtain ⟨e', -, h⟩ := h
  split at h
  · simp only [ends_empty, List.mem_singleton] at h
    obtain ⟨_, rfl, rfl⟩ := h
    simp
  · simp at h

/-- The rest of `col IS NULL OR rest` is shorter than the text: thirteen characters at least come
before it. -/
lemma length_lt_of_nullOrForm (hf : P.Follow word) {expr c rest : String}
    (h : nullOrForm P expr = some (c, rest)) : rest.length < expr.length := by
  simp only [nullOrForm, Option.bind_eq_bind, Option.bind_eq_some_iff, Option.pure_def,
    Option.some.injEq, Prod.mk.injEq] at h
  obtain ⟨g, hg, -, -, raw, hraw, -, rfl⟩ := h
  rw [hf.nullOr, captures, Option.map_eq_some_iff] at hg
  obtain ⟨m, hm, rfl⟩ := hg
  obtain ⟨-, hm₁⟩ := leftmost_bounds hm
  have hmem : m.2 ∈ (nullOrTerm word).ends expr.toList m.1 Groups.empty :=
    List.mem_of_mem_head? (firstAt_of_leftmost hm)
  -- the pattern up to the group of the rest, thirteen characters at least, and from it on
  obtain ⟨before, hsplit, hleast₁⟩ : ∃ before, nullOrTerm word =
      seqs (before ++ [group 2 (many (fun c => c != '\n') 1), finish]) ∧ (seqs before).least = 13 :=
    ⟨[start, many Text.isBlank 0, group 1 (many word 1), many Text.isBlank 1, keyword "is",
      many Text.isBlank 1, keyword "null", many Text.isBlank 1, keyword "or", many Text.isBlank 1], rfl, rfl⟩
  have hleast₂ : (seqs [group 2 (many (fun c => c != '\n') 1), finish]).least = 1 := rfl
  have hend := le_length_of_mem_ends _ hm₁ hmem
  rw [hsplit, ends_seqs_append, List.mem_flatMap] at hmem
  obtain ⟨e₁, h₁, h₂⟩ := hmem
  have hbefore := add_least_le_of_mem_ends _ h₁
  have hafter := add_least_le_of_mem_ends _ h₂
  dsimp only at hraw
  rw [Groups.put_of_ne _ _ (by decide), group_of_mem_ends_group_finish h₂, Option.map_some,
    Option.some.injEq] at hraw
  subst hraw
  calc _ ≤ _ := length_trim_le _
    _ ≤ m.2.1 - e₁.1 := by simp only [String.length_ofList, List.length_take]; exact Nat.min_le_left _ _
    _ < expr.toList.length := by omega
    _ = expr.length := String.length_toList

/-! ### Unwrapping -/

/-- The test of the loop that unwraps a text: it opens with `(`, closes with `)`, and the
parentheses between them pair up. -/
def wrapped (s : String) : Bool :=
  s.toList.head? == some '(' && s.toList.getLast? == some ')' &&
    balanced (String.ofList (s.toList.drop 1).dropLast)

/-- One round of that loop: the text between the outer parentheses, trimmed. -/
def peel (s : String) : String :=
  Text.trim (String.ofList (s.toList.drop 1).dropLast)

lemma unwrap_go_succ (fuel : Nat) (s : String) :
    unwrap.go (fuel + 1) s = if wrapped s then unwrap.go fuel (peel s) else s :=
  rfl

/-- Each round of unwrapping takes two characters at least. -/
lemma length_peel_add_two {s : String} (h : wrapped s = true) : (peel s).length + 2 ≤ s.length := by
  simp only [wrapped, Bool.and_eq_true, beq_iff_eq] at h
  obtain ⟨⟨hhead, hlast⟩, -⟩ := h
  -- a text of one character opens and closes with the same one
  have htwo : 2 ≤ s.toList.length := by
    rcases hs : s.toList with _ | ⟨x, _ | ⟨y, rest⟩⟩
    · simp [hs] at hhead
    · simp only [hs, List.head?_cons, List.getLast?_singleton, Option.some.injEq] at hhead hlast
      exact absurd (hhead.symm.trans hlast) (by decide)
    · simp
  have hinner := length_trim_le (String.ofList (s.toList.drop 1).dropLast)
  simp only [String.length_ofList, List.length_dropLast, List.length_drop] at hinner
  have hs : s.toList.length = s.length := String.length_toList
  rw [peel]
  omega

lemma length_unwrap_go_le (fuel : Nat) (s : String) : (unwrap.go fuel s).length ≤ s.length := by
  induction fuel generalizing s with
  | zero => exact le_rfl
  | succ fuel ih =>
    rw [unwrap_go_succ]
    split
    · have hround := length_peel_add_two ‹_›
      exact (ih _).trans (by omega)
    · exact le_rfl

/-- With more fuel than the text has characters, the loop stops by its own test. -/
lemma wrapped_unwrap_go (fuel : Nat) (s : String) (h : s.length < fuel) : wrapped (unwrap.go fuel s) = false := by
  induction fuel generalizing s with
  | zero => exact absurd h (Nat.not_lt_zero _)
  | succ fuel ih =>
    rw [unwrap_go_succ]
    split
    · have hround := length_peel_add_two ‹_›
      exact ih _ (by omega)
    · exact Bool.eq_false_iff.mpr ‹_›

lemma length_unwrap_le (s : String) : (unwrap s).length ≤ s.length :=
  (length_unwrap_go_le _ _).trans (length_trim_le s)

/-- An unwrapped text is no longer one parenthesised group: the loop ended by its test, not by
its bound. -/
lemma wrapped_unwrap (s : String) : wrapped (unwrap s) = false :=
  wrapped_unwrap_go _ _ (Nat.lt_succ_of_le (length_trim_le s))

example : unwrap " ((a = 1)) " = "a = 1" := by decide

example : unwrap "(a = 1) AND (b = 2)" = "(a = 1) AND (b = 2)" := by decide

/-! ### Nested reads and fuel -/

/-- The texts that reading a text reads in turn: the parts of a conjunction, or else the rest of
`col IS NULL OR rest`.  No other form reads further. -/
def nestedReads (P : Patterns) (text : String) : List String :=
  (conjuncts P (unwrap text)).getD ((nullOrForm P (unwrap text)).map fun form => form.2).toList

/-- Reading a text with `fuel` never runs out of it: each text it reads in turn is read with the
fuel left, and so on down. -/
def ReadsWithin (P : Patterns) : Nat → String → Prop
  | 0, _ => False
  | fuel + 1, text => ∀ t ∈ nestedReads P text, ReadsWithin P fuel t

lemma ReadsWithin.mono {n m : Nat} {text : String} (h : ReadsWithin P n text) (hle : n ≤ m) :
    ReadsWithin P m text := by
  induction n generalizing m text with
  | zero => exact h.elim
  | succ n ih =>
    obtain ⟨m, rfl⟩ : ∃ k, m = k + 1 := ⟨m - 1, by omega⟩
    exact fun t ht => ih (h t ht) (by omega)

/-- Every text that reading reads in turn is shorter than the unwrapped text it came from. -/
theorem length_lt_of_mem_nestedReads (hf : P.Follow word) {text t : String} (ht : t ∈ nestedReads P text) :
    t.length < (unwrap text).length := by
  unfold nestedReads at ht
  cases hc : conjuncts P (unwrap text) with
  | some parts =>
    rw [hc, Option.getD_some] at ht
    exact length_lt_of_mem_conjuncts hf hc ht
  | none =>
    rw [hc, Option.getD_none] at ht
    cases hn : nullOrForm P (unwrap text) with
    | none => simp [hn] at ht
    | some form =>
      simp only [hn, Option.map_some, Option.toList_some, List.mem_singleton] at ht
      subst ht
      exact length_lt_of_nullOrForm hf hn

/-- No chain of nested reads is as long as the text: one unit of fuel for each character, and
one more, is never used up.  By induction on the length, each nested text being shorter. -/
theorem readsWithin_length (hf : P.Follow word) (text : String) : ReadsWithin P (text.length + 1) text := by
  induction hlen : text.length using Nat.strong_induction_on generalizing text with
  | _ n ih =>
    intro t ht
    have hlt : t.length < n := hlen ▸ (length_lt_of_mem_nestedReads hf ht).trans_le (length_unwrap_le text)
    exact (ih t.length hlt t rfl).mono hlt

lemma mapM_congr_of_mem {α β : Type} {f g : α → Option β} {xs : List α} (h : ∀ x ∈ xs, f x = g x) :
    xs.mapM f = xs.mapM g := by
  induction xs with
  | nil => rfl
  | cons x xs ih =>
    rw [List.mapM_cons, List.mapM_cons, h x List.mem_cons_self, ih fun y hy => h y (List.mem_cons_of_mem x hy)]

/-- Fuel that is never used up decides the answer: any larger fuel reads the text alike. -/
theorem read_eq_of_readsWithin {n m : Nat} {text : String} (h : ReadsWithin P n text) (hle : n ≤ m) :
    read P m text = read P n text := by
  induction n generalizing m text with
  | zero => exact h.elim
  | succ n ih =>
    obtain ⟨m, rfl⟩ : ∃ k, m = k + 1 := ⟨m - 1, by omega⟩
    have hnested : ∀ t ∈ nestedReads P text, read P m t = read P n t := fun t ht => ih (h t ht) (by omega)
    rw [read.eq_2, read.eq_2]
    cases hc : conjuncts P (unwrap text) with
    | some parts =>
      -- a conjunction reads each of its parts
      have hparts : nestedReads P text = parts := by simp [nestedReads, hc]
      dsimp only
      rw [mapM_congr_of_mem fun t ht => hnested t (hparts ▸ ht)]
    | none =>
      cases hn : nullOrForm P (unwrap text) with
      | some form =>
        -- `col IS NULL OR rest` reads the rest
        have hrest : nestedReads P text = [form.2] := by simp [nestedReads, hc, hn]
        dsimp only
        rw [hnested form.2 (by simp [hrest])]
      | none => rfl

lemma parseWith_eq_ok_or_unsupported (P : Patterns) (s : String) :
    (∃ p, parseWith P s = .ok p) ∨ parseWith P s = .error (.unsupportedExpression s) := by
  unfold parseWith
  dsimp only
  split
  · exact .inr rfl
  · split
    · exact .inl ⟨_, rfl⟩
    · exact .inr rfl

/-- Reading a predicate finishes on every text.  Each round of unwrapping takes two characters,
so the loop stops by its own test; each nested read is of a shorter text, so the fuel `parseWith`
gives is never used up and any larger fuel gives the same answer; and the answer is a predicate
or the text refused as an unsupported expression. -/
theorem parseWith_finishes (hf : P.Follow word) (s : String) :
    (∀ x, wrapped x = true → (peel x).length + 2 ≤ x.length) ∧ wrapped (unwrap s) = false ∧
      (∀ text, ∀ t ∈ nestedReads P text, t.length < (unwrap text).length) ∧
      ReadsWithin P ((unwrap s).length + 1) (unwrap s) ∧
      (∀ fuel, (unwrap s).length < fuel →
        read P fuel (unwrap s) = read P ((unwrap s).length + 1) (unwrap s)) ∧
      ((∃ p, parseWith P s = .ok p) ∨ parseWith P s = .error (.unsupportedExpression s)) :=
  ⟨fun _ hx => length_peel_add_two hx, wrapped_unwrap s, fun _ _ ht => length_lt_of_mem_nestedReads hf ht,
    readsWithin_length hf _, fun _ hfuel => read_eq_of_readsWithin (readsWithin_length hf _) hfuel,
    parseWith_eq_ok_or_unsupported P s⟩

theorem parseWith_finishes_nested :
    (Patterns.reference asciiWord).Follow asciiWord ∧
      (∀ x, wrapped x = true → (peel x).length + 2 ≤ x.length) ∧
      wrapped (unwrap "((a IS NULL OR b > 1) AND c BETWEEN 1 AND 2)") = false ∧
      (∀ text, ∀ t ∈ nestedReads (Patterns.reference asciiWord) text, t.length < (unwrap text).length) ∧
      ReadsWithin (Patterns.reference asciiWord) ((unwrap "((a IS NULL OR b > 1) AND c BETWEEN 1 AND 2)").length + 1)
        (unwrap "((a IS NULL OR b > 1) AND c BETWEEN 1 AND 2)") ∧
      (∀ fuel, (unwrap "((a IS NULL OR b > 1) AND c BETWEEN 1 AND 2)").length < fuel →
        read (Patterns.reference asciiWord) fuel (unwrap "((a IS NULL OR b > 1) AND c BETWEEN 1 AND 2)") =
          read (Patterns.reference asciiWord) ((unwrap "((a IS NULL OR b > 1) AND c BETWEEN 1 AND 2)").length + 1)
            (unwrap "((a IS NULL OR b > 1) AND c BETWEEN 1 AND 2)")) ∧
      ((∃ p, parseWith (Patterns.reference asciiWord) "((a IS NULL OR b > 1) AND c BETWEEN 1 AND 2)" = .ok p) ∨
        parseWith (Patterns.reference asciiWord) "((a IS NULL OR b > 1) AND c BETWEEN 1 AND 2)" =
          .error (.unsupportedExpression "((a IS NULL OR b > 1) AND c BETWEEN 1 AND 2)")) :=
  ⟨Patterns.reference_follow asciiWord,
    parseWith_finishes (Patterns.reference_follow asciiWord) "((a IS NULL OR b > 1) AND c BETWEEN 1 AND 2)"⟩

end Predicate

end DataQuality
