import Mathlib.Data.List.TakeWhile
import DataQuality.Text.Blank

/-!
# Regular expressions read by backtracking

The meaning a regular-expression engine documents for its patterns: a pattern is tried at each
position of a text from the left, and at one position the ways it can match are taken in order
of preference, the left branch of an alternation before the right and a greedy repetition
taking as many characters as it can before fewer.  The engine reports the first way at the
leftmost position that has one (leftmost-first matching), with the spans of its groups.

`Term.ends` lists the ways a term matches at a position, in that order, each with the position
where the match stops and the groups it has filled.  The first match, the leftmost search, the
groups of a match and the successive matches of `find_iter` are all read off that list.

The rewriting lemmas run a sequence of terms item by item: a greedy run whose continuation
cannot start inside the run (`Term.Rejects`) keeps only its longest choice.
-/

namespace DataQuality.Pattern

/-- The groups of a match so far: for each number, the span the group took. -/
abbrev Groups := Nat → Option (Nat × Nat)

/-- No group taken yet. -/
def Groups.empty : Groups := fun _ => none

/-- The groups with group `n` now taking `span`. -/
def Groups.put (g : Groups) (n : Nat) (span : Nat × Nat) : Groups :=
  fun k => if k = n then some span else g k

@[simp] lemma Groups.put_self (g : Groups) (n : Nat) (span : Nat × Nat) : g.put n span n = some span := by
  simp [Groups.put]

@[simp] lemma Groups.put_of_ne (g : Groups) {n k : Nat} (span : Nat × Nat) (h : k ≠ n) :
    g.put n span k = g k := by
  simp [Groups.put, h]

@[simp] lemma Groups.empty_apply (k : Nat) : Groups.empty k = none := rfl

/-- A regular expression read by backtracking.  Repetition is of one character class only,
which is all that the patterns read here repeat. -/
inductive Term where
  /-- One character of a class. -/
  | one (p : Char → Bool)
  /-- A greedy run of at least `least` characters of a class. -/
  | many (p : Char → Bool) (least : Nat)
  /-- One term, then the other. -/
  | seq (a b : Term)
  /-- One term, or else the other. -/
  | alt (a b : Term)
  /-- A numbered group around a term. -/
  | group (n : Nat) (a : Term)
  /-- The start of the text, `^`. -/
  | start
  /-- The end of the text, `$`. -/
  | finish
  /-- A boundary between a word character and a character that is not one, `\b`. -/
  | boundary (word : Char → Bool)
  /-- Nothing at all. -/
  | empty

/-- The length of the run of characters of a class at the front of a text. -/
def runLength (p : Char → Bool) (s : List Char) : Nat :=
  (s.takeWhile p).length

/-- Whether the character at a position is of a class; no position past the end is. -/
def classAt (p : Char → Bool) (t : List Char) (i : Nat) : Bool :=
  (t[i]?.map p).getD false

/-- Whether a text starts with one character of each class in turn. -/
def fitsAt : List (Char → Bool) → List Char → Bool
  | [], _ => true
  | _ :: _, [] => false
  | p :: ps, c :: u => p c && fitsAt ps u

namespace Term

/-- The ways a term matches the text `t` at position `i`, the groups so far being `g`, in order of
preference: for each, where the match stops and the groups it leaves. -/
def ends (t : List Char) : Term → Nat → Groups → List (Nat × Groups)
  | one p, i, g => if classAt p t i then [(i + 1, g)] else []
  | many p m, i, g =>
    ((List.range' m (runLength p (t.drop i) + 1 - m)).reverse).map fun k => (i + k, g)
  | seq a b, i, g => (a.ends t i g).flatMap fun e => b.ends t e.1 e.2
  | alt a b, i, g => a.ends t i g ++ b.ends t i g
  | group n a, i, g => (a.ends t i g).map fun e => (e.1, e.2.put n (i, e.1))
  | start, i, g => if i = 0 then [(i, g)] else []
  | finish, i, g => if i = t.length then [(i, g)] else []
  | boundary w, i, g => if ((i != 0) && classAt w t (i - 1)) != classAt w t i then [(i, g)] else []
  | empty, i, g => [(i, g)]

/-- The terms one after the other. -/
def seqs (rs : List Term) : Term :=
  rs.foldr seq empty

/-- The terms as alternatives, the earlier preferred; no alternative never matches. -/
def alts : List Term → Term
  | [] => one fun _ => false
  | r :: rest => alt r (alts rest)

/-- The first way the term matches at a position, if there is one. -/
def firstAt (r : Term) (t : List Char) (i : Nat) : Option (Nat × Groups) :=
  (r.ends t i Groups.empty).head?

/-- The leftmost match at or after position `s`: where it starts, where it stops, its groups. -/
def leftmost (r : Term) (t : List Char) (s : Nat) : Option (Nat × Nat × Groups) :=
  (List.range' s (t.length + 1 - s)).findSome? fun i => (r.firstAt t i).map fun e => (i, e.1, e.2)

lemma leftmost_bounds {r : Term} {t : List Char} {s : Nat} {m : Nat × Nat × Groups}
    (h : r.leftmost t s = some m) : s ≤ m.1 ∧ m.1 ≤ t.length := by
  obtain ⟨i, hi, hm⟩ := List.exists_of_findSome?_eq_some h
  rw [List.mem_range'_1] at hi
  obtain ⟨e, -, rfl⟩ := Option.map_eq_some_iff.mp hm
  exact ⟨hi.1, by omega⟩

/-- The spans of successive matches from position `s`: each search starts where the last match
stopped, one character further after an empty match. -/
def spansFrom (r : Term) (t : List Char) (s : Nat) : List (Nat × Nat) :=
  match h : r.leftmost t s with
  | none => []
  | some m => (m.1, m.2.1) :: spansFrom r t (max m.2.1 (m.1 + 1))
termination_by t.length + 1 - s
decreasing_by
  have hb := leftmost_bounds h
  have hmax : m.1 + 1 ≤ max m.2.1 (m.1 + 1) := Nat.le_max_right _ _
  omega

/-- The texts of the groups of the leftmost match, group `0` being the whole match. -/
def captures (r : Term) (text : String) : Option (Nat → Option String) :=
  let t := text.toList
  (r.leftmost t 0).map fun m k =>
    ((m.2.2.put 0 (m.1, m.2.1)) k).map fun span => String.ofList ((t.drop span.1).take (span.2 - span.1))

/-- Whether the term matches somewhere in the text. -/
def isMatch (r : Term) (text : String) : Bool :=
  (r.leftmost text.toList 0).isSome

/-- The spans of the successive matches in a text. -/
def spans (r : Term) (text : String) : List (Nat × Nat) :=
  r.spansFrom text.toList 0

end Term

/-! ### Runs of a class -/

lemma runLength_append_of_all {p : Char → Bool} {u : List Char} (s : List Char)
    (h : ∀ c ∈ u, p c = true) : runLength p (u ++ s) = u.length + runLength p s := by
  induction u with
  | nil => simp
  | cons c u ih =>
    simp only [runLength] at ih ⊢
    rw [List.cons_append, List.takeWhile_cons_of_pos (h c List.mem_cons_self), List.length_cons,
      ih fun x hx => h x (List.mem_cons_of_mem c hx)]
    simp only [List.length_cons]
    omega

lemma runLength_cons_of_not {p : Char → Bool} {c : Char} (s : List Char) (h : p c = false) :
    runLength p (c :: s) = 0 := by
  simp [runLength, h]

@[simp] lemma runLength_nil (p : Char → Bool) : runLength p [] = 0 := rfl

lemma runLength_of_all {p : Char → Bool} {u : List Char} (h : ∀ c ∈ u, p c = true) :
    runLength p u = u.length := by
  have := runLength_append_of_all [] h
  rwa [List.append_nil, runLength_nil, Nat.add_zero] at this

/-- The run of a class at the front of `u ++ c :: s`, all of `u` in the class and `c` not. -/
lemma runLength_append_cons {p : Char → Bool} {u : List Char} {c : Char} (s : List Char)
    (hu : ∀ x ∈ u, p x = true) (hc : p c = false) : runLength p (u ++ c :: s) = u.length := by
  rw [runLength_append_of_all _ hu, runLength_cons_of_not _ hc, Nat.add_zero]

/-- Each character inside the run at the front of a text is of the class. -/
lemma exists_of_lt_runLength {p : Char → Bool} {s : List Char} {k : Nat} (h : k < runLength p s) :
    ∃ c, s[k]? = some c ∧ p c = true := by
  have hk : k < (s.takeWhile p).length := h
  have hpre : s.takeWhile p <+: s := List.takeWhile_prefix p
  have hks : k < s.length := Nat.lt_of_lt_of_le hk hpre.length_le
  refine ⟨s[k], List.getElem?_eq_getElem hks, ?_⟩
  rw [← hpre.getElem hk]
  exact List.mem_takeWhile_imp (List.getElem_mem hk)

lemma classAt_of_getElem? {p : Char → Bool} {t : List Char} {i : Nat} {c : Char}
    (h : t[i]? = some c) : classAt p t i = p c := by
  simp [classAt, h]

lemma drop_eq_cons_of_getElem? {t : List Char} {i : Nat} {c : Char} (h : t[i]? = some c) :
    t.drop i = c :: t.drop (i + 1) := by
  obtain ⟨hlt, heq⟩ := List.getElem?_eq_some_iff.mp h
  rw [List.drop_eq_getElem_cons hlt, heq]

lemma getElem?_of_drop_eq_cons {t rest : List Char} {i : Nat} {c : Char} (h : t.drop i = c :: rest) :
    t[i]? = some c := by
  rw [← List.head?_drop, h, List.head?_cons]

lemma drop_add_of_drop_eq_append {t u v : List Char} {i : Nat} (h : t.drop i = u ++ v) :
    t.drop (i + u.length) = v := by
  rw [← List.drop_drop, h, List.drop_left]

lemma drop_succ_of_drop_eq_cons {t rest : List Char} {i : Nat} {c : Char} (h : t.drop i = c :: rest) :
    t.drop (i + 1) = rest := by
  rw [← List.drop_drop, h, List.drop_one, List.tail_cons]

namespace Term

/-! ### Running a sequence item by item -/

variable {t : List Char} {i : Nat} {g : Groups}

@[simp] lemma seqs_nil : seqs [] = empty := rfl

@[simp] lemma seqs_cons (r : Term) (rs : List Term) : seqs (r :: rs) = seq r (seqs rs) := rfl

/-! The clauses of `ends`, one per constructor; proofs name the clauses they use. -/

lemma ends_one (p : Char → Bool) : (one p).ends t i g = if classAt p t i then [(i + 1, g)] else [] :=
  rfl

lemma ends_many_eq (p : Char → Bool) (m : Nat) :
    (many p m).ends t i g =
      ((List.range' m (runLength p (t.drop i) + 1 - m)).reverse).map fun k => (i + k, g) :=
  rfl

lemma ends_seq (a b : Term) : (seq a b).ends t i g = (a.ends t i g).flatMap fun e => b.ends t e.1 e.2 :=
  rfl

lemma ends_alt (a b : Term) : (alt a b).ends t i g = a.ends t i g ++ b.ends t i g := rfl

lemma ends_group (n : Nat) (a : Term) :
    (group n a).ends t i g = (a.ends t i g).map fun e => (e.1, e.2.put n (i, e.1)) :=
  rfl

lemma ends_start : start.ends t i g = if i = 0 then [(i, g)] else [] := rfl

lemma ends_finish : finish.ends t i g = if i = t.length then [(i, g)] else [] := rfl

lemma ends_boundary (w : Char → Bool) :
    (boundary w).ends t i g =
      if ((i != 0) && classAt w t (i - 1)) != classAt w t i then [(i, g)] else [] :=
  rfl

@[simp] lemma ends_empty : empty.ends t i g = [(i, g)] := rfl

/-- No alternative matches nowhere. -/
@[simp] lemma ends_alts_nil : (alts []).ends t i g = [] := by
  cases h : t[i]? <;> simp [alts, ends_one, classAt, h]

lemma ends_seq_start_zero (b : Term) : (seq start b).ends t 0 g = b.ends t 0 g := by
  simp [ends_seq, ends_start]

lemma ends_seq_start_of_ne (b : Term) (h : i ≠ 0) : (seq start b).ends t i g = [] := by
  simp [ends_seq, ends_start, h]

lemma ends_seq_finish (b : Term) :
    (seq finish b).ends t i g = if i = t.length then b.ends t i g else [] := by
  by_cases h : i = t.length <;> simp [ends_seq, ends_finish, h]

/-- A boundary between a character outside the class `w` and one inside it. -/
lemma ends_seq_boundary_of_word {w : Char → Bool} {x y : Char} (b : Term) (hx : t[i - 1]? = some x)
    (hy : t[i]? = some y) (hwx : w x = false) (hwy : w y = true) :
    (seq (boundary w) b).ends t i g = b.ends t i g := by
  simp [ends_seq, ends_boundary, classAt, hx, hy, hwx, hwy]

lemma ends_seq_one {p : Char → Bool} {c : Char} (b : Term) (h : t[i]? = some c) :
    (seq (one p) b).ends t i g = if p c then b.ends t (i + 1) g else [] := by
  by_cases hp : p c <;> simp [ends_seq, ends_one, classAt_of_getElem? h, hp]

lemma ends_seq_group (n : Nat) (a b : Term) :
    (seq (group n a) b).ends t i g = (a.ends t i g).flatMap fun e => b.ends t e.1 (e.2.put n (i, e.1)) := by
  simp [ends_seq, ends_group, List.flatMap_map]

lemma ends_seq_group_alt (n : Nat) (a b r : Term) :
    (seq (group n (alt a b)) r).ends t i g = (seq (group n a) r).ends t i g ++ (seq (group n b) r).ends t i g := by
  simp [ends_seq, ends_group, ends_alt, List.flatMap_append]

lemma ends_seq_seq (a b r : Term) : (seq (seq a b) r).ends t i g = (seq a (seq b r)).ends t i g := by
  simp [ends_seq, List.flatMap_assoc]

lemma ends_seq_empty (b : Term) : (seq empty b).ends t i g = b.ends t i g := by
  simp [ends_seq]

lemma ends_seq_empty_right (a : Term) : (seq a empty).ends t i g = a.ends t i g := by
  simp [ends_seq]

/-- The choices of a greedy run, longest first, when the longest is `r`. -/
lemma range'_reverse_of_le {m r : Nat} (h : m ≤ r) :
    (List.range' m (r + 1 - m)).reverse = r :: (List.range' m (r - m)).reverse := by
  rw [show r + 1 - m = (r - m) + 1 by omega, List.range'_concat, List.reverse_append]
  simp only [List.reverse_singleton, List.singleton_append, List.cons.injEq, and_true]
  omega

/-- The choices of a greedy run whose longest choice is `r`, longest first. -/
lemma ends_many {p : Char → Bool} {m r : Nat} (hr : runLength p (t.drop i) = r) (hm : m ≤ r) :
    (many p m).ends t i g = (i + r, g) :: ((List.range' m (r - m)).reverse.map fun k => (i + k, g)) := by
  simp only [ends_many_eq, hr, range'_reverse_of_le hm, List.map_cons]

/-- Continuations that find nothing at the shorter choices of a greedy run. -/
lemma flatMap_shorter_eq_nil {m r : Nat} (f : Nat × Groups → List (Nat × Groups))
    (hstop : ∀ k, m ≤ k → k < r → f (i + k, g) = []) :
    ((List.range' m (r - m)).reverse.map fun k => (i + k, g)).flatMap f = [] := by
  rw [List.flatMap_eq_nil_iff]
  intro e he
  simp only [List.mem_map, List.mem_reverse, List.mem_range'_1] at he
  obtain ⟨k, hk, rfl⟩ := he
  exact hstop k hk.1 (by omega)

/-- A greedy run whose continuation finds nothing at the shorter choices takes the longest. -/
lemma ends_seq_many {p : Char → Bool} {m r : Nat} (b : Term) (hr : runLength p (t.drop i) = r) (hm : m ≤ r)
    (hstop : ∀ k, m ≤ k → k < r → b.ends t (i + k) g = []) :
    (seq (many p m) b).ends t i g = b.ends t (i + r) g := by
  show ((many p m).ends t i g).flatMap (fun e => b.ends t e.1 e.2) = _
  rw [ends_many hr hm, List.flatMap_cons, flatMap_shorter_eq_nil _ hstop, List.append_nil]

/-- A run that may be empty, where no character of its class stands, is stepped over. -/
lemma ends_seq_many_of_runLength_zero {p : Char → Bool} (b : Term) (hr : runLength p (t.drop i) = 0) :
    (seq (many p 0) b).ends t i g = b.ends t i g := by
  rw [ends_seq_many b hr (Nat.le_refl 0) (fun k _ hk => absurd hk (Nat.not_lt_zero k)), Nat.add_zero]

lemma ends_seq_one_of_drop_eq_nil {p : Char → Bool} (b : Term) (h : t.drop i = []) :
    (seq (one p) b).ends t i g = [] := by
  have hi : t[i]? = none := by rw [← List.head?_drop, h, List.head?_nil]
  simp [ends_seq, ends_one, classAt, hi]

/-- A sequence of single characters matches where the text starts with one character of each
class in turn, and then goes on. -/
lemma ends_seq_ones_eq (ps : List (Char → Bool)) (b : Term) :
    (seq (seqs (ps.map one)) b).ends t i g =
      if fitsAt ps (t.drop i) then b.ends t (i + ps.length) g else [] := by
  induction ps generalizing i with
  | nil => simp [ends_seq_empty, fitsAt]
  | cons p ps ih =>
    rw [List.map_cons, seqs_cons, ends_seq_seq]
    cases h : t.drop i with
    | nil => simp [ends_seq_one_of_drop_eq_nil _ h, fitsAt]
    | cons c r =>
      rw [ends_seq_one _ (getElem?_of_drop_eq_cons h), ih, drop_succ_of_drop_eq_cons h, fitsAt,
        List.length_cons, show i + 1 + ps.length = i + (ps.length + 1) by omega]
      cases p c <;> simp

/-- A run exactly as long as its least length has no other choice. -/
lemma ends_seq_many_of_runLength_eq {p : Char → Bool} {m : Nat} (b : Term) (hr : runLength p (t.drop i) = m) :
    (seq (many p m) b).ends t i g = b.ends t (i + m) g :=
  ends_seq_many b hr (Nat.le_refl m) fun _ hk hk' => absurd hk' (Nat.not_lt.mpr hk)

/-- A greedy run with too few characters of its class matches nowhere. -/
lemma ends_seq_many_of_lt {p : Char → Bool} {m : Nat} (b : Term) (h : runLength p (t.drop i) < m) :
    (seq (many p m) b).ends t i g = [] := by
  simp [ends_seq, ends_many_eq, show runLength p (List.drop i t) + 1 - m = 0 by omega]

/-- A group around a greedy run, as `ends_seq_many` with the span of the run recorded. -/
lemma ends_seq_group_many {p : Char → Bool} {m r : Nat} (n : Nat) (b : Term)
    (hr : runLength p (t.drop i) = r) (hm : m ≤ r)
    (hstop : ∀ k, m ≤ k → k < r → b.ends t (i + k) (g.put n (i, i + k)) = []) :
    (seq (group n (many p m)) b).ends t i g = b.ends t (i + r) (g.put n (i, i + r)) := by
  rw [ends_seq_group, ends_many hr hm, List.flatMap_cons,
    flatMap_shorter_eq_nil (fun e => b.ends t e.1 (e.2.put n (i, e.1))) hstop, List.append_nil]

/-! ### Terms that cannot start at a character -/

/-- A term rejects a character when it matches nowhere that character stands. -/
def Rejects (r : Term) (c : Char) : Prop :=
  ∀ (t : List Char) (i : Nat) (g : Groups), t[i]? = some c → r.ends t i g = []

lemma rejects_one {p : Char → Bool} {c : Char} (h : p c = false) : (one p).Rejects c := by
  intro t i g hi
  simp [ends_one, classAt_of_getElem? hi, h]

lemma rejects_seq {a : Term} {c : Char} (b : Term) (h : a.Rejects c) : (seq a b).Rejects c := by
  intro t i g hi
  show (a.ends t i g).flatMap (fun e => b.ends t e.1 e.2) = []
  rw [h t i g hi, List.flatMap_nil]

lemma rejects_alt {a b : Term} {c : Char} (ha : a.Rejects c) (hb : b.Rejects c) :
    (alt a b).Rejects c := by
  intro t i g hi
  show a.ends t i g ++ b.ends t i g = []
  rw [ha t i g hi, hb t i g hi, List.append_nil]

/-- Alternatives reject what each of them rejects. -/
lemma rejects_alts {rs : List Term} {c : Char} (h : ∀ r ∈ rs, r.Rejects c) : (alts rs).Rejects c := by
  induction rs with
  | nil => exact rejects_one rfl
  | cons r rs ih =>
    exact rejects_alt (h r List.mem_cons_self) (ih fun r' hr' => h r' (List.mem_cons_of_mem r hr'))

lemma rejects_group {a : Term} {c : Char} (n : Nat) (h : a.Rejects c) : (group n a).Rejects c := by
  intro t i g hi
  rw [ends_group, h t i g hi, List.map_nil]

lemma rejects_finish (c : Char) : finish.Rejects c := by
  intro t i g hi
  obtain ⟨hlt, -⟩ := List.getElem?_eq_some_iff.mp hi
  simp [ends_finish, show i ≠ t.length by omega]

/-- A run of at least one character of a class rejects the characters outside it. -/
lemma rejects_many {p : Char → Bool} {m : Nat} {c : Char} (hm : 1 ≤ m) (h : p c = false) :
    (many p m).Rejects c := by
  intro t i g hi
  simp [ends_many_eq, drop_eq_cons_of_getElem? hi, runLength_cons_of_not _ h, show 0 + 1 - m = 0 by omega]

/-- A fixed sequence of characters rejects what its first class rejects. -/
lemma rejects_seq_ones {p : Char → Bool} {ps : List (Char → Bool)} {c : Char} (b : Term) (h : p c = false) :
    (seq (seqs ((p :: ps).map one)) b).Rejects c :=
  rejects_seq b (rejects_seq _ (rejects_one h))

lemma rejects_seqs_cons {a : Term} {c : Char} (rest : List Term) (h : a.Rejects c) :
    (seqs (a :: rest)).Rejects c :=
  rejects_seq _ h

/-- A run of at least one character of a class rejects the characters outside it. -/
lemma rejects_seq_many {p : Char → Bool} {m : Nat} {c : Char} (b : Term) (hm : 1 ≤ m) (h : p c = false) :
    (seq (many p m) b).Rejects c := by
  intro t i g hi
  apply ends_seq_many_of_lt
  rw [drop_eq_cons_of_getElem? hi, runLength_cons_of_not _ h]
  omega

lemma rejects_seqs_many {p : Char → Bool} {m : Nat} {c : Char} (rest : List Term) (hm : 1 ≤ m) (h : p c = false) :
    (seqs (many p m :: rest)).Rejects c :=
  rejects_seq_many _ hm h

/-- A run that may be empty, outside its class, leaves the character to what follows. -/
lemma rejects_seq_many_zero {p : Char → Bool} {c : Char} {b : Term} (h : p c = false) (hb : b.Rejects c) :
    (seq (many p 0) b).Rejects c := by
  intro t i g hi
  rw [ends_seq_many b (r := 0) (by rw [drop_eq_cons_of_getElem? hi, runLength_cons_of_not _ h])
    (Nat.le_refl 0) (fun k _ hk => absurd hk (Nat.not_lt_zero k)), Nat.add_zero]
  exact hb t i g hi

lemma rejects_seqs_many_zero {p : Char → Bool} {c : Char} {rest : List Term} (h : p c = false)
    (hb : (seqs rest).Rejects c) : (seqs (many p 0 :: rest)).Rejects c :=
  rejects_seq_many_zero h hb

/-- A sequence whose items are rejected in turn: a greedy run followed by what rejects its
class keeps only its longest choice. -/
lemma ends_seq_many_of_rejects {p : Char → Bool} {m r : Nat} {b : Term} (hr : runLength p (t.drop i) = r)
    (hm : m ≤ r) (hb : ∀ c, p c = true → b.Rejects c) :
    (seq (many p m) b).ends t i g = b.ends t (i + r) g := by
  refine ends_seq_many b hr hm fun k _ hk => ?_
  obtain ⟨c, hc, hpc⟩ := exists_of_lt_runLength (hr ▸ hk)
  rw [List.getElem?_drop] at hc
  exact hb c hpc t (i + k) g hc

/-- A group around a greedy run followed by what rejects its class keeps only the longest choice. -/
lemma ends_seq_group_many_of_rejects {p : Char → Bool} {m r : Nat} {b : Term} (n : Nat)
    (hr : runLength p (t.drop i) = r) (hm : m ≤ r) (hb : ∀ c, p c = true → b.Rejects c) :
    (seq (group n (many p m)) b).ends t i g = b.ends t (i + r) (g.put n (i, i + r)) := by
  refine ends_seq_group_many n b hr hm fun k _ hk => ?_
  obtain ⟨c, hc, hpc⟩ := exists_of_lt_runLength (hr ▸ hk)
  rw [List.getElem?_drop] at hc
  exact hb c hpc t (i + k) _ hc

/-! ### The leftmost match and the successive matches -/

section Search

variable {r : Term} {t : List Char} {s : Nat}

lemma firstAt_of_leftmost {m : Nat × Nat × Groups} (h : r.leftmost t s = some m) :
    r.firstAt t m.1 = some m.2 := by
  obtain ⟨i, -, hm⟩ := List.exists_of_findSome?_eq_some h
  obtain ⟨e, he, rfl⟩ := Option.map_eq_some_iff.mp hm
  exact he

/-- The leftmost match from `s` is at `a` when nothing matches before it. -/
lemma leftmost_eq_some {a : Nat} {e : Nat × Groups}
    (hbefore : ∀ j, s ≤ j → j < a → r.ends t j Groups.empty = []) (hsa : s ≤ a) (ha : a ≤ t.length)
    (he : r.firstAt t a = some e) : r.leftmost t s = some (a, e.1, e.2) := by
  have hsplit : List.range' s (t.length + 1 - s) =
      List.range' s (a - s) ++ a :: List.range' (a + 1) (t.length - a) := by
    rw [show t.length + 1 - s = (a - s) + (t.length - a + 1) by omega, ← List.range'_append_1,
      List.range'_succ, show s + (a - s) = a by omega]
  have hnone : (List.range' s (a - s)).findSome?
      (fun i => (r.firstAt t i).map fun e => (i, e.1, e.2)) = none := by
    rw [List.findSome?_eq_none_iff]
    intro j hj
    rw [List.mem_range'_1] at hj
    simp [firstAt, hbefore j hj.1 (by omega)]
  rw [leftmost, hsplit, List.findSome?_append, hnone, Option.none_or, List.findSome?_cons]
  simp [he]

lemma leftmost_eq_none (h : ∀ j, s ≤ j → j ≤ t.length → r.ends t j Groups.empty = []) :
    r.leftmost t s = none := by
  rw [leftmost, List.findSome?_eq_none_iff]
  intro j hj
  rw [List.mem_range'_1] at hj
  simp [firstAt, h j hj.1 (by omega)]

/-- A match at some position is found by the leftmost search. -/
lemma isSome_leftmost {a : Nat} (hsa : s ≤ a) (ha : a ≤ t.length) (he : r.ends t a Groups.empty ≠ []) :
    (r.leftmost t s).isSome := by
  rw [Option.isSome_iff_ne_none]
  intro hnone
  obtain ⟨e, he'⟩ := Option.ne_none_iff_exists'.mp (mt List.head?_eq_none_iff.mp he)
  have := (List.findSome?_eq_none_iff.mp hnone) a (by rw [List.mem_range'_1]; omega)
  simp [firstAt, he'] at this

/-- An anchored term is searched at the start only. -/
lemma leftmost_seq_start (b : Term) :
    (seq start b).leftmost t 0 = ((seq start b).firstAt t 0).map fun e => (0, e.1, e.2) := by
  rw [leftmost, Nat.sub_zero, List.range'_succ, List.findSome?_cons]
  cases h : (seq start b).firstAt t 0 with
  | some e => rfl
  | none =>
    rw [Option.map_none, List.findSome?_eq_none_iff]
    intro j hj
    rw [List.mem_range'_1] at hj
    simp [firstAt, ends_seq_start_of_ne b (show j ≠ 0 by omega)]

/-- The groups of an anchored term are those of its first match at the start. -/
lemma captures_seq_start {b : Term} {text : String} {e : Nat} {G : Groups}
    (h : (seq start b).firstAt text.toList 0 = some (e, G)) :
    (seq start b).captures text = some fun k =>
      ((G.put 0 (0, e)) k).map fun span => String.ofList ((text.toList.drop span.1).take (span.2 - span.1)) := by
  simp [captures, leftmost_seq_start, h]

/-- An anchored term with no match at the start has no groups. -/
lemma captures_seq_start_eq_none {b : Term} {text : String} (h : (seq start b).ends text.toList 0 Groups.empty = []) :
    (seq start b).captures text = none := by
  simp [captures, leftmost_seq_start, firstAt, h]

/-- The text of a group that spans `u` where the text goes on with `u`. -/
lemma group_text {t u v : List Char} {a b : Nat} (h : t.drop a = u ++ v) (hb : b = a + u.length) :
    String.ofList ((t.drop a).take (b - a)) = String.ofList u := by
  rw [h, hb, Nat.add_sub_cancel_left, List.take_left' rfl]

lemma spansFrom_of_leftmost_none (h : r.leftmost t s = none) : r.spansFrom t s = [] := by
  rw [spansFrom]
  split <;> simp_all

lemma spansFrom_of_leftmost_some {m : Nat × Nat × Groups} (h : r.leftmost t s = some m) :
    r.spansFrom t s = (m.1, m.2.1) :: r.spansFrom t (max m.2.1 (m.1 + 1)) := by
  rw [spansFrom]
  split <;> simp_all

/-- Every span of the successive matches is a match at its start. -/
lemma firstAt_of_mem_spansFrom {a b : Nat} (h : (a, b) ∈ r.spansFrom t s) :
    ∃ g, r.firstAt t a = some (b, g) := by
  induction s using spansFrom.induct r t with
  | case1 s hnone => simp [spansFrom_of_leftmost_none hnone] at h
  | case2 s m hm ih =>
    rw [spansFrom_of_leftmost_some hm, List.mem_cons] at h
    rcases h with heq | hrest
    · obtain ⟨rfl, rfl⟩ := Prod.mk.inj heq
      exact ⟨m.2.2, firstAt_of_leftmost hm⟩
    · exact ih hrest

end Search

end Term

end DataQuality.Pattern
