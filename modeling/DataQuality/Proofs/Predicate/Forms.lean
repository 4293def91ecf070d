import DataQuality.Proofs.Predicate.Grammar

/-!
# The forms of predicates under the documented patterns

A predicate written in one of the forms of the language (`c op x`, `c IN (list)`,
`c = ANY(ARRAY[list])`, `c BETWEEN lo AND hi`) matches its own pattern, with the name, the
operator and the operands as its groups, and none of the anchored patterns the reader tries
before it.  Every proof runs the pattern item by item over the text: the name is the longest
run of word characters because what follows cannot start on one, each blank run is a single
blank, and the first item that cannot stand where the text is rejects the whole match.
-/

namespace DataQuality.Predicate

open Pattern Term

/-! ### Characters -/

section Characters

variable {word : Char → Bool}

lemma WordClass.isBlank_eq_false (hw : WordClass word) {c : Char} (h : word c = true) :
    Text.isBlank c = false := by
  cases hb : Text.isBlank c
  · rfl
  · rw [hw.not_blank c hb] at h
    exact absurd h Bool.false_ne_true

/-- An ASCII character other than a letter, a digit or `_` is no word character. -/
lemma WordClass.eq_false (hw : WordClass word) {c : Char} (h : c.toNat < 128)
    (hc : (c.isAlphanum || c == '_') = false) : word c = false := by
  rw [hw.ascii c h, hc]

/-- A word character is none of the ASCII characters that are not word characters. -/
lemma WordClass.ne_of_word (hw : WordClass word) {c x : Char} (hc : word c = true) (h : x.toNat < 128)
    (hx : (x.isAlphanum || x == '_') = false) : c ≠ x := by
  rintro rfl
  rw [hw.eq_false h hx] at hc
  exact absurd hc Bool.false_ne_true

end Characters

/-- A column name as the patterns read it: one or more word characters. -/
structure IsName (word : Char → Bool) (c : List Char) : Prop where
  ne_nil : c ≠ []
  word : ∀ x ∈ c, word x = true

/-- An operand written without quotes: one or more characters, none blank and none a quote. -/
structure IsToken (x : List Char) : Prop where
  ne_nil : x ≠ []
  not_blank : ∀ ch ∈ x, Text.isBlank ch = false
  not_quote : ∀ ch ∈ x, ch ≠ '\''

lemma IsToken.head_not_blank {x : List Char} (hx : IsToken x) : ∀ ch ∈ x.head?, Text.isBlank ch = false :=
  fun ch hch => hx.not_blank ch (List.mem_of_mem_head? hch)

lemma IsToken.head_append_not_blank {x : List Char} (hx : IsToken x) (rest : List Char) :
    ∀ ch ∈ (x ++ rest).head?, Text.isBlank ch = false := by
  rw [List.head?_append, List.head?_eq_some_head hx.ne_nil, Option.some_or]
  exact fun ch hch => hx.not_blank ch (Option.mem_some_iff.mp hch ▸ List.head_mem hx.ne_nil)

/-- The last character of a text that ends with a word without blanks is no blank. -/
lemma IsToken.getLast_append_not_blank {x : List Char} (hx : IsToken x) (u : List Char) :
    ∀ ch ∈ (u ++ x).getLast?, Text.isBlank ch = false := by
  rw [List.getLast?_append, List.getLast?_eq_some_getLast hx.ne_nil, Option.some_or]
  exact fun ch hch => hx.not_blank ch (Option.mem_some_iff.mp hch ▸ List.getLast_mem hx.ne_nil)

lemma IsName.head_append_not_blank {word : Char → Bool} {c : List Char} (hw : WordClass word) (hc : IsName word c)
    (rest : List Char) : ∀ ch ∈ (c ++ rest).head?, Text.isBlank ch = false := by
  rw [List.head?_append, List.head?_eq_some_head hc.ne_nil, Option.some_or]
  exact fun ch hch => hw.isBlank_eq_false (hc.word ch (Option.mem_some_iff.mp hch ▸ List.head_mem hc.ne_nil))

/-- An operand of a comparison that the pattern reads whole: written without quotes or
parentheses, or a quoted text with no quote inside. -/
inductive IsOperand : List Char → Prop
  | token {x : List Char} : IsToken x → (∀ ch ∈ x, ch ≠ '(') → IsOperand x
  | quoted {q : List Char} : (∀ ch ∈ q, ch ≠ '\'') → IsOperand ('\'' :: (q ++ ['\'']))

lemma IsOperand.head_not_blank {x : List Char} (hx : IsOperand x) : ∀ ch ∈ x.head?, Text.isBlank ch = false := by
  cases hx with
  | token h _ => exact h.head_not_blank
  | quoted _ =>
    intro ch hch
    rw [List.head?_cons, Option.mem_some_iff] at hch
    rw [← hch]
    rfl

/-- A name of word characters is an operand that a comparison reads whole. -/
lemma IsName.isOperand {word : Char → Bool} {c : List Char} (hw : WordClass word) (hc : IsName word c) :
    IsOperand c :=
  .token ⟨hc.ne_nil, fun ch hch => hw.isBlank_eq_false (hc.word ch hch),
      fun ch hch => hw.ne_of_word (hc.word ch hch) (by decide) (by decide)⟩
    fun ch hch => hw.ne_of_word (hc.word ch hch) (by decide) (by decide)

/-- The right side of a comparison, a quoted text or a run of characters that are not blank. -/
def operandTerm : Term :=
  alt (seqs [Term.literal "'", many (fun c => c != '\'') 0, Term.literal "'"]) (many nonblank 1)

/-! ### Running the anchored patterns -/

section Running

variable {word : Char → Bool} {t : List Char} {i : Nat} {g : Groups}

lemma runLength_blank_of_ne_nil {z : List Char} (hz : ∀ ch ∈ z.head?, Text.isBlank ch = false) :
    runLength Text.isBlank (' ' :: z) = 1 := by
  cases z with
  | nil => rfl
  | cons ch z =>
    rw [show ' ' :: ch :: z = [' '] ++ ch :: z from rfl,
      runLength_append_cons _ (fun x hx => by rw [List.mem_singleton.mp hx]; rfl) (hz ch (by simp)),
      List.length_singleton]

/-- The anchored forms start alike: a name at the front of the text, followed by a character
that is no word character, is group 1, when what comes next cannot start on a word character. -/
lemma ends_after_name (hw : WordClass word) {c more : List Char} {y : Char} (hc : IsName word c)
    (hy : word y = false) (rest : List Term) (hrest : ∀ x, word x = true → (seqs rest).Rejects x) :
    (seqs (start :: many Text.isBlank 0 :: group 1 (many word 1) :: rest)).ends (c ++ y :: more) 0
        Groups.empty =
      (seqs rest).ends (c ++ y :: more) c.length (Groups.empty.put 1 (0, c.length)) := by
  obtain ⟨x, xs, rfl⟩ := List.exists_cons_of_ne_nil hc.ne_nil
  have hx : Text.isBlank x = false := hw.isBlank_eq_false (hc.word x List.mem_cons_self)
  rw [seqs_cons, ends_seq_start_zero, seqs_cons,
    ends_seq_many_of_runLength_zero _ (by rw [List.drop_zero, List.cons_append, runLength_cons_of_not _ hx]),
    seqs_cons, ends_seq_group_many_of_rejects 1 (r := (x :: xs).length)
      (by rw [List.drop_zero]; exact runLength_append_cons _ hc.word hy) (by simp) hrest, Nat.zero_add]

/-- One blank, then a character that is not blank, where at least one is wanted. -/
lemma ends_one_blank {z : List Char} (rest : List Term) (h : t.drop i = ' ' :: z)
    (hz : ∀ ch ∈ z.head?, Text.isBlank ch = false) :
    (seqs (many Text.isBlank 1 :: rest)).ends t i g = (seqs rest).ends t (i + 1) g := by
  rw [seqs_cons, ends_seq_many_of_runLength_eq _ (by rw [h]; exact runLength_blank_of_ne_nil hz)]

/-- One blank, then a character that is not blank, where blanks may be left out but what follows
cannot start on a blank. -/
lemma ends_optional_blank {z : List Char} (rest : List Term) (h : t.drop i = ' ' :: z)
    (hz : ∀ ch ∈ z.head?, Text.isBlank ch = false) (hrest : ∀ x, Text.isBlank x = true → (seqs rest).Rejects x) :
    (seqs (many Text.isBlank 0 :: rest)).ends t i g = (seqs rest).ends t (i + 1) g := by
  rw [seqs_cons, ends_seq_many_of_rejects (by rw [h]; exact runLength_blank_of_ne_nil hz) (Nat.zero_le 1) hrest]

/-- Blanks that may be left out, at the end of the text, and then the end. -/
lemma ends_blanks_finish (h : t.drop i = []) (hi : i = t.length) :
    (seqs [many Text.isBlank 0, finish]).ends t i g = [(i, g)] := by
  rw [seqs_cons, ends_seq_many_of_runLength_zero _ (by rw [h]; rfl), seqs_cons,
    ends_seq_finish, if_pos hi, seqs_nil, ends_empty]

/-- Blanks that may be left out and the end reject every character but a blank. -/
lemma rejects_blanks_finish {x : Char} (hx : Text.isBlank x = false) :
    (seqs [many Text.isBlank 0, finish]).Rejects x :=
  rejects_seq_many_zero hx (rejects_seq _ (rejects_finish x))

/-- The operator of a comparison, followed by a blank, is the first alternative that matches:
`<=` and `>=` are tried before `<` and `>`, which would match their first character only. -/
lemma ends_seq_group_operators (o : CompareOp) {rest : List Char} (b : Term)
    (h : t.drop i = o.symbol.toList ++ ' ' :: rest) :
    ∃ later, (seq (group 2 (alts (operatorSymbols.map Term.literal))) b).ends t i g =
      b.ends t (i + o.symbol.toList.length) (g.put 2 (i, i + o.symbol.toList.length)) ++ later := by
  rw [ends_seq_group]
  cases o <;> simp [operatorSymbols, alts.eq_2, ends, ends_literal, h, fitsAt, CompareOp.symbol]

/-- The operators reject every character that none of them starts with. -/
lemma rejects_operators {x : Char} (h1 : x ≠ '=') (h2 : x ≠ '!') (h3 : x ≠ '<') (h4 : x ≠ '>') :
    (alts (operatorSymbols.map Term.literal)).Rejects x := by
  refine rejects_alts fun r hr => ?_
  simp only [operatorSymbols, List.map_cons, List.map_nil, List.mem_cons, List.not_mem_nil, or_false] at hr
  rcases hr with rfl | rfl | rfl | rfl | rfl | rfl | rfl | rfl <;> exact rejects_literal rfl (by assumption)

lemma ne_of_isBlank {z x : Char} (hz : Text.isBlank z = true) (hx : Text.isBlank x = false) : z ≠ x := by
  rintro rfl
  rw [hz] at hx
  exact absurd hx (by decide)

/-- A blank stands for no letter of a keyword. -/
lemma caseless_of_isBlank {z x : Char} (hz : Text.isBlank z = true) (hx : Text.isBlank x = false)
    (hX : Text.isBlank x.toUpper = false) : caseless x z = false := by
  have h₁ := ne_of_isBlank hz hx
  have h₂ := ne_of_isBlank hz hX
  have h₃ : z ≠ 'ſ' := ne_of_isBlank hz rfl
  simp [caseless, h₁, h₂, h₃]

/-- The right side of a comparison rejects blanks: a quoted text starts with a quote, a run of
characters that are not blank with one of them. -/
lemma rejects_operand {z : Char} (hz : Text.isBlank z = true) (rest : List Term) :
    (seqs (group 3 operandTerm :: rest)).Rejects z :=
  rejects_seqs_cons _ (rejects_group 3 (rejects_alt (rejects_seq_literal _ rfl (ne_of_isBlank hz rfl))
    (rejects_many (Nat.le_refl 1) (by simp [nonblank, hz]))))

end Running

/-! ### Comparisons -/

section Comparison

variable {word : Char → Bool} {c x : List Char}

/-- The groups of a comparison `c op x` read whole: the name, the operator and the operand. -/
def comparisonGroups (n k m : Nat) : Groups :=
  ((Groups.empty.put 1 (0, n)).put 2 (n + 1, n + 1 + k)).put 3 (n + 1 + k + 1, n + 1 + k + 1 + m)

lemma comparisonTerm_eq (word : Char → Bool) :
    comparisonTerm word = seqs [start, many Text.isBlank 0, group 1 (many word 1), many Text.isBlank 0,
      group 2 (alts (operatorSymbols.map Term.literal)), many Text.isBlank 0, group 3 operandTerm,
      many Text.isBlank 0, finish] := rfl

/-- The comparison pattern on `c op x`, `x` not starting on a blank, runs to the operand: the
name and the operator are groups 1 and 2, and the operand is read from its first character. -/
lemma comparison_ends_operand (hw : WordClass word) (hc : IsName word c) (o : CompareOp)
    (hx : ∀ ch ∈ x.head?, Text.isBlank ch = false) :
    ∃ later, (comparisonTerm word).ends (c ++ ' ' :: (o.symbol.toList ++ ' ' :: x)) 0 Groups.empty =
      (seqs [group 3 operandTerm, many Text.isBlank 0, finish]).ends (c ++ ' ' :: (o.symbol.toList ++ ' ' :: x))
        (c.length + 1 + o.symbol.toList.length + 1)
        ((Groups.empty.put 1 (0, c.length)).put 2 (c.length + 1, c.length + 1 + o.symbol.toList.length)) ++
        later := by
  have hsym : ∀ ch ∈ (o.symbol.toList ++ ' ' :: x).head?, Text.isBlank ch = false := by
    cases o <;> simp [CompareOp.symbol] <;> rfl
  have d₁ : (c ++ ' ' :: (o.symbol.toList ++ ' ' :: x)).drop c.length =
      ' ' :: (o.symbol.toList ++ ' ' :: x) := List.drop_left
  have d₂ := drop_succ_of_drop_eq_cons d₁
  have d₃ := drop_add_of_drop_eq_append d₂
  -- a word character cannot start a blank or an operator, a blank cannot start an operator
  have hname : ∀ y, word y = true → (seqs [many Text.isBlank 0, group 2 (alts (operatorSymbols.map Term.literal)),
      many Text.isBlank 0, group 3 operandTerm, many Text.isBlank 0, finish]).Rejects y := fun y hy =>
    rejects_seq_many_zero (hw.isBlank_eq_false hy) (rejects_seq _ (rejects_group 2 (rejects_operators
      (hw.ne_of_word hy (by decide) (by decide)) (hw.ne_of_word hy (by decide) (by decide))
      (hw.ne_of_word hy (by decide) (by decide)) (hw.ne_of_word hy (by decide) (by decide)))))
  have hops : ∀ z, Text.isBlank z = true → (seqs [group 2 (alts (operatorSymbols.map Term.literal)),
      many Text.isBlank 0, group 3 operandTerm, many Text.isBlank 0, finish]).Rejects z := fun z hz =>
    rejects_seqs_cons _ (rejects_group 2 (rejects_operators
      (ne_of_isBlank hz rfl) (ne_of_isBlank hz rfl) (ne_of_isBlank hz rfl) (ne_of_isBlank hz rfl)))
  rw [comparisonTerm_eq, ends_after_name hw hc (hw.eq_false (by decide) (by decide)) _ hname,
    ends_optional_blank _ d₁ hsym hops, seqs_cons]
  obtain ⟨later, hlater⟩ := ends_seq_group_operators o (g := Groups.empty.put 1 (0, c.length)) _ d₂
  rw [hlater, ends_optional_blank _ d₃ hx fun z hz => rejects_operand hz _]
  exact ⟨later, rfl⟩

/-- An operand written without quotes is group 3 and runs to the end of the text. -/
lemma ends_operand_token {t x : List Char} {j : Nat} {g : Groups} (hx : IsToken x) (h : t.drop j = x)
    (hlen : j + x.length = t.length) :
    (seqs [group 3 operandTerm, many Text.isBlank 0, finish]).ends t j g =
      [(j + x.length, g.put 3 (j, j + x.length))] := by
  obtain ⟨x₀, xs, rfl⟩ := List.exists_cons_of_ne_nil hx.ne_nil
  have hquote : (seq (group 3 (seqs [Term.literal "'", many (fun c => c != '\'') 0, Term.literal "'"]))
      (seqs [many Text.isBlank 0, finish])).Rejects x₀ :=
    rejects_seq _ (rejects_group 3 (rejects_seq_literal _ rfl (hx.not_quote x₀ List.mem_cons_self)))
  have hrun : runLength nonblank (t.drop j) = (x₀ :: xs).length := by
    rw [h]
    exact runLength_of_all fun ch hch => by simp [nonblank, hx.not_blank ch hch]
  rw [seqs_cons, operandTerm, ends_seq_group_alt, hquote _ _ _ (getElem?_of_drop_eq_cons h), List.nil_append,
    ends_seq_group_many_of_rejects 3 hrun (by simp) fun z hz => rejects_blanks_finish (by simpa [nonblank] using hz),
    ends_blanks_finish (List.drop_eq_nil_of_le (by omega)) hlen]

/-- A quoted text without quotes inside, read through its closing quote. -/
lemma ends_quoted {t q : List Char} {j : Nat} {g : Groups} (hq : ∀ ch ∈ q, ch ≠ '\'')
    (h : t.drop j = '\'' :: (q ++ ['\''])) :
    (seqs [Term.literal "'", many (fun c => c != '\'') 0, Term.literal "'"]).ends t j g =
      [(j + (q.length + 2), g)] := by
  have h₁ := drop_succ_of_drop_eq_cons h
  have h₂ := drop_add_of_drop_eq_append h₁
  have hrun : runLength (fun c => c != '\'') (t.drop (j + 1)) = q.length := by
    rw [h₁]
    exact runLength_append_cons _ (fun ch hch => by simpa using hq ch hch) rfl
  have hone : "'".toList.length = 1 := rfl
  rw [seqs_cons (Term.literal "'"), ends_seq_literal, if_pos (by simp [h, fitsAt]), hone, seqs_cons,
    ends_seq_many_of_rejects hrun (Nat.zero_le _)
      fun z hz => rejects_seqs_cons _ (rejects_literal (x := '\'') rfl (by simpa using hz)),
    seqs_cons, ends_seq_literal, if_pos (by simp [h₂, fitsAt]), hone, seqs_nil, ends_empty]
  congr 2
  omega

/-- A quoted operand without quotes inside is group 3, through its closing quote. -/
lemma ends_operand_quoted {t q : List Char} {j : Nat} {g : Groups} (hq : ∀ ch ∈ q, ch ≠ '\'')
    (h : t.drop j = '\'' :: (q ++ ['\''])) (hlen : j + (q.length + 2) = t.length) :
    ∃ later, (seqs [group 3 operandTerm, many Text.isBlank 0, finish]).ends t j g =
      (j + (q.length + 2), g.put 3 (j, j + (q.length + 2))) :: later := by
  rw [seqs_cons, operandTerm, ends_seq_group_alt, ends_seq_group, ends_quoted hq h, List.flatMap_cons,
    List.flatMap_nil, List.append_nil, ends_blanks_finish (List.drop_eq_nil_of_le (by omega)) hlen]
  exact ⟨_, rfl⟩

/-- The comparison pattern on `c op x`: its first match is the whole text, with the name, the
operator and the operand as its groups. -/
lemma comparison_ends (hw : WordClass word) (hc : IsName word c) (o : CompareOp) (hx : IsOperand x) :
    ∃ later, (comparisonTerm word).ends (c ++ ' ' :: (o.symbol.toList ++ ' ' :: x)) 0 Groups.empty =
      (c.length + 1 + o.symbol.toList.length + 1 + x.length,
        comparisonGroups c.length o.symbol.toList.length x.length) :: later := by
  obtain ⟨later, hlater⟩ := comparison_ends_operand hw hc o hx.head_not_blank
  have d₀ : (c ++ ' ' :: (o.symbol.toList ++ ' ' :: x)).drop c.length = ' ' :: (o.symbol.toList ++ ' ' :: x) :=
    List.drop_left
  have hd : (c ++ ' ' :: (o.symbol.toList ++ ' ' :: x)).drop (c.length + 1 + o.symbol.toList.length + 1) = x :=
    drop_succ_of_drop_eq_cons (drop_add_of_drop_eq_append (drop_succ_of_drop_eq_cons d₀))
  have hlen : c.length + 1 + o.symbol.toList.length + 1 + x.length =
      (c ++ ' ' :: (o.symbol.toList ++ ' ' :: x)).length := by
    simp
    omega
  rw [hlater]
  cases hx with
  | token hx _ =>
    rw [ends_operand_token hx hd hlen]
    exact ⟨later, rfl⟩
  | quoted hq =>
    obtain ⟨later', hlater'⟩ := ends_operand_quoted hq hd (by simpa using hlen)
    rw [hlater']
    refine ⟨later' ++ later, ?_⟩
    simp [comparisonGroups]

end Comparison

end DataQuality.Predicate

namespace DataQuality.Predicate

open Pattern Term

/-! ### Lists and ranges -/

section Lists

variable {word : Char → Bool} {c body : List Char}

/-- The groups of a list form: the name and the text between the brackets. -/
def listGroups (n a m : Nat) : Groups :=
  (Groups.empty.put 1 (0, n)).put 2 (n + a, n + a + m)

/-- A text between brackets: one or more characters, none the closing bracket. -/
structure IsInside (close : Char) (body : List Char) : Prop where
  ne_nil : body ≠ []
  not_close : ∀ ch ∈ body, ch ≠ close

/-- A greedy run of characters other than a closing bracket, closed by it. -/
lemma ends_seq_group_inside {t rest : List Char} {i : Nat} {g : Groups} {close : Char} (n : Nat)
    {w : String} (hw : w.toList = close :: w.toList.tail) (b : Term) (hbody : IsInside close body)
    (h : t.drop i = body ++ close :: rest) :
    (seq (group n (many (fun ch => ch != close) 1)) (seq (Term.literal w) b)).ends t i g =
      (seq (Term.literal w) b).ends t (i + body.length) (g.put n (i, i + body.length)) := by
  refine ends_seq_group_many_of_rejects n ?_ ?_ fun z hz => rejects_seq_literal b hw (by simpa using hz)
  · rw [h]
    exact runLength_append_cons _ (fun ch hch => by simpa using hbody.not_close ch hch) (by simp)
  · obtain ⟨b₀, bs, hb⟩ := List.exists_cons_of_ne_nil hbody.ne_nil
    rw [hb, List.length_cons]
    omega

/-- `c IN (body)`: the list pattern's first match is the whole text, with the name and the
text between the parentheses as its groups. -/
lemma inList_ends (hw : WordClass word) (hc : IsName word c) (hbody : IsInside ')' body) :
    (inListTerm word).ends (c ++ ' ' :: 'I' :: 'N' :: ' ' :: '(' :: (body ++ [')'])) 0 Groups.empty =
      [(c.length + 5 + body.length + 1, listGroups c.length 5 body.length)] := by
  have d₀ : (c ++ ' ' :: 'I' :: 'N' :: ' ' :: '(' :: (body ++ [')'])).drop c.length =
      ' ' :: 'I' :: 'N' :: ' ' :: '(' :: (body ++ [')']) := List.drop_left
  have d₁ := drop_succ_of_drop_eq_cons d₀
  have d₃ := drop_add_of_drop_eq_append (u := ['I', 'N']) d₁
  have d₄ := drop_succ_of_drop_eq_cons d₃
  have d₅ := drop_succ_of_drop_eq_cons d₄
  have d₆ := drop_add_of_drop_eq_append d₅
  have hin : "in".toList.length = ['I', 'N'].length := rfl
  have hone : "(".toList.length = 1 ∧ ")".toList.length = 1 := ⟨rfl, rfl⟩
  rw [inListTerm, ends_after_name hw hc (hw.eq_false (by decide) (by decide)) _
      fun y hy => rejects_seqs_many _ (Nat.le_refl 1) (hw.isBlank_eq_false hy),
    ends_one_blank _ d₀ (by simp; rfl), seqs_cons, ends_seq_keyword, if_pos (by simp [d₁, fitsAt, caseless]), hin,
    ends_optional_blank _ d₃ (by simp; rfl) fun z hz => rejects_seqs_cons _ (rejects_literal rfl (ne_of_isBlank hz rfl)),
    seqs_cons, ends_seq_literal, if_pos (by rw [d₄]; rfl), hone.1,
    seqs_cons, seqs_cons, ends_seq_group_inside 2 rfl _ hbody d₅,
    ends_seq_literal, if_pos (by rw [d₆]; rfl), hone.2,
    ends_blanks_finish (drop_succ_of_drop_eq_cons d₆) (by simp; omega)]
  simp [listGroups]

/-- `c = ANY(ARRAY[body])`: the array pattern's first match is the whole text, with the name
and the text between the square brackets as its groups. -/
lemma anyArray_ends (hw : WordClass word) (hc : IsName word c) (hbody : IsInside ']' body) :
    (anyArrayTerm word).ends
        (c ++ ' ' :: '=' :: ' ' :: 'A' :: 'N' :: 'Y' :: '(' :: 'A' :: 'R' :: 'R' :: 'A' :: 'Y' :: '[' ::
          (body ++ [']', ')'])) 0 Groups.empty =
      [(c.length + 13 + body.length + 2, listGroups c.length 13 body.length)] := by
  have d₀ : (c ++ ' ' :: '=' :: ' ' :: 'A' :: 'N' :: 'Y' :: '(' :: 'A' :: 'R' :: 'R' :: 'A' :: 'Y' :: '[' ::
      (body ++ [']', ')'])).drop c.length =
      ' ' :: '=' :: ' ' :: 'A' :: 'N' :: 'Y' :: '(' :: 'A' :: 'R' :: 'R' :: 'A' :: 'Y' :: '[' ::
        (body ++ [']', ')']) := List.drop_left
  have d₁ := drop_succ_of_drop_eq_cons d₀
  have d₂ := drop_succ_of_drop_eq_cons d₁
  have d₃ := drop_succ_of_drop_eq_cons d₂
  have d₆ := drop_add_of_drop_eq_append (u := ['A', 'N', 'Y']) d₃
  have d₇ := drop_succ_of_drop_eq_cons d₆
  have d₁₂ := drop_add_of_drop_eq_append (u := ['A', 'R', 'R', 'A', 'Y']) d₇
  have d₁₃ := drop_succ_of_drop_eq_cons d₁₂
  have d₁₄ := drop_add_of_drop_eq_append d₁₃
  have hkw : "any".toList.length = ['A', 'N', 'Y'].length ∧
      "array".toList.length = ['A', 'R', 'R', 'A', 'Y'].length := ⟨rfl, rfl⟩
  have hone : "=".toList.length = 1 ∧ "(".toList.length = 1 ∧ "[".toList.length = 1 ∧
      "])".toList.length = 2 := ⟨rfl, rfl, rfl, rfl⟩
  have hname : ∀ y, word y = true → (seqs [many Text.isBlank 0, Term.literal "=", many Text.isBlank 0,
      keyword "any", many Text.isBlank 0, Term.literal "(", keyword "array", Term.literal "[",
      group 2 (many (fun c => c != ']') 1), Term.literal "])", many Text.isBlank 0, finish]).Rejects y :=
    fun y hy => rejects_seqs_many_zero (hw.isBlank_eq_false hy)
      (rejects_seqs_cons _ (rejects_literal rfl (hw.ne_of_word hy (by decide) (by decide))))
  rw [anyArrayTerm, ends_after_name hw hc (hw.eq_false (by decide) (by decide)) _ hname,
    ends_optional_blank _ d₀ (by simp; rfl) fun z hz => rejects_seqs_cons _ (rejects_literal rfl (ne_of_isBlank hz rfl)),
    seqs_cons, ends_seq_literal, if_pos (by rw [d₁]; rfl), hone.1,
    ends_optional_blank _ d₂ (by simp; rfl)
      fun z hz => rejects_seqs_cons _ (rejects_keyword rfl (caseless_of_isBlank hz rfl rfl)),
    seqs_cons, ends_seq_keyword, if_pos (by rw [d₃]; rfl), hkw.1,
    seqs_cons, ends_seq_many_of_runLength_zero _ (by rw [d₆]; rfl),
    seqs_cons, ends_seq_literal, if_pos (by rw [d₆]; rfl), hone.2.1,
    seqs_cons, ends_seq_keyword, if_pos (by rw [d₇]; rfl), hkw.2,
    seqs_cons, ends_seq_literal, if_pos (by rw [d₁₂]; rfl), hone.2.2.1,
    seqs_cons, seqs_cons, ends_seq_group_inside 2 rfl _ hbody d₁₃,
    ends_seq_literal, if_pos (by rw [d₁₄]; rfl), hone.2.2.2,
    ends_blanks_finish (List.drop_eq_nil_of_le (by simp; omega)) (by simp; omega)]
  simp [listGroups]

/-- The groups of `c BETWEEN lo AND hi`: the name and the two bounds. -/
def betweenGroups (n a b : Nat) : Groups :=
  ((Groups.empty.put 1 (0, n)).put 2 (n + 9, n + 9 + a)).put 3 (n + 9 + a + 5, n + 9 + a + 5 + b)

/-- A run of characters that are not blank, closed by a blank. -/
lemma ends_seq_group_token {t x rest : List Char} {i : Nat} {g : Groups} (n : Nat) (hx : IsToken x)
    (b : Term) (hb : ∀ ch, Text.isBlank ch = false → b.Rejects ch) (h : t.drop i = x ++ ' ' :: rest) :
    (seq (group n (many nonblank 1)) b).ends t i g = b.ends t (i + x.length) (g.put n (i, i + x.length)) := by
  refine ends_seq_group_many_of_rejects n ?_ ?_ fun z hz => hb z (by simpa [nonblank] using hz)
  · rw [h]
    exact runLength_append_cons _ (fun ch hch => by simp [nonblank, hx.not_blank ch hch]) rfl
  · obtain ⟨x₀, xs, hx₀⟩ := List.exists_cons_of_ne_nil hx.ne_nil
    rw [hx₀, List.length_cons]
    omega

/-- `c BETWEEN lo AND hi`: the range pattern's first match is the whole text, with the name and
the bounds as its groups. -/
lemma between_ends (hw : WordClass word) (hc : IsName word c) (hlo : IsToken lo) (hhi : IsToken hi) :
    (betweenTerm word).ends
        (c ++ ' ' :: 'B' :: 'E' :: 'T' :: 'W' :: 'E' :: 'E' :: 'N' :: ' ' ::
          (lo ++ ' ' :: 'A' :: 'N' :: 'D' :: ' ' :: hi)) 0 Groups.empty =
      [(c.length + 9 + lo.length + 5 + hi.length, betweenGroups c.length lo.length hi.length)] := by
  have d₀ : (c ++ ' ' :: 'B' :: 'E' :: 'T' :: 'W' :: 'E' :: 'E' :: 'N' :: ' ' ::
      (lo ++ ' ' :: 'A' :: 'N' :: 'D' :: ' ' :: hi)).drop c.length =
      ' ' :: 'B' :: 'E' :: 'T' :: 'W' :: 'E' :: 'E' :: 'N' :: ' ' ::
        (lo ++ ' ' :: 'A' :: 'N' :: 'D' :: ' ' :: hi) := List.drop_left
  have d₁ := drop_succ_of_drop_eq_cons d₀
  have d₈ := drop_add_of_drop_eq_append (u := ['B', 'E', 'T', 'W', 'E', 'E', 'N']) d₁
  have d₉ := drop_succ_of_drop_eq_cons d₈
  have d₁₀ := drop_add_of_drop_eq_append d₉
  have d₁₁ := drop_succ_of_drop_eq_cons d₁₀
  have d₁₄ := drop_add_of_drop_eq_append (u := ['A', 'N', 'D']) d₁₁
  have d₁₅ := drop_succ_of_drop_eq_cons d₁₄
  have hkw : "between".toList.length = ['B', 'E', 'T', 'W', 'E', 'E', 'N'].length ∧
      "and".toList.length = ['A', 'N', 'D'].length := ⟨rfl, rfl⟩
  have hrun : runLength nonblank (hi.drop 0) = hi.length :=
    runLength_of_all fun ch hch => by simp [nonblank, hhi.not_blank ch hch]
  rw [betweenTerm, ends_after_name hw hc (hw.eq_false (by decide) (by decide)) _
      fun y hy => rejects_seqs_many _ (Nat.le_refl 1) (hw.isBlank_eq_false hy),
    ends_one_blank _ d₀ (by simp; rfl), seqs_cons, ends_seq_keyword, if_pos (by rw [d₁]; rfl), hkw.1,
    ends_one_blank _ d₈ (hlo.head_append_not_blank _), seqs_cons,
    ends_seq_group_token 2 hlo _ (fun ch hch => rejects_seqs_many _ (Nat.le_refl 1) hch) d₉,
    ends_one_blank _ d₁₀ (by simp; rfl), seqs_cons, ends_seq_keyword, if_pos (by rw [d₁₁]; rfl), hkw.2,
    ends_one_blank _ d₁₄ hhi.head_not_blank, seqs_cons,
    ends_seq_group_many_of_rejects 3 (by rw [d₁₅, ← List.drop_zero (l := hi)]; exact hrun)
      (List.length_pos_iff.mpr hhi.ne_nil) fun ch hch => rejects_blanks_finish (by simpa [nonblank] using hch),
    ends_blanks_finish (List.drop_eq_nil_of_le (by simp; omega)) (by simp; omega)]
  simp [betweenGroups]

end Lists

/-! ### Patterns that fail

A form is read by the first pattern that matches, so a form's text must fail the patterns tried
before its own.  Each fails at the first item that cannot stand where the text is.
-/

section Failing

variable {word : Char → Bool} {c z : List Char}

/-- A pattern that wants a keyword after the name and a blank fails where the text after the
blank does not start with the keyword. -/
lemma ends_name_keyword_eq_nil (hw : WordClass word) (hc : IsName word c) {w : String} (rest : List Term)
    (hz : ∀ ch ∈ z.head?, Text.isBlank ch = false) (hfit : fitsAt (w.toList.map caseless) z = false) :
    (seqs (start :: many Text.isBlank 0 :: group 1 (many word 1) :: many Text.isBlank 1 :: keyword w :: rest)).ends
      (c ++ ' ' :: z) 0 Groups.empty = [] := by
  have d₀ : (c ++ ' ' :: z).drop c.length = ' ' :: z := List.drop_left
  rw [ends_after_name hw hc (hw.eq_false (by decide) (by decide)) _
      fun y hy => rejects_seqs_many _ (Nat.le_refl 1) (hw.isBlank_eq_false hy),
    ends_one_blank _ d₀ hz, seqs_cons, ends_seq_keyword, drop_succ_of_drop_eq_cons d₀, hfit, if_neg Bool.false_ne_true]

/-- The name and blanks the array pattern reads before its `=`, where a word character cannot
follow the name. -/
lemma anyArray_rejects_name (hw : WordClass word) : ∀ y, word y = true →
    (seqs [many Text.isBlank 0, Term.literal "=", many Text.isBlank 0, keyword "any", many Text.isBlank 0,
      Term.literal "(", keyword "array", Term.literal "[", group 2 (many (fun c => c != ']') 1),
      Term.literal "])", many Text.isBlank 0, finish]).Rejects y :=
  fun y hy => rejects_seqs_many_zero (hw.isBlank_eq_false hy)
    (rejects_seqs_cons _ (rejects_literal rfl (hw.ne_of_word hy (by decide) (by decide))))

/-- The array pattern fails where the name and a blank are followed by anything but `=`. -/
lemma anyArray_ends_of_head_ne (hw : WordClass word) (hc : IsName word c)
    (hz : ∀ ch ∈ z.head?, Text.isBlank ch = false) (hne : ∀ ch ∈ z.head?, ch ≠ '=') :
    (anyArrayTerm word).ends (c ++ ' ' :: z) 0 Groups.empty = [] := by
  have d₀ : (c ++ ' ' :: z).drop c.length = ' ' :: z := List.drop_left
  have hfit : fitsAt ("=".toList.map fun x ch => ch == x) z = false := by
    cases z with
    | nil => rfl
    | cons ch z => simpa [fitsAt] using hne ch rfl
  rw [anyArrayTerm, ends_after_name hw hc (hw.eq_false (by decide) (by decide)) _ (anyArray_rejects_name hw),
    ends_optional_blank _ d₀ hz fun z hz => rejects_seqs_cons _ (rejects_literal rfl (ne_of_isBlank hz rfl)),
    seqs_cons, ends_seq_literal, drop_succ_of_drop_eq_cons d₀, hfit, if_neg Bool.false_ne_true]

/-- The array pattern fails on an equality `c = x` whose operand is read whole: a quoted operand
cannot stand for `any`, and an operand without quotes has no parenthesis for `any(`. -/
lemma anyArray_ends_equality (hw : WordClass word) (hc : IsName word c) {x : List Char} (hx : IsOperand x) :
    (anyArrayTerm word).ends (c ++ ' ' :: '=' :: ' ' :: x) 0 Groups.empty = [] := by
  have d₀ : (c ++ ' ' :: '=' :: ' ' :: x).drop c.length = ' ' :: '=' :: ' ' :: x := List.drop_left
  have d₁ := drop_succ_of_drop_eq_cons d₀
  have d₂ := drop_succ_of_drop_eq_cons d₁
  have d₃ := drop_succ_of_drop_eq_cons d₂
  have hone : "=".toList.length = 1 := rfl
  rw [anyArrayTerm, ends_after_name hw hc (hw.eq_false (by decide) (by decide)) _ (anyArray_rejects_name hw),
    ends_optional_blank _ d₀ (by simp; rfl) fun z hz => rejects_seqs_cons _ (rejects_literal rfl (ne_of_isBlank hz rfl)),
    seqs_cons, ends_seq_literal, if_pos (by rw [d₁]; rfl), hone,
    ends_optional_blank _ d₂ hx.head_not_blank
      fun z hz => rejects_seqs_cons _ (rejects_keyword rfl (caseless_of_isBlank hz rfl rfl)),
    seqs_cons, ends_seq_keyword, d₃]
  cases hx with
  | quoted _ => rfl
  | token hx hparen =>
    -- after `any` the operand goes on without blanks, and what follows is no parenthesis
    split
    · have hrest : (c ++ ' ' :: '=' :: ' ' :: x).drop (c.length + 1 + 1 + 1 + "any".toList.length) = x.drop 3 := by
        rw [← List.drop_drop, d₃]
        rfl
      have hrun : runLength Text.isBlank (x.drop 3) = 0 := by
        cases h : x.drop 3 with
        | nil => rfl
        | cons ch _ =>
          exact runLength_cons_of_not _ (hx.not_blank ch (List.mem_of_mem_drop (h ▸ List.mem_cons_self)))
      have hfit : fitsAt ("(".toList.map fun x ch => ch == x) (x.drop 3) = false := by
        cases h : x.drop 3 with
        | nil => rfl
        | cons ch _ => simpa [fitsAt] using hparen ch (List.mem_of_mem_drop (h ▸ List.mem_cons_self))
      rw [seqs_cons, ends_seq_many_of_runLength_zero _ (by rw [hrest]; exact hrun), seqs_cons, ends_seq_literal,
        hrest, hfit, if_neg Bool.false_ne_true]
    · rfl

end Failing


end DataQuality.Predicate
