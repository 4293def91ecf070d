import DataQuality.Proofs.Predicate.Literals

/-!
# Reading the forms of predicates

What the reader makes of each form of the language, written as the documentation writes it:
`c op x`, `c IN (l₁, …)`, `c = ANY(ARRAY[l₁, …])` and `c BETWEEN lo AND hi`, with `c` a name of
word characters.  Each text is read as it stands (no parentheses to drop), is no conjunction,
fails every pattern tried before its own, and its own pattern gives the name, the operator and
the operands back (`parseWith_comparison`, `parseWith_inList`, `parseWith_anyArray`,
`parseWith_between`).  All of it holds of any engine that follows the documented patterns.
-/

namespace DataQuality.Predicate

open Pattern Term

/-! ### Texts read as they stand -/

section Unwrap

/-- A text that neither starts nor ends with a blank, and does not start with a parenthesis, is
read as it stands. -/
lemma unwrap_eq_self {s : String} (hhead : ∀ ch ∈ s.toList.head?, Text.isBlank ch = false ∧ ch ≠ '(')
    (hlast : ∀ ch ∈ s.toList.getLast?, Text.isBlank ch = false) : unwrap s = s := by
  have htrim : Text.trim s = s := by
    have h := trim_ofList (s := s.toList) (fun ch hch => (hhead ch hch).1) hlast
    rwa [String.ofList_toList] at h
  have hopen : (s.toList.head? == some '(') = false := by
    cases h : s.toList.head? with
    | none => rfl
    | some x => simpa using (hhead x (by rw [h]; rfl)).2
  rw [unwrap, htrim, unwrap.go]
  simp [hopen]

end Unwrap

section Name

variable {P : Patterns} {word : Char → Bool} {s : String} {c u : List Char}

/-- A text that starts with a name and ends with no blank is read as it stands. -/
lemma unwrap_of_name (hw : WordClass word) (hs : s.toList = c ++ u) (hc : IsName word c)
    (hlast : ∀ ch ∈ s.toList.getLast?, Text.isBlank ch = false) : unwrap s = s := by
  refine unwrap_eq_self (fun ch hch => ?_) hlast
  rw [hs, List.head?_append, List.head?_eq_some_head hc.ne_nil, Option.some_or] at hch
  obtain rfl := Option.mem_some_iff.mp hch
  have hword := hc.word _ (List.head_mem hc.ne_nil)
  exact ⟨hw.isBlank_eq_false hword, hw.ne_of_word hword (by decide) (by decide)⟩

/-- A text that ends with a piece whose last character is no blank. -/
lemma getLast_append_not_blank (s w : String) (hne : w.toList ≠ [])
    (hw : ∀ ch ∈ w.toList.getLast?, Text.isBlank ch = false) :
    ∀ ch ∈ (s ++ w).toList.getLast?, Text.isBlank ch = false := by
  rw [String.toList_append, List.getLast?_append, List.getLast?_eq_some_getLast hne, Option.some_or,
    ← List.getLast?_eq_some_getLast hne]
  exact hw

/-- Such a text is parsed as the reader, given fuel for each of its characters, reads it. -/
lemma parseWith_of_read (hw : WordClass word) (hs : s.toList = c ++ u) (hc : IsName word c)
    (hlast : ∀ ch ∈ s.toList.getLast?, Text.isBlank ch = false) {p : Predicate}
    (h : read P (s.length + 1) s = some p) : parseWith P s = .ok p := by
  have hne : s.isEmpty = false := String.isEmpty_eq_false_iff.mpr fun hs₀ => by
    subst hs₀
    exact hc.ne_nil (List.append_eq_nil_iff.mp hs.symm).1
  simp only [parseWith, unwrap_of_name hw hs hc hlast, hne, h, Bool.false_eq_true, if_false]

end Name

/-! ### Groups of an anchored pattern -/

section Captures

variable {b : Term} {text : String} {t : List Char}

lemma captures_eq_none_of (ht : text.toList = t) (h : (seq start b).ends t 0 Groups.empty = []) :
    (seq start b).captures text = none :=
  captures_seq_start_eq_none (ht ▸ h)

/-- The groups of an anchored pattern whose first match at the start ends at `e` with groups `G`. -/
lemma captures_eq_of (ht : text.toList = t) {e : Nat} {G : Groups} {later : List (Nat × Groups)}
    (h : (seq start b).ends t 0 Groups.empty = (e, G) :: later) :
    (seq start b).captures text = some fun k =>
      ((G.put 0 (0, e)) k).map fun span => String.ofList ((t.drop span.1).take (span.2 - span.1)) := by
  subst ht
  exact captures_seq_start (by rw [firstAt, h]; rfl)

end Captures

/-! ### Patterns that fail -/

section Failing

variable {P : Patterns} {word : Char → Bool} {text : String} {c z : List Char}

/-- The pattern of `IS NULL OR` fails where the name and a blank are not followed by `is`. -/
lemma nullOrForm_eq_none (hw : WordClass word) (hf : P.Follow word) (hc : IsName word c)
    (ht : text.toList = c ++ ' ' :: z) (hz : ∀ ch ∈ z.head?, Text.isBlank ch = false)
    (hfit : fitsAt ("is".toList.map caseless) z = false) : nullOrForm P text = none := by
  rw [nullOrForm, hf.nullOr, nullOrTerm, seqs_cons,
    captures_eq_none_of (b := seqs _) ht (ends_name_keyword_eq_nil hw hc _ hz hfit)]
  rfl

/-- The pattern of `IS [NOT] NULL` fails where the name and a blank are not followed by `is`. -/
lemma isNullForm_eq_none (hw : WordClass word) (hf : P.Follow word) (hc : IsName word c)
    (ht : text.toList = c ++ ' ' :: z) (hz : ∀ ch ∈ z.head?, Text.isBlank ch = false)
    (hfit : fitsAt ("is".toList.map caseless) z = false) : isNullForm P text = none := by
  rw [isNullForm, hf.isNull, isNullTerm, seqs_cons,
    captures_eq_none_of (b := seqs _) ht (ends_name_keyword_eq_nil hw hc _ hz hfit)]
  rfl

/-- The pattern of `IN (…)` fails where the name and a blank are not followed by `in`. -/
lemma inListForm_eq_none (hw : WordClass word) (hf : P.Follow word) (hc : IsName word c)
    (ht : text.toList = c ++ ' ' :: z) (hz : ∀ ch ∈ z.head?, Text.isBlank ch = false)
    (hfit : fitsAt ("in".toList.map caseless) z = false) : listForm P.inList text = none := by
  rw [listForm, hf.inList, inListTerm, seqs_cons,
    captures_eq_none_of (b := seqs _) ht (ends_name_keyword_eq_nil hw hc _ hz hfit)]
  rfl

/-- The pattern of `BETWEEN` fails where the name and a blank are not followed by `between`. -/
lemma betweenForm_eq_none (hw : WordClass word) (hf : P.Follow word) (hc : IsName word c)
    (ht : text.toList = c ++ ' ' :: z) (hz : ∀ ch ∈ z.head?, Text.isBlank ch = false)
    (hfit : fitsAt ("between".toList.map caseless) z = false) : betweenForm P text = none := by
  rw [betweenForm, hf.between, betweenTerm, seqs_cons,
    captures_eq_none_of (b := seqs _) ht (ends_name_keyword_eq_nil hw hc _ hz hfit)]
  rfl

/-- The pattern of `= ANY(ARRAY[…])` fails where it finds no match at the start. -/
lemma anyArrayForm_eq_none (hf : P.Follow word) (ht : text.toList = c ++ ' ' :: z)
    (h : (anyArrayTerm word).ends (c ++ ' ' :: z) 0 Groups.empty = []) : listForm P.anyArray text = none := by
  rw [listForm, hf.anyArray, anyArrayTerm, seqs_cons, captures_eq_none_of (b := seqs _) ht h]
  rfl

end Failing

/-! ### Comparisons -/

section Comparison

variable {P : Patterns} {word : Char → Bool} {c x : String}

lemma toList_comparison (c x : String) (o : CompareOp) :
    (c ++ " " ++ o.symbol ++ " " ++ x).toList = c.toList ++ ' ' :: (o.symbol.toList ++ ' ' :: x.toList) := by
  simp

/-- The characters of an operator: at least one, none blank, none a quote, and the first no
letter. -/
lemma symbol_chars (o : CompareOp) :
    o.symbol.toList ≠ [] ∧ (∀ ch ∈ o.symbol.toList, Text.isBlank ch = false ∧ ch ≠ '\'') ∧
      ∀ ch ∈ o.symbol.toList.head?, Text.isBlank ch = false ∧ caseless 'a' ch = false := by
  cases o <;> exact ⟨by decide, forall_mem_of_all (by decide), forall_mem_of_option_all (by decide)⟩

/-- The operand of a comparison after its blank: no `AND` counts there. -/
lemma unjoined_operand {x : List Char} (hx : IsOperand x) : Unjoined [] false (' ' :: x) := by
  cases hx with
  | token ht _ =>
    refine ⟨fun _ => ?_, unjoined_of_nonblank ht.not_blank⟩
    rw [List.append_nil]
    exact not_andAhead_blank_of_token rfl ht.not_blank
  | quoted hq =>
    refine unjoined_blank rfl (fun ch hch => ?_) (unjoined_quoted hq).1
    obtain rfl := Option.mem_some_iff.mp hch
    exact ⟨rfl, rfl⟩

/-- No `AND` of a conjunction counts in a comparison `c op x`. -/
lemma unjoined_comparison (hw : WordClass word) {c x : List Char} (hc : IsName word c) (o : CompareOp)
    (hx : IsOperand x) : Unjoined [] false (c ++ ' ' :: (o.symbol.toList ++ ' ' :: x)) := by
  have hcq : ∀ ch ∈ c, ch ≠ '\'' := fun ch hch => hw.ne_of_word (hc.word ch hch) (by decide) (by decide)
  obtain ⟨hne, hsym, hhead⟩ := symbol_chars o
  refine unjoined_append (unjoined_of_nonblank fun ch hch => hw.isBlank_eq_false (hc.word ch hch)) ?_
  rw [foldl_insideAfter_of_ne hcq]
  refine unjoined_blank rfl (fun ch hch => ?_) ?_
  · rw [List.append_nil, List.head?_append, List.head?_eq_some_head hne, Option.some_or,
      ← List.head?_eq_some_head hne] at hch
    exact hhead ch hch
  · refine unjoined_append (unjoined_of_nonblank fun ch hch => (hsym ch hch).1) ?_
    rw [foldl_insideAfter_of_ne fun ch hch => (hsym ch hch).2]
    exact unjoined_operand hx

lemma ofSymbol?_symbol (o : CompareOp) : CompareOp.ofSymbol? o.symbol = some o := by
  cases o <;> rfl

/-- An operand read whole ends with a character that is no blank. -/
lemma IsOperand.getLast_not_blank {x : List Char} (hx : IsOperand x) (u : List Char) :
    ∀ ch ∈ (u ++ x).getLast?, Text.isBlank ch = false := by
  cases hx with
  | token ht _ => exact ht.getLast_append_not_blank u
  | quoted _ =>
    rw [← List.cons_append, ← List.append_assoc, List.getLast?_concat]
    intro ch hch
    obtain rfl := Option.mem_some_iff.mp hch
    rfl

lemma IsOperand.trim {x : String} (hx : IsOperand x.toList) : Text.trim x = x := by
  have h := trim_ofList hx.head_not_blank (by simpa using hx.getLast_not_blank [])
  rwa [String.ofList_toList] at h

/-- The comparison pattern reads `c op x` back into its name, its operator and its operand. -/
lemma comparisonForm_eq (hw : WordClass word) (hf : P.Follow word) (hc : IsName word c.toList) (o : CompareOp)
    (hx : IsOperand x.toList) :
    comparisonForm P (c ++ " " ++ o.symbol ++ " " ++ x) = some (Text.toLower c, o.symbol, Text.trim x) := by
  obtain ⟨later, h⟩ := comparison_ends hw hc o hx
  have d₀ : (c.toList ++ ' ' :: (o.symbol.toList ++ ' ' :: x.toList)).drop 0 =
      c.toList ++ ' ' :: (o.symbol.toList ++ ' ' :: x.toList) := List.drop_zero
  have d₁ : (c.toList ++ ' ' :: (o.symbol.toList ++ ' ' :: x.toList)).drop (c.toList.length + 1) =
      o.symbol.toList ++ ' ' :: x.toList := drop_succ_of_drop_eq_cons List.drop_left
  have d₂ : (c.toList ++ ' ' :: (o.symbol.toList ++ ' ' :: x.toList)).drop
      (c.toList.length + 1 + o.symbol.toList.length + 1) = x.toList ++ [] := by
    rw [List.append_nil]
    exact drop_succ_of_drop_eq_cons (drop_add_of_drop_eq_append d₁)
  rw [comparisonForm, hf.comparison, comparisonTerm, seqs_cons, captures_eq_of (b := seqs _) (toList_comparison c x o) h]
  simp only [Option.bind_eq_bind, Option.bind_some, Option.pure_def, comparisonGroups,
    Groups.put_of_ne _ _ (show (1 : Nat) ≠ 0 by decide), Groups.put_of_ne _ _ (show (2 : Nat) ≠ 0 by decide),
    Groups.put_of_ne _ _ (show (3 : Nat) ≠ 0 by decide), Groups.put_of_ne _ _ (show (1 : Nat) ≠ 3 by decide),
    Groups.put_of_ne _ _ (show (2 : Nat) ≠ 3 by decide), Groups.put_of_ne _ _ (show (1 : Nat) ≠ 2 by decide),
    Groups.put_self, Option.map_some, group_text d₀ (Nat.zero_add _).symm, group_text d₁ rfl,
    group_text d₂ rfl, String.ofList_toList]

/-- What follows the name and its blank in a comparison starts with no blank and with no
letter of a keyword. -/
lemma symbol_head (o : CompareOp) (rest : List Char) :
    ∀ ch ∈ (o.symbol.toList ++ rest).head?, Text.isBlank ch = false := by
  cases o <;> simp [CompareOp.symbol] <;> rfl

/-- The patterns tried before the comparison's own all fail on `c op x`: an operator stands
where they want a keyword, and where the array pattern wants `any` after `=`, a blank and an
operand without parenthesis, or a quote, stand. -/
lemma comparison_forms_eq_none (hw : WordClass word) (hf : P.Follow word) (hc : IsName word c.toList)
    (o : CompareOp) (hx : IsOperand x.toList) :
    nullOrForm P (c ++ " " ++ o.symbol ++ " " ++ x) = none ∧ isNullForm P (c ++ " " ++ o.symbol ++ " " ++ x) = none ∧
      listForm P.anyArray (c ++ " " ++ o.symbol ++ " " ++ x) = none ∧
      listForm P.inList (c ++ " " ++ o.symbol ++ " " ++ x) = none ∧
      betweenForm P (c ++ " " ++ o.symbol ++ " " ++ x) = none := by
  have ht := toList_comparison c x o
  have hz := symbol_head o (' ' :: x.toList)
  have hany : (anyArrayTerm word).ends (c.toList ++ ' ' :: (o.symbol.toList ++ ' ' :: x.toList)) 0
      Groups.empty = [] := by
    cases o with
    | eq => exact anyArray_ends_equality hw hc hx
    | _ => exact anyArray_ends_of_head_ne hw hc (symbol_head _ _) (by simp [CompareOp.symbol])
  refine ⟨nullOrForm_eq_none hw hf hc ht hz ?_, isNullForm_eq_none hw hf hc ht hz ?_, anyArrayForm_eq_none hf ht hany,
    inListForm_eq_none hw hf hc ht hz ?_, betweenForm_eq_none hw hf hc ht hz ?_⟩ <;>
  cases o <;> rfl

/-- A comparison `c op x` of a column named by word characters, its operand a quoted text or a
run of characters without blanks, quotes or parentheses, is parsed as that comparison. -/
theorem parseWith_comparison (hw : WordClass word) (hf : P.Follow word) (hc : IsName word c.toList)
    (o : CompareOp) (hx : IsOperand x.toList) :
    parseWith P (c ++ " " ++ o.symbol ++ " " ++ x) = .ok (.compare (Text.toLower c) o (operand x)) := by
  have hs := toList_comparison c x o
  have hlast : ∀ ch ∈ (c ++ " " ++ o.symbol ++ " " ++ x).toList.getLast?, Text.isBlank ch = false := by
    rw [hs, show c.toList ++ ' ' :: (o.symbol.toList ++ ' ' :: x.toList) =
      (c.toList ++ ' ' :: (o.symbol.toList ++ [' '])) ++ x.toList by simp]
    exact hx.getLast_not_blank _
  obtain ⟨h₁, h₂, h₃, h₄, h₅⟩ := comparison_forms_eq_none hw hf hc o hx
  refine parseWith_of_read hw hs hc hlast ?_
  rw [read, unwrap_of_name hw hs hc hlast, conjuncts_eq_none hf (hs ▸ unjoined_comparison hw hc o hx)]
  simp only [h₁, h₂, h₃, h₄, h₅, comparisonForm_eq hw hf hc o hx, ofSymbol?_symbol, hx.trim, Option.bind_eq_bind,
    Option.bind_some, Option.pure_def]

end Comparison

/-! ### Operands -/

section Operands

/-- A text in quotes is read as the text. -/
lemma operand_quoted (q : String) : operand ("'" ++ q ++ "'") = .text q := by
  have hcs : ("'" ++ q ++ "'").toList = '\'' :: (q.toList ++ ['\'']) := by simp
  have hlast : ('\'' :: (q.toList ++ ['\''])).getLast? = some '\'' := by
    rw [← List.cons_append, List.getLast?_concat]
  simp [operand, hcs, hlast]

/-- A text that does not start with a quote and reads as a number is read as the number. -/
lemma operand_of_readFloat {s : String} (hs : ∀ ch ∈ s.toList.head?, ch ≠ '\'') {y : Float}
    (hy : Decimal.readFloat? s = some y) : operand s = .number y := by
  have hq : (s.toList.head? == some '\'') = false := by
    cases h : s.toList.head? with
    | none => rfl
    | some ch => simpa using hs ch (by rw [h]; rfl)
  simp [operand, hq, hy]

/-- A text that does not start with a quote, reads as no number and spells neither `true` nor
`false` is read as the name of a column. -/
lemma operand_of_name {d : String} (hd : ∀ ch ∈ d.toList.head?, ch ≠ '\'')
    (hnum : Decimal.readFloat? d = none) (htrue : Text.equalsIgnoringAsciiCase d "true" = false)
    (hfalse : Text.equalsIgnoringAsciiCase d "false" = false) : operand d = .column (Text.toLower d) := by
  have hq : (d.toList.head? == some '\'') = false := by
    cases h : d.toList.head? with
    | none => rfl
    | some ch => simpa using hd ch (by rw [h]; rfl)
  simp [operand, hq, hnum, htrue, hfalse]

end Operands

/-! ### Lists -/

section Lists

variable {P : Patterns} {word : Char → Bool} {c : String} {ls : List Literal}

lemma toList_inList (c : String) (ls : List Literal) :
    (c ++ " IN (" ++ listText ls ++ ")").toList =
      c.toList ++ ' ' :: 'I' :: 'N' :: ' ' :: '(' :: ((listText ls).toList ++ [')']) := by
  simp

lemma toList_anyArray (c : String) (ls : List Literal) :
    (c ++ " = ANY(ARRAY[" ++ listText ls ++ "])").toList =
      c.toList ++ ' ' :: '=' :: ' ' :: 'A' :: 'N' :: 'Y' :: '(' :: 'A' :: 'R' :: 'R' :: 'A' :: 'Y' :: '[' ::
        ((listText ls).toList ++ [']', ')']) := by
  simp

/-- A word without blanks or quotes before a text adds no `AND` to it. -/
lemma unjoined_word_append {v w : List Char} {b : Bool} (u : List Char)
    (hu : ∀ ch ∈ u, Text.isBlank ch = false ∧ ch ≠ '\'') (hw : Unjoined v b w) : Unjoined v b (u ++ w) :=
  unjoined_append (unjoined_of_nonblank fun ch hch => (hu ch hch).1)
    (by rwa [foldl_insideAfter_of_ne fun ch hch => (hu ch hch).2])

/-- A list between brackets, with what follows the brackets, adds no `AND`. -/
lemma unjoined_bracketed {close : Char} (hne : ls ≠ []) (hfits : ∀ l ∈ ls, l.Fits close) (tail : List Char)
    (htail : ∀ ch ∈ tail, Text.isBlank ch = false) : Unjoined [] false ((listText ls).toList ++ tail) := by
  obtain ⟨hbody, hfold⟩ := unjoined_listText hne hfits (tail ++ [])
  refine unjoined_append hbody ?_
  rw [hfold]
  exact unjoined_of_nonblank htail

/-- No `AND` of a conjunction counts in `c IN (…)`. -/
lemma unjoined_inList (hw : WordClass word) (hc : IsName word c.toList) (hne : ls ≠ [])
    (hfits : ∀ l ∈ ls, l.Fits ')') :
    Unjoined [] false (c.toList ++ ' ' :: 'I' :: 'N' :: ' ' :: '(' :: ((listText ls).toList ++ [')'])) := by
  have hcq : ∀ ch ∈ c.toList, ch ≠ '\'' := fun ch hch => hw.ne_of_word (hc.word ch hch) (by decide) (by decide)
  refine unjoined_append (unjoined_of_nonblank fun ch hch => hw.isBlank_eq_false (hc.word ch hch)) ?_
  rw [foldl_insideAfter_of_ne hcq]
  refine unjoined_blank rfl (by simp; decide) (unjoined_word_append ['I', 'N'] (forall_mem_of_all (by decide)) ?_)
  exact unjoined_blank rfl (by simp; decide)
    (unjoined_word_append ['('] (forall_mem_of_all (by decide)) (unjoined_bracketed hne hfits _ (forall_mem_of_all (by decide))))

/-- No `AND` of a conjunction counts in `c = ANY(ARRAY[…])`: the blank before `ANY` is followed
by no `and`. -/
lemma unjoined_anyArray (hw : WordClass word) (hc : IsName word c.toList) (hne : ls ≠ [])
    (hfits : ∀ l ∈ ls, l.Fits ']') :
    Unjoined [] false (c.toList ++ ' ' :: '=' :: ' ' :: 'A' :: 'N' :: 'Y' :: '(' :: 'A' :: 'R' :: 'R' :: 'A' ::
      'Y' :: '[' :: ((listText ls).toList ++ [']', ')'])) := by
  have hcq : ∀ ch ∈ c.toList, ch ≠ '\'' := fun ch hch => hw.ne_of_word (hc.word ch hch) (by decide) (by decide)
  refine unjoined_append (unjoined_of_nonblank fun ch hch => hw.isBlank_eq_false (hc.word ch hch)) ?_
  rw [foldl_insideAfter_of_ne hcq]
  refine unjoined_blank rfl (by simp; decide) (unjoined_word_append ['='] (forall_mem_of_all (by decide)) ⟨fun _ => ?_, ?_⟩)
  · exact not_andAhead_blank_of_fits rfl (by simp; decide) rfl
  · exact unjoined_word_append ['A', 'N', 'Y', '(', 'A', 'R', 'R', 'A', 'Y', '['] (forall_mem_of_all (by decide))
      (unjoined_bracketed hne hfits _ (forall_mem_of_all (by decide)))

/-- The list pattern reads `c IN (…)` back into its name and its literals. -/
lemma inListForm_eq (hw : WordClass word) (hf : P.Follow word) (hc : IsName word c.toList) (hne : ls ≠ [])
    (hfits : ∀ l ∈ ls, l.Fits ')') :
    listForm P.inList (c ++ " IN (" ++ listText ls ++ ")") = some (Text.toLower c, ls.map Literal.value) := by
  have h := inList_ends hw hc (isInside_listText (.inl rfl) hne hfits)
  have d₀ : (c.toList ++ ' ' :: 'I' :: 'N' :: ' ' :: '(' :: ((listText ls).toList ++ [')'])).drop 0 =
      c.toList ++ ' ' :: 'I' :: 'N' :: ' ' :: '(' :: ((listText ls).toList ++ [')']) := List.drop_zero
  have d₅ : (c.toList ++ ' ' :: 'I' :: 'N' :: ' ' :: '(' :: ((listText ls).toList ++ [')'])).drop
      (c.toList.length + 5) = (listText ls).toList ++ [')'] :=
    drop_add_of_drop_eq_append (u := [' ', 'I', 'N', ' ', '(']) List.drop_left
  rw [listForm, hf.inList, inListTerm, seqs_cons, captures_eq_of (b := seqs _) (toList_inList c ls) h]
  simp only [Option.bind_eq_bind, Option.bind_some, Option.pure_def, listGroups,
    Groups.put_of_ne _ _ (show (1 : Nat) ≠ 0 by decide), Groups.put_of_ne _ _ (show (2 : Nat) ≠ 0 by decide),
    Groups.put_of_ne _ _ (show (1 : Nat) ≠ 2 by decide), Groups.put_self, Option.map_some,
    group_text d₀ (Nat.zero_add _).symm, group_text d₅ rfl, String.ofList_toList, splitList_listText hne hfits]

/-- The array pattern reads `c = ANY(ARRAY[…])` back into its name and its literals. -/
lemma anyArrayForm_eq (hw : WordClass word) (hf : P.Follow word) (hc : IsName word c.toList) (hne : ls ≠ [])
    (hfits : ∀ l ∈ ls, l.Fits ']') :
    listForm P.anyArray (c ++ " = ANY(ARRAY[" ++ listText ls ++ "])") =
      some (Text.toLower c, ls.map Literal.value) := by
  have h := anyArray_ends hw hc (isInside_listText (.inr rfl) hne hfits)
  have d₀ : (c.toList ++ ' ' :: '=' :: ' ' :: 'A' :: 'N' :: 'Y' :: '(' :: 'A' :: 'R' :: 'R' :: 'A' :: 'Y' :: '[' ::
      ((listText ls).toList ++ [']', ')'])).drop 0 =
      c.toList ++ ' ' :: '=' :: ' ' :: 'A' :: 'N' :: 'Y' :: '(' :: 'A' :: 'R' :: 'R' :: 'A' :: 'Y' :: '[' ::
        ((listText ls).toList ++ [']', ')']) := List.drop_zero
  have d₁₃ : (c.toList ++ ' ' :: '=' :: ' ' :: 'A' :: 'N' :: 'Y' :: '(' :: 'A' :: 'R' :: 'R' :: 'A' :: 'Y' :: '[' ::
      ((listText ls).toList ++ [']', ')'])).drop (c.toList.length + 13) = (listText ls).toList ++ [']', ')'] :=
    drop_add_of_drop_eq_append (u := [' ', '=', ' ', 'A', 'N', 'Y', '(', 'A', 'R', 'R', 'A', 'Y', '['])
      List.drop_left
  rw [listForm, hf.anyArray, anyArrayTerm, seqs_cons, captures_eq_of (b := seqs _) (toList_anyArray c ls) h]
  simp only [Option.bind_eq_bind, Option.bind_some, Option.pure_def, listGroups,
    Groups.put_of_ne _ _ (show (1 : Nat) ≠ 0 by decide), Groups.put_of_ne _ _ (show (2 : Nat) ≠ 0 by decide),
    Groups.put_of_ne _ _ (show (1 : Nat) ≠ 2 by decide), Groups.put_self, Option.map_some,
    group_text d₀ (Nat.zero_add _).symm, group_text d₁₃ rfl, String.ofList_toList, splitList_listText hne hfits]

/-- `c IN (l₁, …, lₙ)`, its literals quoted texts without quotes or `)` and numbers, is parsed
as membership of column `c` in the values of the literals. -/
theorem parseWith_inList (hw : WordClass word) (hf : P.Follow word) (hc : IsName word c.toList) (hne : ls ≠ [])
    (hfits : ∀ l ∈ ls, l.Fits ')') :
    parseWith P (c ++ " IN (" ++ listText ls ++ ")") = .ok (.among (Text.toLower c) (ls.map Literal.value)) := by
  have hs := toList_inList c ls
  have hlast := getLast_append_not_blank (c ++ " IN (" ++ listText ls) ")" (by decide) (forall_mem_of_option_all (by decide))
  have hz : ∀ ch ∈ ('I' :: 'N' :: ' ' :: '(' :: ((listText ls).toList ++ [')'])).head?, Text.isBlank ch = false := by
    simp
    rfl
  refine parseWith_of_read hw hs hc hlast ?_
  rw [read, unwrap_of_name hw hs hc hlast, conjuncts_eq_none hf (hs ▸ unjoined_inList hw hc hne hfits)]
  simp only [nullOrForm_eq_none hw hf hc hs hz rfl, isNullForm_eq_none hw hf hc hs hz rfl,
    anyArrayForm_eq_none hf hs (anyArray_ends_of_head_ne hw hc hz (by simp)), inListForm_eq hw hf hc hne hfits]

/-- `c = ANY(ARRAY[l₁, …, lₙ])`, its literals quoted texts without quotes or `]` and numbers, is
parsed as membership of column `c` in the values of the literals. -/
theorem parseWith_anyArray (hw : WordClass word) (hf : P.Follow word) (hc : IsName word c.toList) (hne : ls ≠ [])
    (hfits : ∀ l ∈ ls, l.Fits ']') :
    parseWith P (c ++ " = ANY(ARRAY[" ++ listText ls ++ "])") =
      .ok (.among (Text.toLower c) (ls.map Literal.value)) := by
  have hs := toList_anyArray c ls
  have hlast := getLast_append_not_blank (c ++ " = ANY(ARRAY[" ++ listText ls) "])" (by decide) (forall_mem_of_option_all (by decide))
  have hz : ∀ ch ∈ ('=' :: ' ' :: 'A' :: 'N' :: 'Y' :: '(' :: 'A' :: 'R' :: 'R' :: 'A' :: 'Y' :: '[' ::
      ((listText ls).toList ++ [']', ')'])).head?, Text.isBlank ch = false := by
    simp
    rfl
  refine parseWith_of_read hw hs hc hlast ?_
  rw [read, unwrap_of_name hw hs hc hlast, conjuncts_eq_none hf (hs ▸ unjoined_anyArray hw hc hne hfits)]
  simp only [nullOrForm_eq_none hw hf hc hs hz rfl, isNullForm_eq_none hw hf hc hs hz rfl,
    anyArrayForm_eq hw hf hc hne hfits]

end Lists

/-! ### Ranges -/

section Range

variable {P : Patterns} {word : Char → Bool} {c lo hi : String}

lemma toList_between (c lo hi : String) :
    (c ++ " BETWEEN " ++ lo ++ " AND " ++ hi).toList =
      c.toList ++ ' ' :: 'B' :: 'E' :: 'T' :: 'W' :: 'E' :: 'E' :: 'N' :: ' ' ::
        (lo.toList ++ ' ' :: 'A' :: 'N' :: 'D' :: ' ' :: hi.toList) := by
  simp

/-- A number written without quotes is its own literal. -/
lemma literal_of_isDecimal {s : String} (hs : IsDecimal s) : literal s = s := by
  have h := Literal.Fits.literal_text (show (Literal.number s).Fits ')' from hs)
    (show ∀ ch ∈ "".toList, Text.isBlank ch = true by simp)
  simpa [Literal.text, Literal.value] using h

/-- The range pattern reads `c BETWEEN lo AND hi` back into its name and its bounds. -/
lemma betweenForm_eq (hw : WordClass word) (hf : P.Follow word) (hc : IsName word c.toList) (hlo : IsDecimal lo)
    (hhi : IsDecimal hi) :
    betweenForm P (c ++ " BETWEEN " ++ lo ++ " AND " ++ hi) = some (Text.toLower c, lo, hi) := by
  have h := between_ends hw hc hlo.isToken hhi.isToken
  have d₀ : (c.toList ++ ' ' :: 'B' :: 'E' :: 'T' :: 'W' :: 'E' :: 'E' :: 'N' :: ' ' ::
      (lo.toList ++ ' ' :: 'A' :: 'N' :: 'D' :: ' ' :: hi.toList)).drop 0 =
      c.toList ++ ' ' :: 'B' :: 'E' :: 'T' :: 'W' :: 'E' :: 'E' :: 'N' :: ' ' ::
        (lo.toList ++ ' ' :: 'A' :: 'N' :: 'D' :: ' ' :: hi.toList) := List.drop_zero
  have d₉ : (c.toList ++ ' ' :: 'B' :: 'E' :: 'T' :: 'W' :: 'E' :: 'E' :: 'N' :: ' ' ::
      (lo.toList ++ ' ' :: 'A' :: 'N' :: 'D' :: ' ' :: hi.toList)).drop (c.toList.length + 9) =
      lo.toList ++ ' ' :: 'A' :: 'N' :: 'D' :: ' ' :: hi.toList :=
    drop_add_of_drop_eq_append (u := [' ', 'B', 'E', 'T', 'W', 'E', 'E', 'N', ' ']) List.drop_left
  have d₁₄ : (c.toList ++ ' ' :: 'B' :: 'E' :: 'T' :: 'W' :: 'E' :: 'E' :: 'N' :: ' ' ::
      (lo.toList ++ ' ' :: 'A' :: 'N' :: 'D' :: ' ' :: hi.toList)).drop (c.toList.length + 9 + lo.toList.length + 5) =
      hi.toList ++ [] := by
    rw [List.append_nil]
    exact drop_add_of_drop_eq_append (u := [' ', 'A', 'N', 'D', ' '])
      (drop_add_of_drop_eq_append d₉)
  rw [betweenForm, hf.between, betweenTerm, seqs_cons, captures_eq_of (b := seqs _) (toList_between c lo hi) h]
  simp only [Option.bind_eq_bind, Option.bind_some, Option.pure_def, betweenGroups,
    Groups.put_of_ne _ _ (show (1 : Nat) ≠ 0 by decide), Groups.put_of_ne _ _ (show (2 : Nat) ≠ 0 by decide),
    Groups.put_of_ne _ _ (show (3 : Nat) ≠ 0 by decide), Groups.put_of_ne _ _ (show (1 : Nat) ≠ 3 by decide),
    Groups.put_of_ne _ _ (show (2 : Nat) ≠ 3 by decide), Groups.put_of_ne _ _ (show (1 : Nat) ≠ 2 by decide),
    Groups.put_self, Option.map_some, group_text d₀ (Nat.zero_add _).symm, group_text d₉ rfl,
    group_text d₁₄ rfl, String.ofList_toList, literal_of_isDecimal hlo, literal_of_isDecimal hhi]

/-- `c BETWEEN lo AND hi`, its bounds numbers written without quotes, is parsed as the range of
column `c` between the doubles the bounds read as. -/
theorem parseWith_between (hw : WordClass word) (hf : P.Follow word) (hc : IsName word c.toList)
    (hlo : IsDecimal lo) (hhi : IsDecimal hi) {a b : Float} (ha : Decimal.readFloat? lo = some a)
    (hb : Decimal.readFloat? hi = some b) :
    parseWith P (c ++ " BETWEEN " ++ lo ++ " AND " ++ hi) = .ok (.between (Text.toLower c) a b) := by
  have hs := toList_between c lo hi
  have hlast := getLast_append_not_blank (c ++ " BETWEEN " ++ lo ++ " AND ") hi hhi.ne_nil
    (by simpa using hhi.isToken.getLast_append_not_blank [])
  have hz : ∀ ch ∈ ('B' :: 'E' :: 'T' :: 'W' :: 'E' :: 'E' :: 'N' :: ' ' ::
      (lo.toList ++ ' ' :: 'A' :: 'N' :: 'D' :: ' ' :: hi.toList)).head?, Text.isBlank ch = false := by
    simp
    rfl
  have hconj := conjuncts_range hw hf hc hlo.isToken hlo.head_not_and hhi.isToken
  rw [← hs, String.ofList_toList] at hconj
  refine parseWith_of_read hw hs hc hlast ?_
  rw [read, unwrap_of_name hw hs hc hlast, hconj]
  simp only [nullOrForm_eq_none hw hf hc hs hz rfl, isNullForm_eq_none hw hf hc hs hz rfl,
    anyArrayForm_eq_none hf hs (anyArray_ends_of_head_ne hw hc hz (by simp)), inListForm_eq_none hw hf hc hs hz rfl,
    betweenForm_eq hw hf hc hlo hhi, ha, hb, Option.bind_eq_bind, Option.bind_some, Option.pure_def]

end Range

end DataQuality.Predicate
