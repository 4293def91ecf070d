import DataQuality.Proofs.Predicate.Conjunctions

/-!
# Literals of lists

The literals of `c IN (…)` and `c = ANY(ARRAY[…])`: texts in single quotes, and numbers written
without quotes.  A list of them written with `, ` between them is read back literal by literal
(`splitList_listText`): the split keeps a quoted text whole, commas included, and each literal
loses its quotes and the blank before it.  The same text, as the text between the brackets of a
list, is one that the patterns read whole (`isInside_listText`) and in which no `AND` of a
conjunction counts (`unjoined_listText`).
-/

namespace DataQuality.Predicate

open Pattern Term

/-! ### Numbers written without quotes -/

section Decimal

/-- A character of a number written without quotes: a digit, a sign, a point or an exponent
letter. -/
def isDecimalChar (ch : Char) : Bool :=
  ch.isDigit || ch == '+' || ch == '-' || ch == '.' || ch == 'e' || ch == 'E'

/-- A number written without quotes: characters of numbers only, reading as a double. -/
structure IsDecimal (s : String) : Prop where
  chars : ∀ ch ∈ s.toList, isDecimalChar ch = true
  reads : (Decimal.readFloat? s).isSome

/-- A character of a number is no other character. -/
lemma ne_of_isDecimalChar {ch x : Char} (h : isDecimalChar ch = true) (hx : isDecimalChar x = false) : ch ≠ x := by
  rintro rfl
  rw [h] at hx
  exact Bool.noConfusion hx

/-- No character of a number is blank. -/
lemma isBlank_of_isDecimalChar {ch : Char} (h : isDecimalChar ch = true) : Text.isBlank ch = false := by
  have hn : ch.toNat = ch.val.toNat := rfl
  simp only [isDecimalChar, Char.isDigit, Bool.or_eq_true, Bool.and_eq_true, decide_eq_true_eq, beq_iff_eq,
    ge_iff_le, UInt32.le_iff_toNat_le, ← hn] at h
  simp only [Text.isBlank, Bool.or_eq_false_iff, Bool.and_eq_false_iff, decide_eq_false_iff_not, beq_eq_false_iff_ne]
  -- the digits and the five other characters, as numbers
  simp only [show '0'.val.toNat = 48 from rfl, show '9'.val.toNat = 57 from rfl] at h
  rcases h with ((((h | rfl) | rfl) | rfl) | rfl) | rfl
  · refine ⟨⟨⟨⟨⟨⟨⟨⟨⟨⟨?_, ?_⟩, ?_⟩, ?_⟩, ?_⟩, ?_⟩, ?_⟩, ?_⟩, ?_⟩, ?_⟩, ?_⟩ <;> omega
  all_goals decide

lemma IsDecimal.ne_nil {s : String} (hs : IsDecimal s) : s.toList ≠ [] := by
  intro h
  have hempty : s = "" := String.toList_inj.mp (by rw [h]; rfl)
  have hreads := hs.reads
  rw [hempty] at hreads
  exact Bool.noConfusion hreads

/-- A number is a word the patterns read whole: not blank, no quote, no parenthesis. -/
lemma IsDecimal.isToken {s : String} (hs : IsDecimal s) : IsToken s.toList :=
  ⟨hs.ne_nil, fun ch hch => isBlank_of_isDecimalChar (hs.chars ch hch),
    fun ch hch => ne_of_isDecimalChar (hs.chars ch hch) (by decide)⟩

lemma IsDecimal.isOperand {s : String} (hs : IsDecimal s) : IsOperand s.toList :=
  .token hs.isToken fun ch hch => ne_of_isDecimalChar (hs.chars ch hch) (by decide)

/-- A number does not start with a letter that can stand for the `a` of `AND`. -/
lemma IsDecimal.head_not_and {s : String} (hs : IsDecimal s) : ∀ ch ∈ s.toList.head?, caseless 'a' ch = false := by
  intro ch hch
  have hd := hs.chars ch (List.mem_of_mem_head? hch)
  have h₁ := ne_of_isDecimalChar hd (x := 'a') (by decide)
  have h₂ := ne_of_isDecimalChar hd (x := 'A') (by decide)
  simp [caseless, h₁, h₂]

end Decimal

/-! ### Literals and lists of them -/

/-- A literal of a list as written: a text in single quotes, or a number without quotes. -/
inductive Literal where
  | quoted (q : String)
  | number (s : String)

namespace Literal

/-- The literal as written in a list. -/
def text : Literal → String
  | quoted q => "'" ++ q ++ "'"
  | number s => s

/-- What reading the list keeps of the literal: the text inside the quotes, or the number as
written. -/
def value : Literal → String
  | quoted q => q
  | number s => s

/-- A text with no two colons in a row, which would read as a cast. -/
def NoCast (s : List Char) : Prop :=
  ∀ u v, s ≠ u ++ ':' :: ':' :: v

/-- A literal that a list closed by `close` reads back: a quoted text with no quote, no `close`
and no cast `::` inside, or a number. -/
def Fits (close : Char) : Literal → Prop
  | quoted q => (∀ ch ∈ q.toList, ch ≠ '\'' ∧ ch ≠ close) ∧ NoCast q.toList
  | number s => IsDecimal s

lemma toList_text_quoted (q : String) : (quoted q).text.toList = '\'' :: (q.toList ++ ['\'']) := by
  simp [text]

end Literal

/-- A list of literals as written, with `, ` between them. -/
def listText (ls : List Literal) : String :=
  ", ".intercalate (ls.map Literal.text)

namespace Literal

variable {close : Char} {l : Literal}

/-- A literal starts with a character that is no blank and cannot stand for the `a` of `AND`. -/
lemma Fits.head (hl : l.Fits close) : ∀ ch ∈ l.text.toList.head?, Text.isBlank ch = false ∧ caseless 'a' ch = false := by
  cases l with
  | quoted q =>
    rw [toList_text_quoted, List.head?_cons]
    intro ch hch
    obtain rfl := Option.mem_some_iff.mp hch
    exact ⟨rfl, rfl⟩
  | number s => exact fun ch hch => ⟨hl.isToken.head_not_blank ch hch, hl.head_not_and ch hch⟩

lemma Fits.text_ne_nil (hl : l.Fits close) : l.text.toList ≠ [] := by
  cases l with
  | quoted q => simp [toList_text_quoted]
  | number s => exact hl.ne_nil

/-- A literal is an operand that a comparison reads whole. -/
lemma Fits.isOperand (hl : l.Fits close) : IsOperand l.text.toList := by
  cases l with
  | quoted q =>
    rw [toList_text_quoted]
    exact .quoted fun ch hch => (hl.1 ch hch).1
  | number s => exact hl.isOperand

/-- No `AND` of a conjunction counts in a literal, and a quoted one closes its quote. -/
lemma Fits.unjoined (hl : l.Fits close) (v : List Char) :
    Unjoined v false l.text.toList ∧ l.text.toList.foldl insideAfter false = false := by
  cases l with
  | quoted q =>
    rw [toList_text_quoted]
    exact unjoined_quoted fun ch hch => (hl.1 ch hch).1
  | number s =>
    exact ⟨unjoined_of_nonblank hl.isToken.not_blank, foldl_insideAfter_of_ne hl.isToken.not_quote⟩

end Literal

lemma toList_listText_single (l : Literal) : (listText [l]).toList = l.text.toList := by
  simp [listText]

lemma toList_listText_cons_cons (l r : Literal) (rest : List Literal) :
    (listText (l :: r :: rest)).toList = l.text.toList ++ ',' :: ' ' :: (listText (r :: rest)).toList := by
  simp [listText, String.toList_intercalate]

/-! ### The text between the brackets -/

section Inside

variable {close : Char}

/-- A list of literals is the text between the brackets of a list that `[^close]+` reads whole. -/
lemma isInside_listText (hclose : close = ')' ∨ close = ']') {ls : List Literal} (hne : ls ≠ [])
    (hfits : ∀ l ∈ ls, l.Fits close) : IsInside close (listText ls).toList := by
  have hsep : ',' ≠ close ∧ ' ' ≠ close ∧ '\'' ≠ close ∧ isDecimalChar close = false := by
    rcases hclose with rfl | rfl <;> decide
  have htext : ∀ l : Literal, l.Fits close → ∀ ch ∈ l.text.toList, ch ≠ close := by
    intro l hl ch hch
    cases l with
    | quoted q =>
      rw [Literal.toList_text_quoted, List.mem_cons, List.mem_append, List.mem_singleton] at hch
      rcases hch with rfl | hch | rfl
      · exact hsep.2.2.1
      · exact (hl.1 ch hch).2
      · exact hsep.2.2.1
    | number s => exact ne_of_isDecimalChar (hl.chars ch hch) hsep.2.2.2
  induction ls with
  | nil => exact absurd rfl hne
  | cons l rest ih =>
    cases rest with
    | nil =>
      rw [toList_listText_single]
      exact ⟨(hfits l List.mem_cons_self).text_ne_nil, htext l (hfits l List.mem_cons_self)⟩
    | cons r rest =>
      have hrest := ih (List.cons_ne_nil r rest) fun x hx => hfits x (List.mem_cons_of_mem l hx)
      rw [toList_listText_cons_cons]
      refine ⟨by simp, fun ch hch => ?_⟩
      rw [List.mem_append, List.mem_cons, List.mem_cons] at hch
      rcases hch with hch | rfl | rfl | hch
      · exact htext l (hfits l List.mem_cons_self) ch hch
      · exact hsep.1
      · exact hsep.2.1
      · exact hrest.not_close ch hch

/-- In a list of literals no `AND` of a conjunction counts, and every quote is closed. -/
lemma unjoined_listText {ls : List Literal} (hne : ls ≠ []) (hfits : ∀ l ∈ ls, l.Fits close) (v : List Char) :
    Unjoined v false (listText ls).toList ∧ (listText ls).toList.foldl insideAfter false = false := by
  induction ls with
  | nil => exact absurd rfl hne
  | cons l rest ih =>
    have hl := hfits l List.mem_cons_self
    cases rest with
    | nil =>
      rw [toList_listText_single]
      exact hl.unjoined v
    | cons r rest =>
      have hrest := ih (List.cons_ne_nil r rest) fun x hx => hfits x (List.mem_cons_of_mem l hx)
      have hr := hfits r (List.mem_cons_of_mem l List.mem_cons_self)
      rw [toList_listText_cons_cons]
      obtain ⟨hlu, hls⟩ := hl.unjoined (',' :: ' ' :: ((listText (r :: rest)).toList ++ v))
      -- the literal, the comma, and the blank before the next literal
      have hnext : ∀ ch ∈ ((listText (r :: rest)).toList ++ v).head?,
          Text.isBlank ch = false ∧ caseless 'a' ch = false := by
        have hhead : ((listText (r :: rest)).toList ++ v).head? = r.text.toList.head? := by
          cases rest with
          | nil => rw [toList_listText_single, List.head?_append, List.head?_eq_some_head hr.text_ne_nil, Option.some_or]
          | cons _ _ =>
            rw [toList_listText_cons_cons, List.append_assoc, List.head?_append,
              List.head?_eq_some_head hr.text_ne_nil, Option.some_or]
        rw [hhead]
        exact hr.head
      refine ⟨unjoined_append hlu ?_, ?_⟩
      · rw [hls]
        exact ⟨fun _ => not_andAhead_of_head (by simp; rfl), unjoined_blank rfl hnext hrest.1⟩
      · rw [List.foldl_append, hls]
        exact hrest.2

end Inside

/-! ### Reading a list back -/

section Split

variable {close : Char}

/-- Characters that are no quote, and no comma outside quotes, go to the current literal. -/
lemma foldl_splitStep_plain {values : Array String} {current : String} {quoted : Bool} {u : List Char}
    (hu : ∀ ch ∈ u, ch ≠ '\'' ∧ (quoted = false → ch ≠ ',')) :
    u.foldl splitStep (values, current, quoted) = (values, current ++ String.ofList u, quoted) := by
  induction u generalizing current with
  | nil => simp
  | cons ch u ih =>
    obtain ⟨hq, hc⟩ := hu ch List.mem_cons_self
    have hstep : splitStep (values, current, quoted) ch = (values, current.push ch, quoted) := by
      cases quoted <;> simp [splitStep, hq, hc]
    rw [List.foldl_cons, hstep, ih fun x hx => hu x (List.mem_cons_of_mem ch hx)]
    congr 2
    exact String.toList_inj.mp (by simp)

/-- A literal read outside quotes goes whole to the current literal. -/
lemma foldl_splitStep_text {l : Literal} (hl : l.Fits close) (values : Array String) (current : String) :
    l.text.toList.foldl splitStep (values, current, false) = (values, current ++ l.text, false) := by
  cases l with
  | quoted q =>
    have hopen : splitStep (values, current, false) '\'' = (values, current.push '\'', true) := by
      simp [splitStep]
    rw [Literal.toList_text_quoted, List.foldl_cons, hopen, List.foldl_append,
      foldl_splitStep_plain fun ch hch => ⟨(hl.1 ch hch).1, fun h => Bool.noConfusion h⟩]
    simp only [List.foldl_cons, List.foldl_nil, splitStep]
    simp only [beq_self_eq_true, if_true, Bool.not_true]
    congr 2
    exact String.toList_inj.mp (by simp [Literal.text])
  | number s =>
    rw [Literal.text, foldl_splitStep_plain fun ch hch =>
      ⟨hl.isToken.not_quote ch hch, fun _ => ne_of_isDecimalChar (hl.chars ch hch) (by decide)⟩,
      String.ofList_toList]

/-- The literals of a list read back, the first after `lead`: a comma outside quotes ends a
literal, and the blank after it goes to the next. -/
lemma foldl_splitStep_list (l : Literal) (rest : List Literal) (hfits : ∀ x ∈ l :: rest, x.Fits close)
    (values : Array String) (lead : String) :
    (((listText (l :: rest)).toList.foldl splitStep (values, lead, false)).1.push
        (literal ((listText (l :: rest)).toList.foldl splitStep (values, lead, false)).2.1)).toList =
      values.toList ++ literal (lead ++ l.text) :: rest.map fun x => literal (" " ++ x.text) := by
  induction rest generalizing l values lead with
  | nil =>
    rw [toList_listText_single, foldl_splitStep_text (hfits l List.mem_cons_self)]
    simp
  | cons r rest ih =>
    have hcomma : [',', ' '].foldl splitStep (values, lead ++ l.text, false) =
        (values.push (literal (lead ++ l.text)), " ", false) := by
      simp [splitStep]
    rw [toList_listText_cons_cons, List.foldl_append, foldl_splitStep_text (hfits l List.mem_cons_self),
      show ',' :: ' ' :: (listText (r :: rest)).toList = [',', ' '] ++ (listText (r :: rest)).toList from rfl,
      List.foldl_append, hcomma, ih r fun x hx => hfits x (List.mem_cons_of_mem l hx)]
    simp

/-- Trimming drops blanks before a text that neither starts nor ends with a blank. -/
lemma trim_blanks_append {u w : List Char} (hu : ∀ ch ∈ u, Text.isBlank ch = true)
    (hhead : ∀ ch ∈ w.head?, Text.isBlank ch = false) (hlast : ∀ ch ∈ w.getLast?, Text.isBlank ch = false) :
    Text.trim (String.ofList (u ++ w)) = String.ofList w := by
  have hstart : (u ++ w).dropWhile Text.isBlank = w := by
    rw [List.dropWhile_append, if_pos (List.isEmpty_iff.mpr (List.dropWhile_eq_nil_iff.mpr hu)),
      dropWhile_of_head hhead]
  have hend := trim_ofList hhead hlast
  rw [Text.trim, Text.trimStart, String.toList_ofList, dropWhile_of_head hhead] at hend
  rw [Text.trim, Text.trimStart, String.toList_ofList, hstart, hend]

namespace Literal

lemma NoCast.cons {a : Char} {s : List Char} (ha : a ≠ ':') (h : NoCast s) : NoCast (a :: s) := by
  intro u v he
  cases u with
  | nil => exact ha (List.cons.inj he).1
  | cons x u => exact h u v (List.cons.inj he).2

lemma NoCast.concat {b : Char} {s : List Char} (hb : b ≠ ':') (h : NoCast s) : NoCast (s ++ [b]) := by
  intro u v he
  rcases List.eq_nil_or_concat v with rfl | ⟨v, z, rfl⟩
  · have := List.append_inj_right' (show s ++ [b] = (u ++ [':']) ++ [':'] by simpa using he) rfl
    exact hb (List.singleton_inj.mp this)
  · have := List.append_inj' (show s ++ [b] = (u ++ ':' :: ':' :: v) ++ [z] by simpa using he) rfl
    exact h u v this.1

/-- A text with no two colons in a row has no cast to drop. -/
lemma beforeCast_eq_none : ∀ {s : List Char}, NoCast s → beforeCast s = none
  | [], _ => rfl
  | [x], _ => by
    rw [beforeCast.eq_2 x [] fun tail _ h => (List.cons_ne_nil ':' tail).symm h, beforeCast.eq_3, Option.map_none]
  | x :: y :: rest, h => by
    have ih : beforeCast (y :: rest) = none := beforeCast_eq_none fun u v he => h (x :: u) v (by rw [he]; rfl)
    -- the first two characters are not both colons, so the cast is looked for after the first
    have hxy : ∀ tail, x = ':' → y :: rest = ':' :: tail → False := by
      rintro tail rfl he
      exact h [] rest (by rw [(List.cons.inj he).1]; rfl)
    rw [beforeCast.eq_2 x (y :: rest) hxy, ih, Option.map_none]

variable {close : Char} {l : Literal}

lemma Fits.noCast (hl : l.Fits close) : NoCast l.text.toList := by
  cases l with
  | quoted q =>
    rw [toList_text_quoted]
    exact (hl.2.concat (by decide)).cons (by decide)
  | number s =>
    intro u v he
    have hcolon : ':' ∈ s.toList := by
      rw [show s.toList = (number s).text.toList from rfl, he]
      simp
    exact ne_of_isDecimalChar (hl.chars ':' hcolon) (by decide) rfl

/-- A literal, after blanks, reads as its value: trimmed, no cast, and a quoted one unquoted. -/
lemma Fits.literal_text (hl : l.Fits close) {lead : String} (hlead : ∀ ch ∈ lead.toList, Text.isBlank ch = true) :
    literal (lead ++ l.text) = l.value := by
  have hlast : ∀ ch ∈ l.text.toList.getLast?, Text.isBlank ch = false := by
    cases l with
    | quoted q =>
      rw [toList_text_quoted, ← List.cons_append]
      intro ch hch
      rw [List.getLast?_concat, Option.mem_some_iff] at hch
      rw [← hch]
      rfl
    | number s => exact hl.isToken.getLast_append_not_blank []
  have htrim : Text.trim (lead ++ l.text) = l.text := by
    have h := trim_blanks_append hlead (fun ch hch => (hl.head ch hch).1) hlast
    rwa [String.ofList_toList, ← String.toList_append, String.ofList_toList] at h
  simp only [literal, htrim, beforeCast_eq_none hl.noCast]
  cases l with
  | quoted q =>
    have hlast : ('\'' :: (q.toList ++ ['\''])).getLast? = some '\'' := by
      rw [← List.cons_append, List.getLast?_concat]
    simp [unquote, toList_text_quoted, hlast, value]
  | number s =>
    have hhead : s.toList.head? ≠ some '\'' := by
      intro h
      exact hl.isToken.not_quote '\'' (List.mem_of_mem_head? (h ▸ rfl)) rfl
    simp [unquote, text, value, hhead]

end Literal

/-- A list of literals written with `, ` between them is read back as their values. -/
theorem splitList_listText {ls : List Literal} (hne : ls ≠ []) (hfits : ∀ l ∈ ls, l.Fits close) :
    splitList (listText ls) = ls.map Literal.value := by
  obtain ⟨l, rest, rfl⟩ := List.exists_cons_of_ne_nil hne
  have h := foldl_splitStep_list l rest hfits #[] ""
  simp only [splitList]
  rw [h, (hfits l List.mem_cons_self).literal_text
      (show ∀ ch ∈ ("" : String).toList, Text.isBlank ch = true by simp), Array.toList_empty, List.nil_append,
    List.map_cons, List.map_congr_left fun x hx => (hfits x (List.mem_cons_of_mem l hx)).literal_text
      (show ∀ ch ∈ (" " : String).toList, Text.isBlank ch = true by simp; rfl)]

end Split

end DataQuality.Predicate
