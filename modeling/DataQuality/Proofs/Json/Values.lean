import Mathlib
import DataQuality.Proofs.Json.Numbers

/-!
# Printed documents read back

`Cursor.value` reads back every document that `prettyAt` prints, provided the document is
`Readable`: its integers lie in the range of integer tokens, its doubles are finite (the others
print as `null`), and it nests no deeper than the reader allows.  The statement is made for every
cursor whose remaining text is the printed document between blanks before it and text after it
that a printed value may be followed by (`value_prettyAt`).

The proof follows the document.  A scalar is one token (`number_int`, `number_float`,
`string_ok` and the words).  The text of a container is its opening bracket, one line per item or
member, and the closing bracket on a line of its own; the items are read in turn, each by the
induction hypothesis, and the reader sees the line breaks and indentation as the blanks before
the next token.
-/

namespace DataQuality.Json

open Cursor

/-- Documents that read back as themselves from their printed text with at most `d` containers
around any part: integers in the range of integer tokens, finite doubles, and containers of such
documents. -/
inductive Readable : Nat → Json → Prop
  | null {d : Nat} : Readable d .null
  | bool {d : Nat} (b : Bool) : Readable d (.bool b)
  | int {d : Nat} {n : Int} (hlo : -2 ^ 63 ≤ n) (hhi : n < 2 ^ 64) : Readable d (.int n)
  | float {d : Nat} {x : Float} {negative : Bool} {m : Decimal.Dyadic}
      (hx : Decimal.decode x = .finite negative m) : Readable d (.float x)
  | str {d : Nat} (s : String) : Readable d (.str s)
  | arr {d : Nat} {vs : List Json} (h : ∀ v ∈ vs, Readable d v) : Readable (d + 1) (.arr vs)
  | obj {d : Nat} {ms : List (String × Json)} (h : ∀ m ∈ ms, Readable d m.2) :
      Readable (d + 1) (.obj ms)

/-- What may follow a printed value: the end of the text, a comma, or a line break. -/
def EndsValue (rest : List Char) : Prop := ∀ ch, rest.head? = some ch → ch = ',' ∨ ch = '\n'

lemma EndsValue.endsNumber {rest : List Char} (h : EndsValue rest) : EndsNumber rest := by
  intro ch hch
  rcases h ch hch with rfl | rfl <;> decide

lemma endsValue_comma (r : List Char) : EndsValue (',' :: r) := fun _ h => by
  cases h
  exact Or.inl rfl

lemma endsValue_newline (r : List Char) : EndsValue ('\n' :: r) := fun _ h => by
  cases h
  exact Or.inr rfl

/-! ## Printed text -/

section Text

lemma blanks_indent (level : Nat) : Blanks (indent level).toList := by
  intro ch h
  simp only [indent, String.toList_ofList, List.mem_replicate] at h
  rw [h.2]
  rfl

lemma blanks_newline_indent (level : Nat) : Blanks ('\n' :: (indent level).toList) := by
  intro ch h
  rcases List.mem_cons.mp h with rfl | h
  · rfl
  · exact blanks_indent level ch h

/-- The lines of the items after the first, each after the comma that ends the line before. -/
def moreItems (level : Nat) (vs : List Json) : List Char :=
  vs.flatMap fun v => ',' :: '\n' :: ((indent level).toList ++ (prettyAt level v).toList)

/-- The line of a member: its key, a colon and its value. -/
def memberLine (level : Nat) (m : String × Json) : List Char :=
  (indent level).toList ++ (quote m.1).toList ++ ':' :: ' ' :: (prettyAt level m.2).toList

/-- The lines of the members after the first, each after the comma that ends the line before. -/
def moreMembers (level : Nat) (ms : List (String × Json)) : List Char :=
  ms.flatMap fun m => ',' :: '\n' :: memberLine level m

lemma toList_intercalate_items (level : Nat) (v : Json) (vs : List Json) :
    (",\n".intercalate (prettyItems level (v :: vs))).toList =
      (indent level).toList ++ (prettyAt level v).toList ++ moreItems level vs := by
  induction vs generalizing v with
  | nil => simp [prettyItems, moreItems]
  | cons w vs ih =>
    rw [prettyItems, prettyItems, String.intercalate_cons_cons, ← prettyItems,
      String.toList_append, String.toList_append, ih]
    simp [moreItems]

lemma toList_intercalate_fields (level : Nat) (m : String × Json) (ms : List (String × Json)) :
    (",\n".intercalate (prettyFields level (m :: ms))).toList =
      memberLine level m ++ moreMembers level ms := by
  induction ms generalizing m with
  | nil => simp [prettyFields, moreMembers, memberLine]
  | cons w ms ih =>
    rw [prettyFields, prettyFields, String.intercalate_cons_cons, ← prettyFields,
      String.toList_append, String.toList_append, ih]
    simp [moreMembers, memberLine]

lemma toList_prettyAt_arr (level : Nat) (v : Json) (vs : List Json) :
    (prettyAt level (.arr (v :: vs))).toList =
      '[' :: '\n' :: ((indent (level + 1)).toList ++ (prettyAt (level + 1) v).toList ++
        moreItems (level + 1) vs ++ '\n' :: ((indent level).toList ++ [']'])) := by
  rw [prettyAt]
  · simp only [String.toList_append, toList_intercalate_items]
    simp
  -- the pattern of the empty array does not apply
  · simp

lemma toList_prettyAt_obj (level : Nat) (m : String × Json) (ms : List (String × Json)) :
    (prettyAt level (.obj (m :: ms))).toList =
      '{' :: '\n' :: (memberLine (level + 1) m ++ moreMembers (level + 1) ms ++
        '\n' :: ((indent level).toList ++ ['}'])) := by
  rw [prettyAt]
  · simp only [String.toList_append, toList_intercalate_fields]
    simp
  · simp

end Text

/-! ## Reading the first token -/

section Dispatch

variable {c : Cursor} {d f : Nat} {r : List Char}

lemma NumberToken.text_head {t : NumberToken} (ht : t.WellFormed) :
    ∃ ch r, t.text = ch :: r ∧ (ch = '-' ∨ ch.isDigit = true) := by
  obtain ⟨d₀, ds, hw⟩ := List.exists_cons_of_ne_nil ht.whole_ne
  cases hn : t.negative
  · exact ⟨d₀, _, by simp [NumberToken.text, hn, hw]; rfl,
      Or.inr (ht.whole_digits d₀ (by rw [hw]; exact List.mem_cons_self))⟩
  · exact ⟨'-', _, by simp [NumberToken.text, hn]; rfl, Or.inl rfl⟩

/-- A number token is read by `Cursor.number`, whatever character it starts with. -/
lemma value_of_number {ch : Char} (h : c.blanks.rest = ch :: r) (hch : ch = '-' ∨ ch.isDigit = true) :
    c.value d (f + 1) = c.blanks.number := by
  rw [Cursor.value]
  dsimp only
  rw [peek_of_rest h]
  -- a minus or a digit is none of the characters that start the other values
  split <;> rename_i heq
  · cases heq
  all_goals obtain rfl := Option.some.inj heq
  case h_8 => exact if_pos hch
  all_goals simp at hch

lemma value_of_bracket (h : c.blanks.rest = '[' :: r) :
    c.value (d + 1) (f + 1) = c.blanks.next.items d true [] f := by
  rw [Cursor.value]
  dsimp only
  rw [peek_of_rest h]
  rfl

lemma value_of_brace (h : c.blanks.rest = '{' :: r) :
    c.value (d + 1) (f + 1) = c.blanks.next.members d true [] f := by
  rw [Cursor.value]
  dsimp only
  rw [peek_of_rest h]
  rfl

variable {first : Bool}

lemma items_of_close {acc : List Json} (h : c.blanks.rest = ']' :: r) :
    c.items d first acc (f + 1) = .ok (.arr acc.reverse, c.blanks.next) := by
  rw [Cursor.items]
  dsimp only
  rw [peek_of_rest h]
  rfl

/-- The first item is read where it starts, whatever character that is but a closing bracket. -/
lemma items_first_of_value {acc : List Json} {ch : Char} (h : c.blanks.rest = ch :: r)
    (hch : ch ≠ ']') {v : Json} {e : Cursor} (hv : c.blanks.value d f = .ok (v, e)) :
    c.items d true acc (f + 1) = e.items d false (v :: acc) f := by
  rw [Cursor.items]
  dsimp only
  rw [peek_of_rest h]
  split
  · rename_i heq
    cases heq
  · rename_i heq
    exact absurd (Option.some.inj heq) hch
  · rw [if_pos rfl, hv]
    rfl

/-- A later item is read after its comma and the blanks that follow. -/
lemma items_next_of_value {acc : List Json} {ch : Char} {r' : List Char}
    (h : c.blanks.rest = ',' :: r) (h1 : c.blanks.next.blanks.rest = ch :: r') (hch : ch ≠ ']')
    {v : Json} {e : Cursor} (hv : c.blanks.next.blanks.value d f = .ok (v, e)) :
    c.items d false acc (f + 1) = e.items d false (v :: acc) f := by
  rw [Cursor.items]
  dsimp only
  rw [peek_of_rest h]
  -- the comma is no closing bracket, and the next item none either
  split
  · rename_i heq
    simp at heq
  · rename_i heq
    simp at heq
  · rename_i heq
    obtain rfl := Option.some.inj heq
    simp only [Bool.false_eq_true, if_false, if_true]
    rw [peek_of_rest h1]
    split
    · rename_i heq'
      exact absurd (Option.some.inj heq') hch
    · rename_i heq'
      cases heq'
    · rw [hv]
      rfl

lemma members_of_close {acc : List (String × Json)} (h : c.blanks.rest = '}' :: r) :
    c.members d first acc (f + 1) = .ok (.obj acc.reverse, c.blanks.next) := by
  rw [Cursor.members]
  dsimp only
  rw [peek_of_rest h]
  rfl

/-- A member is read from its key: the key, blanks, the colon, and the value. -/
lemma members_key_of_value {acc : List (String × Json)} {c₁ c₂ : Cursor} {k : String}
    {r' : List Char} (hk : c₁.string = .ok (k, c₂)) (hc : c₂.blanks.rest = ':' :: r') {v : Json}
    {e : Cursor} (hv : c₂.blanks.next.value d f = .ok (v, e)) :
    (do
      let (k, c2) ← c₁.string
      let c3 := c2.blanks
      match c3.peek with
      | some ':' => do
        let (v, c4) ← c3.next.value d f
        c4.members d false ((k, v) :: acc) f
      | some _ => .error (c3.failAhead "expected `:`")
      | none => .error (c3.failAhead "EOF while parsing an object")) =
      e.members d false ((k, v) :: acc) f := by
  rw [hk]
  dsimp only [bind, Except.bind]
  rw [peek_of_rest hc, hv]
  rfl

lemma members_first_of_value {acc : List (String × Json)} {c₂ : Cursor} {k : String}
    {r' : List Char} (h : c.blanks.rest = '"' :: r) (hk : c.blanks.string = .ok (k, c₂))
    (hc : c₂.blanks.rest = ':' :: r') {v : Json} {e : Cursor}
    (hv : c₂.blanks.next.value d f = .ok (v, e)) :
    c.members d true acc (f + 1) = e.members d false ((k, v) :: acc) f := by
  rw [Cursor.members]
  dsimp only
  rw [peek_of_rest h]
  exact members_key_of_value hk hc hv

lemma members_next_of_value {acc : List (String × Json)} {c₂ : Cursor} {k : String}
    {r₁ r' : List Char} (h : c.blanks.rest = ',' :: r) (h1 : c.blanks.next.blanks.rest = '"' :: r₁)
    (hk : c.blanks.next.blanks.string = .ok (k, c₂)) (hc : c₂.blanks.rest = ':' :: r') {v : Json}
    {e : Cursor} (hv : c₂.blanks.next.value d f = .ok (v, e)) :
    c.members d false acc (f + 1) = e.members d false ((k, v) :: acc) f := by
  rw [Cursor.members]
  dsimp only
  rw [peek_of_rest h]
  simp only [Bool.false_eq_true, if_false, peek_of_rest h1]
  exact members_key_of_value hk hc hv

end Dispatch

/-! ## Scalars -/

/-- A document that `Cursor.value` reads back from its text printed at a level, after any
blanks and before anything that may follow a value, with `d` containers allowed. -/
def ReadsBack (d level : Nat) (v : Json) : Prop :=
  ∀ (c : Cursor) (ws rest : List Char) (fuel : Nat), Blanks ws → EndsValue rest →
    c.rest.length < fuel → c.rest = ws ++ (prettyAt level v).toList ++ rest →
    ∃ e : Cursor, c.value d fuel = .ok (v, e) ∧ e.rest = rest

section Scalars

variable {d level : Nat}

lemma isBlank_eq_false_of_isDigit {ch : Char} (h : ch.isDigit = true) : isBlank ch = false := by
  by_contra hb
  simp only [isBlank, Bool.not_eq_false, decide_eq_true_eq] at hb
  rcases hb with rfl | rfl | rfl | rfl <;> simp at h

/-- A literal word is read after its first letter, which tells the reader which word it is. -/
lemma readsBack_word {v : Json} {w : Char} {u : List Char} (hw : isBlank w = false)
    (htext : (prettyAt level v).toList = w :: u)
    (hstep : ∀ (c : Cursor) (f : Nat), c.blanks.rest = w :: u ++ c.blanks.rest.drop (u.length + 1) →
      c.value d (f + 1) = (c.blanks.next.word u).map (v, ·)) :
    ReadsBack d level v := by
  intro c pre rest fuel hpre _ hfuel h
  obtain ⟨f, rfl⟩ : ∃ f, fuel = f + 1 := ⟨fuel - 1, by omega⟩
  rw [htext] at h
  have hb : c.blanks.rest = w :: (u ++ rest) :=
    rest_blanks hpre (noBlankStart_cons hw) (by rw [h, List.append_assoc, List.cons_append])
  obtain ⟨e, he, hrest⟩ := word_ok u c.blanks.next (by rw [rest_next_of hb])
  refine ⟨e, ?_, hrest⟩
  rw [hstep c f (by rw [hb]; simp), he]
  rfl

lemma readsBack_null : ReadsBack d level .null := by
  refine readsBack_word (w := 'n') (u := "ull".toList) rfl (by simp [prettyAt, compact]) ?_
  intro c f h
  rw [Cursor.value]
  dsimp only
  rw [peek_of_rest h]
  rfl

lemma readsBack_bool (b : Bool) : ReadsBack d level (.bool b) := by
  cases b
  · refine readsBack_word (w := 'f') (u := "alse".toList) rfl (by simp [prettyAt, compact]) ?_
    intro c f h
    rw [Cursor.value]
    dsimp only
    rw [peek_of_rest h]
    rfl
  · refine readsBack_word (w := 't') (u := "rue".toList) rfl (by simp [prettyAt, compact]) ?_
    intro c f h
    rw [Cursor.value]
    dsimp only
    rw [peek_of_rest h]
    rfl

/-- A number token is read back as the value it was printed from. -/
lemma readsBack_number {v : Json} {t : NumberToken} (ht : t.WellFormed)
    (htext : (prettyAt level v).toList = t.text)
    (hread : ∀ (c : Cursor) (rest : List Char), EndsNumber rest → c.rest = t.text ++ rest →
      ∃ e : Cursor, c.number = .ok (v, e) ∧ e.rest = rest) :
    ReadsBack d level v := by
  intro c ws rest fuel hws hr hfuel h
  obtain ⟨f, rfl⟩ : ∃ f, fuel = f + 1 := ⟨fuel - 1, by omega⟩
  obtain ⟨ch, r, hcr, hch⟩ := NumberToken.text_head ht
  rw [htext, hcr] at h
  have hblank : isBlank ch = false := by
    rcases hch with rfl | hch
    · rfl
    · exact isBlank_eq_false_of_isDigit hch
  have hb : c.blanks.rest = ch :: (r ++ rest) :=
    rest_blanks hws (noBlankStart_cons hblank) (by rw [h, List.append_assoc, List.cons_append])
  rw [value_of_number hb hch]
  exact hread c.blanks rest hr.endsNumber (by rw [hb, hcr]; rfl)

lemma readsBack_int {n : Int} (hlo : -2 ^ 63 ≤ n) (hhi : n < 2 ^ 64) :
    ReadsBack d level (.int n) :=
  readsBack_number (intToken_wellFormed n) (by simp [prettyAt, compact, intToken_text])
    fun _ _ hr h => number_int hlo hhi hr (by rwa [← intToken_text])

lemma readsBack_float {x : Float} {negative : Bool} {m : Decimal.Dyadic}
    (hx : Decimal.decode x = .finite negative m) : ReadsBack d level (.float x) :=
  readsBack_number (floatToken_wellFormed hx)
    (by simp [prettyAt, compact, floatText, hx, floatToken_text])
    fun _ _ hr h => number_float hx hr (by rwa [floatText, hx, floatToken_text])

lemma readsBack_str (s : String) : ReadsBack d level (.str s) := by
  intro c ws rest fuel hws hr hfuel h
  obtain ⟨f, rfl⟩ : ∃ f, fuel = f + 1 := ⟨fuel - 1, by omega⟩
  have htext : (prettyAt level (.str s)).toList = (quote s).toList := by simp [prettyAt, compact]
  rw [htext, List.append_assoc] at h
  have hb : c.blanks.rest = (quote s).toList ++ rest :=
    rest_blanks hws (by rw [toList_quote]; exact noBlankStart_cons rfl) h
  obtain ⟨e, he, hrest⟩ := string_ok s hb
  refine ⟨e, ?_, hrest⟩
  rw [toList_quote, List.cons_append] at hb
  rw [Cursor.value]
  dsimp only
  rw [peek_of_rest hb]
  simp only [he]
  rfl

end Scalars

/-! ## Containers -/

section Containers

variable {d level : Nat}

/-- Text that starts with the first character of a token: no blank, and no closing bracket. -/
def StartsToken (t : List Char) : Prop := ∃ ch r, t = ch :: r ∧ isBlank ch = false ∧ ch ≠ ']'

lemma startsToken_cons {ch : Char} (r : List Char) (h : isBlank ch = false) (h' : ch ≠ ']') :
    StartsToken (ch :: r) :=
  ⟨ch, r, rfl, h, h'⟩

lemma NumberToken.startsToken {t : NumberToken} (ht : t.WellFormed) : StartsToken t.text := by
  obtain ⟨ch, r, hcr, hch⟩ := NumberToken.text_head ht
  rw [hcr]
  rcases hch with rfl | hch
  · exact startsToken_cons r rfl (by decide)
  · exact startsToken_cons r (isBlank_eq_false_of_isDigit hch) (by rintro rfl; simp at hch)

lemma startsToken_arr (level : Nat) (vs : List Json) :
    StartsToken (prettyAt level (.arr vs)).toList := by
  cases vs with
  | nil => exact ⟨'[', [']'], by simp [prettyAt], rfl, by decide⟩
  | cons v vs => exact ⟨'[', _, toList_prettyAt_arr level v vs, rfl, by decide⟩

lemma startsToken_obj (level : Nat) (ms : List (String × Json)) :
    StartsToken (prettyAt level (.obj ms)).toList := by
  cases ms with
  | nil => exact ⟨'{', ['}'], by simp [prettyAt], rfl, by decide⟩
  | cons m ms => exact ⟨'{', _, toList_prettyAt_obj level m ms, rfl, by decide⟩

/-- A readable document is printed starting with the first character of a token. -/
lemma Readable.startsToken {v : Json} (hv : Readable d v) (level : Nat) :
    StartsToken (prettyAt level v).toList := by
  cases hv with
  | null => exact ⟨'n', ['u', 'l', 'l'], by simp [prettyAt, compact], rfl, by decide⟩
  | bool b =>
    cases b
    · exact ⟨'f', ['a', 'l', 's', 'e'], by simp [prettyAt, compact], rfl, by decide⟩
    · exact ⟨'t', ['r', 'u', 'e'], by simp [prettyAt, compact], rfl, by decide⟩
  | int _ _ => simpa [prettyAt, compact, intToken_text] using
      NumberToken.startsToken (intToken_wellFormed _)
  | float hx => simpa [prettyAt, compact, floatText, hx, floatToken_text] using
      NumberToken.startsToken (floatToken_wellFormed hx)
  | str s =>
    exact ⟨'"', escaped s.toList ++ ['"'], by simp [prettyAt, compact, toList_quote], rfl,
      by decide⟩
  | arr _ => exact startsToken_arr level _
  | obj _ => exact startsToken_obj level _

lemma endsValue_moreItems (vs : List Json) (r : List Char) :
    EndsValue (moreItems level vs ++ '\n' :: r) := by
  cases vs with
  | nil => exact endsValue_newline r
  | cons v vs => simpa [moreItems] using endsValue_comma _

lemma endsValue_moreMembers (ms : List (String × Json)) (r : List Char) :
    EndsValue (moreMembers level ms ++ '\n' :: r) := by
  cases ms with
  | nil => exact endsValue_newline r
  | cons m ms => simpa [moreMembers] using endsValue_comma _

/-- The items after the first are read in turn, each after its comma, and then the closing
bracket on its own line. -/
lemma items_more {vs : List Json}
    (hvs : ∀ v ∈ vs, ReadsBack d level v ∧ StartsToken (prettyAt level v).toList)
    {close rest : List Char} (hclose : Blanks close) :
    ∀ (c : Cursor) (acc : List Json) (fuel : Nat), c.rest.length < fuel →
      c.rest = moreItems level vs ++ '\n' :: close ++ ']' :: rest →
      ∃ e : Cursor, c.items d false acc fuel = .ok (.arr (acc.reverse ++ vs), e) ∧
        e.rest = rest := by
  induction vs with
  | nil =>
    intro c acc fuel hfuel h
    obtain ⟨f, rfl⟩ : ∃ f, fuel = f + 1 := ⟨fuel - 1, by omega⟩
    have hws : Blanks ('\n' :: close) := fun ch hch => by
      rcases List.mem_cons.mp hch with rfl | hch
      · rfl
      · exact hclose ch hch
    have hb : c.blanks.rest = ']' :: rest :=
      rest_blanks hws (noBlankStart_cons rfl) (by simpa [moreItems] using h)
    exact ⟨c.blanks.next, by rw [items_of_close hb, List.append_nil], rest_next_of hb⟩
  | cons v vs ih =>
    intro c acc fuel hfuel h
    obtain ⟨f, rfl⟩ : ∃ f, fuel = f + 1 := ⟨fuel - 1, by omega⟩
    obtain ⟨hread, ch, r, htext, hblank, hch⟩ := hvs v List.mem_cons_self
    -- the text after this item: the later items and the closing bracket
    obtain ⟨after, hafter⟩ : ∃ after, after = moreItems level vs ++ '\n' :: close ++ ']' :: rest :=
      ⟨_, rfl⟩
    have hc : c.rest = ',' :: ('\n' :: (indent level).toList ++ ((prettyAt level v).toList ++ after)) := by
      rw [h, hafter]
      simp [moreItems]
    have hb : c.blanks.rest = c.rest := rest_blanks_self (by rw [hc]; exact noBlankStart_cons rfl)
    have h1 : c.blanks.next.blanks.rest = (prettyAt level v).toList ++ after :=
      rest_blanks (blanks_newline_indent level) (by rw [htext]; exact noBlankStart_cons hblank)
        (by rw [rest_next_of (hb.trans hc)])
    have hlen : ((prettyAt level v).toList ++ after).length + 2 ≤ c.rest.length := by
      rw [hc]
      simp only [List.length_cons, List.length_append]
      omega
    have hlen' : after.length < ((prettyAt level v).toList ++ after).length := by
      rw [List.length_append, htext, List.length_cons]
      omega
    obtain ⟨e, he, hrest⟩ := hread c.blanks.next.blanks [] after f (fun _ h => absurd h List.not_mem_nil)
      (by rw [hafter, List.append_assoc]; exact endsValue_moreItems vs _) (by rw [h1]; omega)
      (by rw [h1]; rfl)
    rw [items_next_of_value (hb.trans hc) (by rw [h1, htext]; rfl) hch he]
    obtain ⟨e', he', hrest'⟩ := ih (fun w hw => hvs w (List.mem_cons_of_mem _ hw)) e (v :: acc) f
      (by rw [hrest]; omega) (by rw [hrest, hafter])
    exact ⟨e', by rw [he']; simp, hrest'⟩

/-- The members after the first are read in turn, each after its comma, and then the closing
brace on its own line. -/
lemma members_more {ms : List (String × Json)} (hms : ∀ m ∈ ms, ReadsBack d level m.2)
    {close rest : List Char} (hclose : Blanks close) :
    ∀ (c : Cursor) (acc : List (String × Json)) (fuel : Nat), c.rest.length < fuel →
      c.rest = moreMembers level ms ++ '\n' :: close ++ '}' :: rest →
      ∃ e : Cursor, c.members d false acc fuel = .ok (.obj (acc.reverse ++ ms), e) ∧
        e.rest = rest := by
  induction ms with
  | nil =>
    intro c acc fuel hfuel h
    obtain ⟨f, rfl⟩ : ∃ f, fuel = f + 1 := ⟨fuel - 1, by omega⟩
    have hws : Blanks ('\n' :: close) := fun ch hch => by
      rcases List.mem_cons.mp hch with rfl | hch
      · rfl
      · exact hclose ch hch
    have hb : c.blanks.rest = '}' :: rest :=
      rest_blanks hws (noBlankStart_cons rfl) (by simpa [moreMembers] using h)
    exact ⟨c.blanks.next, by rw [members_of_close hb, List.append_nil], rest_next_of hb⟩
  | cons m ms ih =>
    intro c acc fuel hfuel h
    obtain ⟨f, rfl⟩ : ∃ f, fuel = f + 1 := ⟨fuel - 1, by omega⟩
    obtain ⟨k, v⟩ := m
    have hread := hms (k, v) List.mem_cons_self
    -- the text after this member: the later members and the closing brace
    obtain ⟨after, hafter⟩ : ∃ after, after = moreMembers level ms ++ '\n' :: close ++ '}' :: rest :=
      ⟨_, rfl⟩
    have hc : c.rest = ',' :: ('\n' :: (indent level).toList ++
        ((quote k).toList ++ ':' :: ' ' :: ((prettyAt level v).toList ++ after))) := by
      rw [h, hafter]
      simp [moreMembers, memberLine]
    have hb : c.blanks.rest = c.rest := rest_blanks_self (by rw [hc]; exact noBlankStart_cons rfl)
    have h1 : c.blanks.next.blanks.rest =
        (quote k).toList ++ ':' :: ' ' :: ((prettyAt level v).toList ++ after) :=
      rest_blanks (blanks_newline_indent level) (by rw [toList_quote]; exact noBlankStart_cons rfl)
        (by rw [rest_next_of (hb.trans hc)])
    obtain ⟨c₂, hk, hc₂⟩ := string_ok k h1
    have hcolon : c₂.blanks.rest = ':' :: ' ' :: ((prettyAt level v).toList ++ after) :=
      (rest_blanks_self (by rw [hc₂]; exact noBlankStart_cons rfl)).trans hc₂
    have hlen : ((prettyAt level v).toList ++ after).length + 2 < c.rest.length := by
      rw [hc, toList_quote]
      simp only [List.length_cons, List.length_append]
      omega
    obtain ⟨e, he, hrest⟩ := hread c₂.blanks.next [' '] after f
      (fun ch hch => by rw [List.mem_singleton.mp hch]; rfl)
      (by rw [hafter, List.append_assoc]; exact endsValue_moreMembers ms _)
      (by rw [rest_next_of hcolon]; simp only [List.length_cons]; omega)
      (by rw [rest_next_of hcolon]; rfl)
    rw [members_next_of_value (hb.trans hc) (by rw [h1, toList_quote]; rfl) hk hcolon he]
    have hlen' : after.length ≤ ((prettyAt level v).toList ++ after).length := by simp
    obtain ⟨e', he', hrest'⟩ := ih (fun m hm => hms m (List.mem_cons_of_mem _ hm)) e ((k, v) :: acc) f
      (by rw [hrest]; omega) (by rw [hrest, hafter])
    exact ⟨e', by rw [he']; simp, hrest'⟩

lemma readsBack_arr {vs : List Json}
    (hvs : ∀ v ∈ vs, ReadsBack d (level + 1) v ∧ StartsToken (prettyAt (level + 1) v).toList) :
    ReadsBack (d + 1) level (.arr vs) := by
  intro c ws rest fuel hws hr hfuel h
  obtain ⟨f, rfl⟩ : ∃ f, fuel = f + 1 := ⟨fuel - 1, by omega⟩
  cases vs with
  | nil =>
    have hc : c.rest = ws ++ '[' :: ']' :: rest := by simpa [prettyAt] using h
    have hb : c.blanks.rest = '[' :: ']' :: rest := rest_blanks hws (noBlankStart_cons rfl) hc
    obtain ⟨g, rfl⟩ : ∃ g, f = g + 1 := ⟨f - 1, by rw [hc] at hfuel; simp at hfuel; omega⟩
    have h1 : c.blanks.next.blanks.rest = ']' :: rest :=
      (rest_blanks_self (by rw [rest_next_of hb]; exact noBlankStart_cons rfl)).trans
        (rest_next_of hb)
    rw [value_of_bracket hb, items_of_close h1]
    exact ⟨_, rfl, rest_next_of h1⟩
  | cons v vs =>
    obtain ⟨hread, ch, r, htext, hblank, hch⟩ := hvs v List.mem_cons_self
    obtain ⟨after, hafter⟩ :
        ∃ after, after = moreItems (level + 1) vs ++ '\n' :: (indent level).toList ++ ']' :: rest :=
      ⟨_, rfl⟩
    have hc : c.rest = ws ++ '[' :: ('\n' :: (indent (level + 1)).toList ++
        ((prettyAt (level + 1) v).toList ++ after)) := by
      rw [h, toList_prettyAt_arr, hafter]
      simp
    have hb : c.blanks.rest = '[' :: ('\n' :: (indent (level + 1)).toList ++
        ((prettyAt (level + 1) v).toList ++ after)) :=
      rest_blanks hws (noBlankStart_cons rfl) hc
    have h1 : c.blanks.next.blanks.rest = (prettyAt (level + 1) v).toList ++ after :=
      rest_blanks (blanks_newline_indent (level + 1))
        (by rw [htext]; exact noBlankStart_cons hblank) (rest_next_of hb)
    have hlen : ((prettyAt (level + 1) v).toList ++ after).length + 2 ≤ c.rest.length := by
      rw [hc]
      simp only [List.length_cons, List.length_append]
      omega
    have hlen' : after.length < ((prettyAt (level + 1) v).toList ++ after).length := by
      rw [List.length_append, htext, List.length_cons]
      omega
    obtain ⟨g, rfl⟩ : ∃ g, f = g + 1 := ⟨f - 1, by omega⟩
    obtain ⟨e, he, hrest⟩ := hread c.blanks.next.blanks [] after g
      (fun _ h => absurd h List.not_mem_nil)
      (by rw [hafter, List.append_assoc]; exact endsValue_moreItems vs _) (by rw [h1]; omega)
      (by rw [h1]; rfl)
    rw [value_of_bracket hb, items_first_of_value (by rw [h1, htext]; rfl) hch he]
    obtain ⟨e', he', hrest'⟩ := items_more (fun w hw => hvs w (List.mem_cons_of_mem _ hw))
      (blanks_indent level) e [v] g (by rw [hrest]; omega) (by rw [hrest, hafter])
    exact ⟨e', by rw [he']; simp, hrest'⟩

lemma readsBack_obj {ms : List (String × Json)} (hms : ∀ m ∈ ms, ReadsBack d (level + 1) m.2) :
    ReadsBack (d + 1) level (.obj ms) := by
  intro c ws rest fuel hws hr hfuel h
  obtain ⟨f, rfl⟩ : ∃ f, fuel = f + 1 := ⟨fuel - 1, by omega⟩
  cases ms with
  | nil =>
    have hc : c.rest = ws ++ '{' :: '}' :: rest := by simpa [prettyAt] using h
    have hb : c.blanks.rest = '{' :: '}' :: rest := rest_blanks hws (noBlankStart_cons rfl) hc
    obtain ⟨g, rfl⟩ : ∃ g, f = g + 1 := ⟨f - 1, by rw [hc] at hfuel; simp at hfuel; omega⟩
    have h1 : c.blanks.next.blanks.rest = '}' :: rest :=
      (rest_blanks_self (by rw [rest_next_of hb]; exact noBlankStart_cons rfl)).trans
        (rest_next_of hb)
    rw [value_of_brace hb, members_of_close h1]
    exact ⟨_, rfl, rest_next_of h1⟩
  | cons m ms =>
    obtain ⟨k, v⟩ := m
    have hread := hms (k, v) List.mem_cons_self
    obtain ⟨after, hafter⟩ :
        ∃ after, after = moreMembers (level + 1) ms ++ '\n' :: (indent level).toList ++ '}' :: rest :=
      ⟨_, rfl⟩
    have hc : c.rest = ws ++ '{' :: ('\n' :: (indent (level + 1)).toList ++
        ((quote k).toList ++ ':' :: ' ' :: ((prettyAt (level + 1) v).toList ++ after))) := by
      rw [h, toList_prettyAt_obj, hafter]
      simp [memberLine]
    have hb : c.blanks.rest = '{' :: ('\n' :: (indent (level + 1)).toList ++
        ((quote k).toList ++ ':' :: ' ' :: ((prettyAt (level + 1) v).toList ++ after))) :=
      rest_blanks hws (noBlankStart_cons rfl) hc
    have h1 : c.blanks.next.blanks.rest =
        (quote k).toList ++ ':' :: ' ' :: ((prettyAt (level + 1) v).toList ++ after) :=
      rest_blanks (blanks_newline_indent (level + 1))
        (by rw [toList_quote]; exact noBlankStart_cons rfl) (rest_next_of hb)
    obtain ⟨c₂, hk, hc₂⟩ := string_ok k h1
    have hcolon : c₂.blanks.rest = ':' :: ' ' :: ((prettyAt (level + 1) v).toList ++ after) :=
      (rest_blanks_self (by rw [hc₂]; exact noBlankStart_cons rfl)).trans hc₂
    have hlen : ((prettyAt (level + 1) v).toList ++ after).length + 4 < c.rest.length := by
      rw [hc, toList_quote]
      simp only [List.length_cons, List.length_append]
      omega
    obtain ⟨g, rfl⟩ : ∃ g, f = g + 1 := ⟨f - 1, by omega⟩
    obtain ⟨e, he, hrest⟩ := hread c₂.blanks.next [' '] after g
      (fun ch hch => by rw [List.mem_singleton.mp hch]; rfl)
      (by rw [hafter, List.append_assoc]; exact endsValue_moreMembers ms _)
      (by rw [rest_next_of hcolon]; simp only [List.length_cons]; omega)
      (by rw [rest_next_of hcolon]; rfl)
    rw [value_of_brace hb, members_first_of_value (by rw [h1, toList_quote]; rfl) hk hcolon he]
    have hlen' : after.length ≤ ((prettyAt (level + 1) v).toList ++ after).length := by simp
    obtain ⟨e', he', hrest'⟩ := members_more (fun m hm => hms m (List.mem_cons_of_mem _ hm))
      (blanks_indent level) e [(k, v)] g (by rw [hrest]; omega) (by rw [hrest, hafter])
    exact ⟨e', by rw [he']; simp, hrest'⟩

end Containers

/-! ## Documents -/

/-- Every readable document is read back from its printed text, at any level of indentation,
after any blanks and before anything that may follow a value. -/
theorem value_prettyAt {d : Nat} {v : Json} (hv : Readable d v) (level : Nat) :
    ReadsBack d level v := by
  induction hv generalizing level with
  | null => exact readsBack_null
  | bool b => exact readsBack_bool b
  | int hlo hhi => exact readsBack_int hlo hhi
  | float hx => exact readsBack_float hx
  | str s => exact readsBack_str s
  | arr h ih => exact readsBack_arr fun v hv => ⟨ih v hv (level + 1), (h v hv).startsToken _⟩
  | obj _ ih => exact readsBack_obj fun m hm => ih m hm (level + 1)

/-- A readable document nested at most 127 deep reads back from its pretty text. -/
theorem parse_pretty {v : Json} (hv : Readable 127 v) : parse (pretty v) = .ok v := by
  obtain ⟨e, he, hrest⟩ := value_prettyAt hv 0 (Cursor.start (pretty v)) [] []
    (2 * (Cursor.start (pretty v)).rest.length + 2)
    (fun _ h => absurd h List.not_mem_nil) (fun _ h => by cases h) (by omega)
    (by simp [Cursor.start, pretty])
  have hend : e.blanks.peek = none := by
    rw [peek_of_nil ((rest_blanks_self (by rw [hrest]; intro _ h; cases h)).trans hrest)]
  simp only [parse, he, bind, Except.bind, hend]

end DataQuality.Json
