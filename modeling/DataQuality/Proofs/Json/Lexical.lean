import Mathlib
import DataQuality.Json.Print
import DataQuality.Json.Parse

/-!
# Reading back the tokens of printed JSON

The reader walks a cursor over the characters of a text.  What it reads never depends on the
line and column the cursor counts, only on the characters left, so every statement here is
made for all cursors whose remaining characters are a given text: reading a token from such a
cursor gives the token's value and a cursor whose remaining characters are what followed it.

This module reads back the tokens the printer writes: runs of blanks, the literal words,
runs of digits, string literals with every escape the printer makes (`string_ok`), and number
tokens of any shape the grammar allows (`number_ok`).
-/

namespace DataQuality.Json

/-! ## Cursors -/

namespace Cursor

@[simp] lemma rest_next (c : Cursor) : c.next.rest = c.rest.tail := by
  unfold Cursor.next
  split <;> simp_all

lemma peek_of_rest {c : Cursor} {ch : Char} {r : List Char} (h : c.rest = ch :: r) :
    c.peek = some ch := by
  simp [Cursor.peek, h]

lemma peek_of_nil {c : Cursor} (h : c.rest = []) : c.peek = none := by
  simp [Cursor.peek, h]

lemma rest_next_of {c : Cursor} {ch : Char} {r : List Char} (h : c.rest = ch :: r) :
    c.next.rest = r := by
  simp [h]

end Cursor

open Cursor

variable {rest : List Char}

/-! ## Blanks and words -/

/-- A run of blanks. -/
def Blanks (ws : List Char) : Prop := ∀ ch ∈ ws, isBlank ch = true

/-- Text that does not start with a blank. -/
def NoBlankStart (rest : List Char) : Prop := ∀ ch, rest.head? = some ch → isBlank ch = false

lemma rest_skipBlanks : ∀ (ws : List Char) (c : Cursor) (fuel : Nat), Blanks ws →
    NoBlankStart rest → ws.length ≤ fuel → c.rest = ws ++ rest → (c.skipBlanks fuel).rest = rest
  | [], c, 0, _, _, _, h => by simpa [skipBlanks] using h
  | [], c, fuel + 1, _, hr, _, h => by
    rw [List.nil_append] at h
    unfold skipBlanks
    -- the blanks are passed; the next character, if any, is no blank
    cases rest with
    | nil => simp [peek_of_nil h, h]
    | cons ch r => simp [peek_of_rest h, hr ch rfl, h]
  | w :: ws, c, fuel + 1, hw, hr, hl, h => by
    rw [List.cons_append] at h
    rw [skipBlanks, peek_of_rest h]
    simp only [hw w List.mem_cons_self, if_true]
    exact rest_skipBlanks ws c.next fuel (fun ch hc => hw ch (List.mem_cons_of_mem _ hc)) hr
      (by simp at hl; omega) (rest_next_of h)
  | _ :: _, _, 0, _, _, hl, _ => by simp at hl

/-- Passing over blanks leaves what follows them. -/
lemma rest_blanks {c : Cursor} {ws : List Char} (hw : Blanks ws) (hr : NoBlankStart rest)
    (h : c.rest = ws ++ rest) : c.blanks.rest = rest :=
  rest_skipBlanks ws c _ hw hr (by simp [h]) h

/-- Text that starts with no blank is passed over as it is. -/
lemma rest_blanks_self {c : Cursor} (hr : NoBlankStart c.rest) : c.blanks.rest = c.rest :=
  rest_skipBlanks [] c _ (fun _ h => absurd h List.not_mem_nil) hr (Nat.zero_le _) rfl

lemma noBlankStart_cons {ch : Char} {r : List Char} (h : isBlank ch = false) :
    NoBlankStart (ch :: r) := by
  intro c hc
  cases hc
  exact h

lemma word_ok : ∀ (w : List Char) (c : Cursor), c.rest = w ++ rest →
    ∃ d, c.word w = .ok d ∧ d.rest = rest
  | [], c, h => ⟨c, rfl, by simpa using h⟩
  | ch :: w, c, h => by
    rw [List.cons_append] at h
    rw [Cursor.word, peek_of_rest h]
    simp only [if_true]
    exact word_ok w c.next (rest_next_of h)

/-! ## Digits -/

/-- Text that does not go on with a digit. -/
def NoDigitStart (rest : List Char) : Prop := ∀ ch, rest.head? = some ch → ch.isDigit = false

lemma digits_ok : ∀ (ds : List Char) (c : Cursor) (acc : List Char) (fuel : Nat),
    (∀ ch ∈ ds, ch.isDigit = true) → NoDigitStart rest → ds.length ≤ fuel →
    c.rest = ds ++ rest → (c.digits acc fuel).1 = acc.reverse ++ ds ∧ (c.digits acc fuel).2.rest = rest
  | [], c, acc, 0, _, _, _, h => by simpa [Cursor.digits] using h
  | [], c, acc, fuel + 1, _, hr, _, h => by
    rw [List.nil_append] at h
    unfold Cursor.digits
    cases rest with
    | nil => simp [peek_of_nil h, h]
    | cons ch r => simp [peek_of_rest h, hr ch rfl, h]
  | d :: ds, c, acc, fuel + 1, hd, hr, hl, h => by
    rw [List.cons_append] at h
    rw [Cursor.digits, peek_of_rest h]
    simp only [hd d List.mem_cons_self, if_true]
    have := digits_ok ds c.next (d :: acc) fuel (fun ch hc => hd ch (List.mem_cons_of_mem _ hc)) hr
      (by simp at hl; omega) (rest_next_of h)
    simpa using this
  | _ :: _, _, _, 0, _, _, hl, _ => by simp at hl

/-! ## Strings -/

/-- The characters of a string body as the printer escapes them. -/
def escaped (s : List Char) : List Char := s.flatMap fun ch => (escapeChar ch).toList

@[simp] lemma escaped_nil : escaped [] = [] := rfl

@[simp] lemma escaped_cons (ch : Char) (s : List Char) :
    escaped (ch :: s) = (escapeChar ch).toList ++ escaped s := rfl

lemma toList_quote (s : String) : (quote s).toList = '"' :: escaped s.toList ++ ['"'] := by
  simp [quote, escaped, List.flatMap_map]

/-- The hex digit the printer writes for a value below sixteen reads back as that value. -/
lemma hexValue_digit {d : Nat} (hd : d < 16) :
    hexValue (if d < 10 then Char.ofNat (48 + d) else Char.ofNat (87 + d)) = some d := by
  interval_cases d <;> decide

lemma length_escapeChar_pos (ch : Char) : 0 < (escapeChar ch).toList.length := by
  unfold escapeChar
  split
  all_goals try simp
  split <;> simp [hexByte]

lemma length_le_escaped : ∀ s : List Char, s.length ≤ (escaped s).length
  | [] => le_rfl
  | ch :: s => by
    have := length_escapeChar_pos ch
    have := length_le_escaped s
    simp
    omega

/-- A backslash and an escape read as `y` are read as `y`. -/
lemma stringBody_backslash {c d : Cursor} {y : Char} {r : List Char}
    (h : c.rest = '\\' :: r) (hx : c.next.escape = .ok (y, d)) (acc : List Char)
    (fuel : Nat) : c.stringBody acc (fuel + 1) = d.stringBody (y :: acc) fuel := by
  rw [Cursor.stringBody, peek_of_rest h]
  simp only [hx]
  rfl

/-- A character the printer names by an escape is read back through it. -/
lemma stringBody_named {c : Cursor} {x y : Char} {more : List Char}
    (h : c.rest = '\\' :: x :: more) (hy : c.next.escape = .ok (y, c.next.next)) (acc : List Char)
    (fuel : Nat) :
    ∃ d : Cursor, d.rest = more ∧ c.stringBody acc (fuel + 1) = d.stringBody (y :: acc) fuel :=
  ⟨c.next.next, by simp [h], stringBody_backslash h hy acc fuel⟩

lemma hexValue_zero : hexValue '0' = some 0 := by decide

/-- A `\u00xy` escape of two hex digits is read as the character of their value. -/
lemma escape_u00 {c : Cursor} {a b : Char} {x y : Nat} {more : List Char}
    (h : c.rest = 'u' :: '0' :: '0' :: a :: b :: more) (ha : hexValue a = some x)
    (hb : hexValue b = some y) (hxy : x * 16 + y < 0xD800) :
    c.escape = .ok (Char.ofNat (x * 16 + y), c.next.next.next.next.next) := by
  have h1 : c.next.rest = '0' :: '0' :: a :: b :: more := rest_next_of h
  rw [Cursor.escape, peek_of_rest h]
  simp only []
  rw [Cursor.hex4, h1]
  simp only [hexValue_zero, ha, hb]
  simp only [bind, Except.bind]
  rw [if_neg (by omega), if_neg (by omega)]
  simp

/-- One escaped character is read as that character. -/
lemma stringBody_escapeChar (ch : Char) {c : Cursor} {more : List Char}
    (h : c.rest = (escapeChar ch).toList ++ more) (acc : List Char) (fuel : Nat) :
    ∃ d : Cursor, d.rest = more ∧ c.stringBody acc (fuel + 1) = d.stringBody (ch :: acc) fuel := by
  unfold escapeChar at h
  -- one case per character the printer names, then the control characters, then the rest
  split at h
  rotate_right
  · rename_i hquote hback _ _ _ _ _
    split at h
    · -- a control character, as `\u00` and two hex digits
      rename_i hctl
      simp [hexByte] at h
      have hdigits : ch.toNat / 16 % 16 * 16 + ch.toNat % 16 = ch.toNat := by omega
      have hu := escape_u00 (rest_next_of h) (hexValue_digit (Nat.mod_lt _ (by norm_num)))
        (hexValue_digit (Nat.mod_lt _ (by norm_num))) (by omega)
      rw [hdigits, Char.ofNat_toNat] at hu
      exact ⟨_, by simp [h], stringBody_backslash h hu acc fuel⟩
    · -- any other character stands as it is
      rename_i hctl
      simp at h
      refine ⟨c.next, rest_next_of h, ?_⟩
      rw [Cursor.stringBody, peek_of_rest h]
      -- neither a quote nor a backslash, and no control character
      split
      · rename_i heq
        cases heq
      · rename_i heq
        cases heq
        exact (hquote rfl).elim
      · rename_i heq
        cases heq
        exact (hback rfl).elim
      · rename_i heq
        cases heq
        rw [if_neg hctl]
  all_goals
    simp at h
    exact stringBody_named h (by rw [Cursor.escape, peek_of_rest (rest_next_of h)]; rfl) acc fuel

lemma stringBody_ok : ∀ (s : List Char) (c : Cursor) (acc : List Char) (fuel : Nat),
    s.length < fuel → c.rest = escaped s ++ '"' :: rest →
    ∃ d : Cursor, c.stringBody acc fuel = .ok (String.ofList (acc.reverse ++ s), d) ∧ d.rest = rest
  | [], c, acc, fuel + 1, _, h => by
    rw [escaped_nil, List.nil_append] at h
    refine ⟨c.next, ?_, rest_next_of h⟩
    rw [Cursor.stringBody, peek_of_rest h]
    simp
  | ch :: s, c, acc, fuel + 1, hl, h => by
    rw [escaped_cons, List.append_assoc] at h
    obtain ⟨d, hd, hstep⟩ := stringBody_escapeChar ch h acc fuel
    rw [hstep]
    simpa using stringBody_ok s d (ch :: acc) fuel (by simp at hl; omega) hd
  | _, _, _, 0, hl, _ => by simp at hl

/-- A printed string literal is read back as the string. -/
lemma string_ok (s : String) {c : Cursor} (h : c.rest = (quote s).toList ++ rest) :
    ∃ d : Cursor, c.string = .ok (s, d) ∧ d.rest = rest := by
  simp only [toList_quote, List.cons_append, List.append_assoc] at h
  have hl : s.toList.length < c.rest.length := by
    have := length_le_escaped s.toList
    rw [h]
    simp
    omega
  obtain ⟨d, hd, hrest⟩ := stringBody_ok s.toList c.next [] c.rest.length hl (rest_next_of h)
  exact ⟨d, by rw [Cursor.string, hd]; simp, hrest⟩

/-! ## Numbers -/

/-- The parts of a number token: its sign, the digits before the point, the digits after it
(none when there is no point), and the exponent with the sign written before its digits
(`none` for no sign, `some true` for a minus). -/
structure NumberToken where
  negative : Bool
  whole : List Char
  fraction : List Char
  exponent : Option (Option Bool × List Char)

namespace NumberToken

/-- The written sign of an exponent. -/
def signText : Option Bool → List Char
  | none => []
  | some false => ['+']
  | some true => ['-']

/-- The text of the exponent part. -/
def exponentText : Option (Option Bool × List Char) → List Char
  | none => []
  | some (sign, ds) => 'e' :: signText sign ++ ds

/-- The text of a number token. -/
def text (t : NumberToken) : List Char :=
  (if t.negative then ['-'] else []) ++ t.whole ++
    (if t.fraction = [] then [] else '.' :: t.fraction) ++ exponentText t.exponent

/-- The value of the exponent. -/
def exponentValue (t : NumberToken) : Option Int :=
  t.exponent.map fun (sign, ds) =>
    if sign = some true then -(Decimal.digitsValue ds : Int) else Decimal.digitsValue ds

/-- What the grammar asks of a number token: digits before the point, no leading zero before
another digit, digits after the point, and digits in the exponent. -/
structure WellFormed (t : NumberToken) : Prop where
  whole_ne : t.whole ≠ []
  whole_digits : ∀ ch ∈ t.whole, ch.isDigit = true
  leading_zero : t.whole.head? = some '0' → t.whole = ['0']
  fraction_digits : ∀ ch ∈ t.fraction, ch.isDigit = true
  exponent_digits : ∀ sign ds, t.exponent = some (sign, ds) → ds ≠ [] ∧ ∀ ch ∈ ds, ch.isDigit = true

end NumberToken

/-- Text that cannot go on a number token. -/
def EndsNumber (rest : List Char) : Prop :=
  ∀ ch, rest.head? = some ch → ch.isDigit = false ∧ ch ≠ '.' ∧ ch ≠ 'e' ∧ ch ≠ 'E'

lemma exponentPart_ok {c : Cursor} (e : Option (Option Bool × List Char))
    (he : ∀ sign ds, e = some (sign, ds) → ds ≠ [] ∧ ∀ ch ∈ ds, ch.isDigit = true)
    (hr : EndsNumber rest) (h : c.rest = NumberToken.exponentText e ++ rest) :
    ∃ d : Cursor, c.exponentPart = .ok ((NumberToken.mk false [] [] e).exponentValue, d) ∧
      d.rest = rest := by
  cases e with
  | none =>
    -- no exponent: the next character is none of `e` and `E`
    refine ⟨c, ?_, by simpa [NumberToken.exponentText] using h⟩
    simp only [NumberToken.exponentText, List.nil_append] at h
    rw [Cursor.exponentPart]
    split
    · rename_i heq
      rw [Cursor.peek, h] at heq
      exact absurd rfl (hr 'e' heq).2.2.1
    · rename_i heq
      rw [Cursor.peek, h] at heq
      exact absurd rfl (hr 'E' heq).2.2.2
    · rfl
  | some e =>
    obtain ⟨sign, ds⟩ := e
    obtain ⟨hne, hdigits⟩ := he sign ds rfl
    obtain ⟨d₀, ds', rfl⟩ := List.exists_cons_of_ne_nil hne
    have hd₀ := hdigits d₀ List.mem_cons_self
    have hdr : NoDigitStart rest := fun ch hch => (hr ch hch).1
    simp only [NumberToken.exponentText, List.cons_append, List.append_assoc] at h
    rw [Cursor.exponentPart, peek_of_rest h]
    simp only []
    have hm : d₀ ≠ '-' := by rintro rfl; exact absurd hd₀ (by decide)
    have hp : d₀ ≠ '+' := by rintro rfl; exact absurd hd₀ (by decide)
    -- the written sign, then the digits
    cases sign with
    | none =>
      have h1 : c.next.rest = d₀ :: (ds' ++ rest) := by
        simpa [NumberToken.signText] using rest_next_of h
      obtain ⟨hds, hrest⟩ := digits_ok (d₀ :: ds') c.next [] c.next.rest.length hdigits hdr
        (by rw [h1]; simp) (by simpa using h1)
      simp only [peek_of_rest h1, ↓Char.isValue, Option.some.injEq, hm, hp, imp_self, hd₀,
        if_true]
      exact ⟨_, by rw [hds]; rfl, hrest⟩
    | some negative =>
      have h1 : c.next.rest = (if negative then '-' else '+') :: d₀ :: (ds' ++ rest) := by
        cases negative <;> simpa [NumberToken.signText] using rest_next_of h
      have h2 : c.next.next.rest = d₀ :: (ds' ++ rest) := rest_next_of h1
      obtain ⟨hds, hrest⟩ := digits_ok (d₀ :: ds') c.next.next [] c.next.next.rest.length hdigits
        hdr (by rw [h2]; simp) (by simpa using h2)
      rw [peek_of_rest h1]
      cases negative
      · simp only [↓Char.isValue, Bool.false_eq_true, if_false, peek_of_rest h2, hd₀, if_true]
        exact ⟨_, by rw [hds]; rfl, hrest⟩
      · simp only [↓Char.isValue, if_true, peek_of_rest h2, hd₀]
        exact ⟨_, by rw [hds]; rfl, hrest⟩

namespace NumberToken

/-- The text after the digits before the point. -/
def afterWhole (t : NumberToken) (rest : List Char) : List Char :=
  (if t.fraction = [] then [] else '.' :: t.fraction) ++ exponentText t.exponent ++ rest

lemma noDigitStart_exponentText (e : Option (Option Bool × List Char)) (hr : EndsNumber rest) :
    NoDigitStart (exponentText e ++ rest) := by
  intro ch hch
  cases e with
  | none => exact (hr ch (by simpa [exponentText] using hch)).1
  | some e =>
    simp only [exponentText, List.cons_append, List.head?_cons, Option.some.injEq] at hch
    subst hch
    decide

lemma noDigitStart_afterWhole (t : NumberToken) (hr : EndsNumber rest) :
    NoDigitStart (t.afterWhole rest) := by
  unfold afterWhole
  split_ifs
  · simpa using noDigitStart_exponentText t.exponent hr
  · intro ch hch
    simp only [List.cons_append, List.head?_cons, Option.some.injEq] at hch
    subst hch
    decide

lemma text_append (t : NumberToken) (rest : List Char) :
    t.text ++ rest = (if t.negative then ['-'] else []) ++ t.whole ++ t.afterWhole rest := by
  simp [text, afterWhole]

end NumberToken

lemma signPart_minus {c : Cursor} {r : List Char} (h : c.rest = '-' :: r) :
    c.signPart = (true, c.next) := by
  rw [Cursor.signPart, peek_of_rest h]
  rfl

lemma signPart_digit {c : Cursor} {ch : Char} {r : List Char} (h : c.rest = ch :: r)
    (hch : ch.isDigit = true) : c.signPart = (false, c) := by
  have hm : ch ≠ '-' := by rintro rfl; exact absurd hch (by decide)
  rw [Cursor.signPart, peek_of_rest h]
  simp only [↓Char.isValue, Option.some.injEq, hm, imp_self]

/-- The digits before the point are read up to the first character that is no digit. -/
lemma wholePart_ok {ds after : List Char} (hne : ds ≠ []) (hd : ∀ ch ∈ ds, ch.isDigit = true)
    (hz : ds.head? = some '0' → ds = ['0']) (hr : NoDigitStart after) {c : Cursor}
    (h : c.rest = ds ++ after) : ∃ d : Cursor, c.wholePart = .ok (ds, d) ∧ d.rest = after := by
  obtain ⟨d₀, ds', rfl⟩ := List.exists_cons_of_ne_nil hne
  have hd₀ : d₀.isDigit = true := hd d₀ List.mem_cons_self
  rw [List.cons_append] at h
  rw [Cursor.wholePart, peek_of_rest h]
  by_cases h0 : d₀ = '0'
  · -- a lone zero, followed by no digit
    subst h0
    obtain rfl : ds' = [] := by simpa using hz rfl
    have h1 : c.next.rest = after := by simpa using rest_next_of h
    refine ⟨c.next, ?_, h1⟩
    simp only []
    cases hafter : after with
    | nil => rw [peek_of_nil (h1.trans hafter)]
    | cons x r =>
      rw [peek_of_rest (h1.trans hafter)]
      simp only [hr x (by simp [hafter]), Bool.false_eq_true, if_false]
  · -- digits not starting with zero, read up to the first that is no digit
    obtain ⟨hds, hrest⟩ := digits_ok (d₀ :: ds') c [] c.rest.length hd hr (by rw [h]; simp)
      (by rw [h, List.cons_append])
    refine ⟨_, ?_, hrest⟩
    simp only [hd₀, if_true]
    rw [List.reverse_nil, List.nil_append] at hds
    rw [← hds]

/-- The point and the digits after it are read when there are any. -/
lemma fractionPart_ok {fs after : List Char} (hd : ∀ ch ∈ fs, ch.isDigit = true)
    (hr : NoDigitStart after) (hdot : ∀ ch, after.head? = some ch → ch ≠ '.') {c : Cursor}
    (h : c.rest = (if fs = [] then [] else '.' :: fs) ++ after) :
    ∃ d : Cursor, c.fractionPart = .ok (fs, d) ∧ d.rest = after := by
  rcases fs with _ | ⟨f₀, fs'⟩
  · -- no point
    rw [if_pos rfl, List.nil_append] at h
    refine ⟨c, ?_, h⟩
    rw [Cursor.fractionPart]
    split
    · rename_i heq
      rw [Cursor.peek, h] at heq
      exact absurd rfl (hdot '.' heq)
    · rfl
  · rw [if_neg (List.cons_ne_nil _ _), List.cons_append] at h
    obtain ⟨hds, hrest⟩ := digits_ok (f₀ :: fs') c.next [] c.rest.length hd hr
      (by rw [h]; simp; omega) (by rw [rest_next_of h])
    refine ⟨_, ?_, hrest⟩
    rw [Cursor.fractionPart, peek_of_rest h]
    simp only [hds, List.reverse_nil, List.nil_append, List.isEmpty_cons, Bool.false_eq_true,
      if_false]

/-- A number token is read as the value of its parts, and reading stops right after it. -/
lemma number_ok {t : NumberToken} (ht : t.WellFormed) (hr : EndsNumber rest) {c : Cursor}
    (h : c.rest = t.text ++ rest) :
    ∃ d : Cursor, d.rest = rest ∧ c.number =
      match numberValue t.negative t.whole t.fraction t.exponentValue with
      | some v => .ok (v, d)
      | none => .error (d.fail "number out of range") := by
  obtain ⟨w₀, ws, hw⟩ := List.exists_cons_of_ne_nil ht.whole_ne
  have hw₀ : w₀.isDigit = true := ht.whole_digits w₀ (by simp [hw])
  rw [NumberToken.text_append] at h
  -- the sign
  obtain ⟨c1, hsign, hc1⟩ : ∃ c1 : Cursor, c.signPart = (t.negative, c1) ∧
      c1.rest = t.whole ++ t.afterWhole rest := by
    cases hneg : t.negative
    · rw [hneg, if_neg Bool.false_ne_true, List.nil_append] at h
      exact ⟨c, signPart_digit (by rw [h, hw, List.cons_append]) hw₀, h⟩
    · rw [hneg, if_pos rfl, List.append_assoc, List.singleton_append] at h
      exact ⟨c.next, signPart_minus h, rest_next_of h⟩
  -- the digits before the point, then after it, then the exponent
  obtain ⟨c2, hwhole, hc2⟩ := wholePart_ok ht.whole_ne ht.whole_digits ht.leading_zero
    (t.noDigitStart_afterWhole hr) hc1
  have hafter : c2.rest = (if t.fraction = [] then [] else '.' :: t.fraction) ++
      (NumberToken.exponentText t.exponent ++ rest) := by
    rw [hc2, NumberToken.afterWhole, List.append_assoc]
  have hdot : ∀ ch, (NumberToken.exponentText t.exponent ++ rest).head? = some ch → ch ≠ '.' := by
    intro ch hch
    cases he : t.exponent with
    | none => exact (hr ch (by simpa [he, NumberToken.exponentText] using hch)).2.1
    | some e =>
      simp only [he, NumberToken.exponentText, List.cons_append, List.head?_cons,
        Option.some.injEq] at hch
      subst hch
      decide
  obtain ⟨c3, hfrac, hc3⟩ := fractionPart_ok ht.fraction_digits
    (NumberToken.noDigitStart_exponentText t.exponent hr) hdot hafter
  obtain ⟨c4, hexp, hc4⟩ := exponentPart_ok t.exponent ht.exponent_digits hr hc3
  refine ⟨c4, hc4, ?_⟩
  rw [Cursor.number, hsign]
  simp only [hwhole, hfrac, hexp, bind, Except.bind]
  rfl

end DataQuality.Json