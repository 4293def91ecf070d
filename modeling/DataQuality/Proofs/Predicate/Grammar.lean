import DataQuality.Proofs.Predicate.Backtracking
import DataQuality.Predicate.Parse

/-!
# The patterns of predicates, as their documentation reads them

The reader of predicates asks a regular-expression engine about eight patterns.  Each is
written here as the `Term` its text stands for under the engine's documented syntax: `\s` is
Unicode white space (`Text.isBlank`) and `\S` the rest; `\w` is a class `word` of which only
what the documentation fixes is assumed (`WordClass`); `(?i)` lets each letter of a keyword
stand in either case, and the long s for `s`, which simple case folding sends there; `.` is any
character but a line feed; `^` and `$` are the ends of the text.

`Patterns.Follow P word` says that the engine behind `P` answers as these terms do, and
`Patterns.reference word` is such an engine.  What holds of reading under `Follow` holds of
the engine the library compiles, as far as it keeps to its documentation.
-/

namespace DataQuality

namespace Pattern

/-- The characters `(?i)` lets stand for a lower-case letter of the keywords read here: the
letter in either case, and for `s` also the long s. -/
def caseless (x c : Char) : Bool :=
  c == x || c == x.toUpper || (x == 's' && c == 'ſ')

/-- Any character but white space, `\S`. -/
def nonblank (c : Char) : Bool :=
  !Text.isBlank c

namespace Term

/-- A keyword, each of its letters in any case. -/
def keyword (w : String) : Term :=
  seqs ((w.toList.map caseless).map one)

/-- A fixed text. -/
def literal (w : String) : Term :=
  seqs ((w.toList.map fun x c => c == x).map one)

variable {t : List Char} {i : Nat} {g : Groups}

/-- A keyword matches where the text starts with it, in any case. -/
lemma ends_seq_keyword (w : String) (b : Term) :
    (seq (keyword w) b).ends t i g =
      if fitsAt (w.toList.map caseless) (t.drop i) then b.ends t (i + w.toList.length) g else [] := by
  rw [keyword, ends_seq_ones_eq, List.length_map]

/-- A fixed text matches where the text starts with it. -/
lemma ends_seq_literal (w : String) (b : Term) :
    (seq (literal w) b).ends t i g =
      if fitsAt (w.toList.map fun x c => c == x) (t.drop i) then b.ends t (i + w.toList.length) g
      else [] := by
  rw [literal, ends_seq_ones_eq, List.length_map]

/-- A fixed text alone, as an alternative. -/
lemma ends_literal (w : String) :
    (literal w).ends t i g =
      if fitsAt (w.toList.map fun x c => c == x) (t.drop i) then [(i + w.toList.length, g)] else [] := by
  rw [← ends_seq_empty_right, ends_seq_literal, ends_empty]

/-- A keyword alone rejects what cannot stand for its first letter. -/
lemma rejects_keyword {x : Char} {w : String} {c : Char} (hw : w.toList = x :: w.toList.tail)
    (h : caseless x c = false) : (keyword w).Rejects c := by
  rw [keyword, hw, List.map_cons, List.map_cons, seqs_cons]
  exact rejects_seq _ (rejects_one h)

/-- A fixed text rejects every character but its first. -/
lemma rejects_seq_literal {x : Char} {w : String} {c : Char} (b : Term) (hw : w.toList = x :: w.toList.tail)
    (h : c ≠ x) : (seq (literal w) b).Rejects c := by
  rw [literal, hw, List.map_cons]
  exact rejects_seq_ones b (by simpa using h)

/-- A fixed text alone rejects every character but its first. -/
lemma rejects_literal {x : Char} {w : String} {c : Char} (hw : w.toList = x :: w.toList.tail) (h : c ≠ x) :
    (literal w).Rejects c := by
  rw [literal, hw, List.map_cons, List.map_cons, seqs_cons]
  exact rejects_seq _ (rejects_one (by simpa using h))

end Term

end Pattern

namespace Predicate

open Pattern Term

/-- `(?i)\s+and\s+`, the `AND` between the parts of a conjunction. -/
def conjunctionTerm : Term :=
  seqs [many Text.isBlank 1, keyword "and", many Text.isBlank 1]

/-- `(?i)\bbetween\s+\S+$`, a text ending in `BETWEEN x`. -/
def openBetweenTerm (word : Char → Bool) : Term :=
  seqs [boundary word, keyword "between", many Text.isBlank 1, many nonblank 1, finish]

/-- `(?i)^\s*(\w+)\s+is\s+null\s+or\s+(.+)$`. -/
def nullOrTerm (word : Char → Bool) : Term :=
  seqs [start, many Text.isBlank 0, group 1 (many word 1), many Text.isBlank 1, keyword "is",
    many Text.isBlank 1, keyword "null", many Text.isBlank 1, keyword "or", many Text.isBlank 1,
    group 2 (many (fun c => c != '\n') 1), finish]

/-- `(?i)^\s*(\w+)\s+is\s+(not\s+)?null\s*$`. -/
def isNullTerm (word : Char → Bool) : Term :=
  seqs [start, many Text.isBlank 0, group 1 (many word 1), many Text.isBlank 1, keyword "is",
    many Text.isBlank 1, alt (group 2 (seq (keyword "not") (many Text.isBlank 1))) empty,
    keyword "null", many Text.isBlank 0, finish]

/-- `(?i)^\s*(\w+)\s+in\s*\(([^\)]+)\)\s*$`. -/
def inListTerm (word : Char → Bool) : Term :=
  seqs [start, many Text.isBlank 0, group 1 (many word 1), many Text.isBlank 1, keyword "in",
    many Text.isBlank 0, Term.literal "(", group 2 (many (fun c => c != ')') 1), Term.literal ")",
    many Text.isBlank 0, finish]

/-- `(?i)^\s*(\w+)\s*=\s*any\s*\(array\[([^\]]+)\]\)\s*$`. -/
def anyArrayTerm (word : Char → Bool) : Term :=
  seqs [start, many Text.isBlank 0, group 1 (many word 1), many Text.isBlank 0, Term.literal "=",
    many Text.isBlank 0, keyword "any", many Text.isBlank 0, Term.literal "(", keyword "array",
    Term.literal "[", group 2 (many (fun c => c != ']') 1), Term.literal "])", many Text.isBlank 0, finish]

/-- `(?i)^\s*(\w+)\s+between\s+(\S+)\s+and\s+(\S+)\s*$`. -/
def betweenTerm (word : Char → Bool) : Term :=
  seqs [start, many Text.isBlank 0, group 1 (many word 1), many Text.isBlank 1, keyword "between",
    many Text.isBlank 1, group 2 (many nonblank 1), many Text.isBlank 1, keyword "and",
    many Text.isBlank 1, group 3 (many nonblank 1), many Text.isBlank 0, finish]

/-- The operators of a comparison in the order the pattern tries them, longer spellings first. -/
def operatorSymbols : List String :=
  ["==", "!=", "<>", ">=", "<=", "=", ">", "<"]

/-- `^\s*(\w+)\s*(==|!=|<>|>=|<=|=|>|<)\s*('[^']*'|\S+)\s*$`. -/
def comparisonTerm (word : Char → Bool) : Term :=
  seqs [start, many Text.isBlank 0, group 1 (many word 1), many Text.isBlank 0,
    group 2 (alts (operatorSymbols.map Term.literal)), many Text.isBlank 0,
    group 3 (alt (seqs [Term.literal "'", many (fun c => c != '\'') 0, Term.literal "'"]) (many nonblank 1)),
    many Text.isBlank 0, finish]

/-- What the documentation of `\w` fixes: among ASCII characters the word characters are the
letters, the digits and `_`, and no white space is one. -/
structure WordClass (word : Char → Bool) : Prop where
  ascii : ∀ c : Char, c.toNat < 128 → word c = (c.isAlphanum || c == '_')
  not_blank : ∀ c, Text.isBlank c = true → word c = false

/-- The engine behind `P` answers as the terms say, `word` standing for `\w`. -/
structure Patterns.Follow (P : Patterns) (word : Char → Bool) : Prop where
  conjunction : P.conjunction = conjunctionTerm.spans
  openBetween : P.openBetween = (openBetweenTerm word).isMatch
  nullOr : P.nullOr = (nullOrTerm word).captures
  isNull : P.isNull = (isNullTerm word).captures
  inList : P.inList = (inListTerm word).captures
  anyArray : P.anyArray = (anyArrayTerm word).captures
  between : P.between = (betweenTerm word).captures
  comparison : P.comparison = (comparisonTerm word).captures

/-- The patterns read by backtracking, `word` standing for `\w`. -/
def Patterns.reference (word : Char → Bool) : Patterns where
  conjunction := conjunctionTerm.spans
  openBetween := (openBetweenTerm word).isMatch
  nullOr := (nullOrTerm word).captures
  isNull := (isNullTerm word).captures
  inList := (inListTerm word).captures
  anyArray := (anyArrayTerm word).captures
  between := (betweenTerm word).captures
  comparison := (comparisonTerm word).captures

lemma Patterns.reference_follow (word : Char → Bool) : (Patterns.reference word).Follow word :=
  ⟨rfl, rfl, rfl, rfl, rfl, rfl, rfl, rfl⟩

/-- Word characters of ASCII only. -/
def asciiWord (c : Char) : Bool :=
  c.isAlphanum || c == '_'

/-- No white space is an ASCII letter, digit or `_`. -/
lemma asciiWord_of_isBlank {c : Char} (hc : Text.isBlank c = true) : asciiWord c = false := by
  have hn : c.toNat = c.val.toNat := rfl
  have hu : c ≠ '_' := by
    rintro rfl
    simp [Text.isBlank] at hc
  simp only [Text.isBlank, Bool.or_eq_true, Bool.and_eq_true, decide_eq_true_eq, beq_iff_eq] at hc
  -- unfolded by `delta`, which leaves no equation lemmas of these core functions behind
  delta asciiWord Char.isAlphanum Char.isAlpha Char.isUpper Char.isLower
  simp only [Char.isDigit, Bool.or_eq_false_iff, Bool.and_eq_false_iff, decide_eq_false_iff_not, beq_eq_false_iff_ne, ge_iff_le,
    UInt32.le_iff_toNat_le, ← hn]
  refine ⟨⟨⟨?_, ?_⟩, ?_⟩, hu⟩
  -- the bounds of the ranges, as numbers
  all_goals simp only [show 'A'.val.toNat = 65 from rfl, show 'Z'.val.toNat = 90 from rfl,
    show 'a'.val.toNat = 97 from rfl, show 'z'.val.toNat = 122 from rfl, show '0'.val.toNat = 48 from rfl,
    show '9'.val.toNat = 57 from rfl]
  all_goals omega

lemma wordClass_asciiWord : WordClass asciiWord :=
  ⟨fun _ _ => rfl, fun _ hc => asciiWord_of_isBlank hc⟩

end Predicate

end DataQuality
