import DataQuality.Pattern.Ast
import DataQuality.Pattern.Error
import DataQuality.Pattern.Hir
import DataQuality.Unicode.Lookup
import DataQuality.Unicode.Case
import DataQuality.Text.Word

/-!
# Regular expressions: giving a pattern its meaning

The syntax tree is read in order with the flags in force at each point.  A flag group
`(?flags)` changes the flags for the rest of the enclosing group (across `|` too); a group
`(?flags:...)` changes them inside itself only.

In Unicode mode (the default) classes are sets of characters; without it (`(?-u)`) they are
sets of bytes, and since the texts searched are always well-formed, a class that could match a
byte beyond ASCII is refused, as are `(?-u).`, `(?-u)\B`, Unicode classes and non-ASCII
characters inside byte classes.

Case-insensitive matching closes each class under simple case folding before it is negated, so
that `(?i)[^k]` excludes `K` and the Kelvin sign too.  Set operations fold both sides first.
-/

namespace DataQuality.Pattern

open DataQuality.Unicode

/-- The flags in force; a flag that no group has set has its default. -/
structure Modes where
  caseInsensitive : Bool := false
  multiLine : Bool := false
  dotMatchesNewLine : Bool := false
  swapGreed : Bool := false
  unicode : Bool := true
  crlf : Bool := false
  deriving Inhabited

/-- The flags after a flag group: each flag it names is set, or cleared after a `-`. -/
def Modes.apply (m : Modes) (fs : Flags) : Modes :=
  let get := fun (f : Flag) (old : Bool) => (fs.state f).getD old
  { caseInsensitive := get .caseInsensitive m.caseInsensitive
    multiLine := get .multiLine m.multiLine
    dotMatchesNewLine := get .dotMatchesNewLine m.dotMatchesNewLine
    swapGreed := get .swapGreed m.swapGreed
    unicode := get .unicode m.unicode
    crlf := get .crlf m.crlf }

/-- A step of giving meaning, which may be refused at a span. -/
abbrev Meaning := Except Fault

/-- Refuses at a span. -/
def refuse {α : Type} (span : Span) (kind : ErrorKind) : Meaning α :=
  .error ⟨kind, span⟩

/-- All bytes. -/
def allBytes : CodeSet := CodeSet.range 0 255

/-- A byte set closed under ASCII case: each ASCII letter brings its other case. -/
def asciiFold (s : CodeSet) : CodeSet :=
  let upper := s.inter (CodeSet.range 0x61 0x7A)
  let lower := s.inter (CodeSet.range 0x41 0x5A)
  CodeSet.ofRanges (s.ranges.toList ++ upper.ranges.toList.map (fun r => (r.1 - 32, r.2 - 32)) ++
    lower.ranges.toList.map fun r => (r.1 + 32, r.2 + 32))

/-- The byte complement of a set of bytes. -/
def byteComplement (s : CodeSet) : CodeSet :=
  allBytes.diff s

/-- The ranges of an ASCII class. -/
def AsciiKind.ranges : AsciiKind → List (Nat × Nat)
  | .alnum => [(0x30, 0x39), (0x41, 0x5A), (0x61, 0x7A)]
  | .alpha => [(0x41, 0x5A), (0x61, 0x7A)]
  | .ascii => [(0x00, 0x7F)]
  | .blank => [(0x09, 0x09), (0x20, 0x20)]
  | .cntrl => [(0x00, 0x1F), (0x7F, 0x7F)]
  | .digit => [(0x30, 0x39)]
  | .graph => [(0x21, 0x7E)]
  | .lower => [(0x61, 0x7A)]
  | .print => [(0x20, 0x7E)]
  | .punct => [(0x21, 0x2F), (0x3A, 0x40), (0x5B, 0x60), (0x7B, 0x7E)]
  | .space => [(0x09, 0x0D), (0x20, 0x20)]
  | .upper => [(0x41, 0x5A)]
  | .word => [(0x30, 0x39), (0x41, 0x5A), (0x5F, 0x5F), (0x61, 0x7A)]
  | .xdigit => [(0x30, 0x39), (0x41, 0x46), (0x61, 0x66)]

/-- Folds a Unicode set when case is ignored, then negates it when asked. -/
def unicodeFoldNegate (m : Modes) (negated : Bool) (s : CodeSet) : CodeSet :=
  let s := if m.caseInsensitive then s.foldClosure else s
  if negated then s.complement else s

/-- Folds a byte set when case is ignored and negates it when asked; the result must be ASCII. -/
def bytesFoldNegate (m : Modes) (span : Span) (negated : Bool) (s : CodeSet) : Meaning CodeSet :=
  let s := if m.caseInsensitive then asciiFold s else s
  let s := if negated then byteComplement s else s
  if s.isAscii then .ok s else refuse span .invalidUtf8

/-- The set of a Perl class in Unicode mode. -/
def perlUnicode (c : PerlClass) : CodeSet :=
  let s := match c.kind with
    | .digit => decimalNumberSet
    | .space => whiteSpaceSet
    | .word => Text.wordSet
  if c.negated then s.complement else s

/-- The set of a Perl class in byte mode, which must be ASCII. -/
def perlBytes (c : PerlClass) : Meaning CodeSet :=
  let s := CodeSet.ofRanges <| match c.kind with
    | .digit => AsciiKind.digit.ranges
    | .space => AsciiKind.space.ranges
    | .word => AsciiKind.word.ranges
  let s := if c.negated then byteComplement s else s
  if s.isAscii then .ok s else refuse c.span .invalidUtf8

/-- The set of a Unicode class, folded and negated as the flags and the class ask. -/
def unicodeClassSet (m : Modes) (c : UnicodeClass) : Meaning CodeSet := do
  if !m.unicode then refuse c.span .unicodeNotAllowed
  let found := match c.name with
    | .letter l => setOfName (String.singleton l)
    | .named n => setOfName n
    | .value _ p v => setOfValue p v
  match found with
  | .error .propertyNotFound => refuse c.span .unicodePropertyNotFound
  | .error .valueNotFound => refuse c.span .unicodePropertyValueNotFound
  | .ok s => return unicodeFoldNegate m c.isNegated s

/-- The byte a character inside a byte class stands for: ASCII characters and `\xNN` escapes
below 0x80 only. -/
def classByte (l : Literal) : Meaning Nat :=
  if l.char.toNat < 0x80 then .ok l.char.toNat
  else if l.byteEscape && l.char.toNat ≤ 0xFF then refuse l.span .invalidUtf8
  else refuse l.span .unicodeNotAllowed

/-- The set that class contents stand for. -/
def classContents (m : Modes) : ClassSet → Meaning CodeSet
  | .empty _ => .ok CodeSet.empty
  | .literal l =>
    if m.unicode then .ok (CodeSet.range l.char.toNat l.char.toNat)
    else do
      let b ← classByte l
      return CodeSet.range b b
  | .range _ lo hi =>
    if m.unicode then .ok (CodeSet.range lo.char.toNat hi.char.toNat)
    else do
      let a ← classByte lo
      let b ← classByte hi
      return CodeSet.range a b
  | .ascii c =>
    let s := CodeSet.ofRanges c.kind.ranges
    if m.unicode then .ok (unicodeFoldNegate m c.negated s)
    else bytesFoldNegate m c.span c.negated s
  | .unicode c => unicodeClassSet m c
  | .perl c => if m.unicode then .ok (perlUnicode c) else perlBytes c
  | .bracketed span negated body => do
    let s ← classContents m body
    if m.unicode then return unicodeFoldNegate m negated s
    else bytesFoldNegate m span negated s
  | .union _ items => unionOf m items
  | .binary _ op lhs rhs => do
    let l ← classContents m lhs
    let r ← classContents m rhs
    let fold := fun s =>
      if !m.caseInsensitive then s else if m.unicode then CodeSet.foldClosure s else asciiFold s
    let (l, r) := (fold l, fold r)
    return match op with
      | .intersection => l.inter r
      | .difference => l.diff r
      | .symmetricDifference => l.symmDiff r
where
  /-- The union of the sets of some items, in order. -/
  unionOf (m : Modes) : List ClassSet → Meaning CodeSet
    | [] => .ok CodeSet.empty
    | item :: rest => do
      let s ← classContents m item
      let t ← unionOf m rest
      return s.union t

/-- The class of a bracketed class. -/
def bracketedClass (m : Modes) (span : Span) (negated : Bool) (body : ClassSet) : Meaning Hir := do
  let s ← classContents m body
  if m.unicode then return Hir.mkClass (.unicode (unicodeFoldNegate m negated s))
  else return Hir.mkClass (.bytes (← bytesFoldNegate m span negated s))

/-- The meaning of a character: a literal, or the class of its case-fold partners when case is
ignored. -/
def literalMeaning (m : Modes) (l : Literal) : Meaning Hir := do
  if !m.unicode && l.byteEscape && l.char.toNat ≥ 0x80 && l.char.toNat ≤ 0xFF then
    refuse l.span .invalidUtf8
  let n := l.char.toNat
  if m.caseInsensitive then
    if m.unicode then
      if hasFoldPartner n then
        return Hir.mkClass (.unicode (CodeSet.range n n).foldClosure)
    else if n < 0x80 then
      return Hir.mkClass (.bytes (asciiFold (CodeSet.range n n)))
  return Hir.mkLiteral (utf8Bytes n)

/-- The meaning of `.`: any character but a line feed (and a carriage return with `R`), or any
character at all with `s`.  Without Unicode it could match broken characters. -/
def dotMeaning (m : Modes) (span : Span) : Meaning Hir :=
  if !m.unicode then refuse span .invalidUtf8
  else if m.dotMatchesNewLine then .ok (Hir.mkClass (.unicode CodeSet.scalars))
  else if m.crlf then
    .ok (Hir.mkClass (.unicode (CodeSet.scalars.diff (CodeSet.ofRanges [(0x0A, 0x0A), (0x0D, 0x0D)]))))
  else .ok (Hir.mkClass (.unicode (CodeSet.scalars.diff (CodeSet.range 0x0A 0x0A))))

/-- The meaning of an assertion under the flags. -/
def assertionMeaning (m : Modes) (span : Span) : AssertionKind → Meaning Hir
  | .startLine => .ok (.look (if m.multiLine then (if m.crlf then .startCRLF else .startLF) else .start))
  | .endLine => .ok (.look (if m.multiLine then (if m.crlf then .endCRLF else .endLF) else .finish))
  | .startText => .ok (.look .start)
  | .endText => .ok (.look .finish)
  | .wordBoundary => .ok (.look (if m.unicode then .wordUnicode else .wordAscii))
  | .notWordBoundary =>
    if m.unicode then .ok (.look .wordUnicodeNegate) else refuse span .invalidUtf8
  | .wordStart => .ok (.look (if m.unicode then .wordStartUnicode else .wordStartAscii))
  | .wordEnd => .ok (.look (if m.unicode then .wordEndUnicode else .wordEndAscii))
  | .wordStartHalf => .ok (.look (if m.unicode then .wordStartHalfUnicode else .wordStartHalfAscii))
  | .wordEndHalf => .ok (.look (if m.unicode then .wordEndHalfUnicode else .wordEndHalfAscii))

/-- The least and greatest rounds of a repetition. -/
def RepetitionKind.bounds : RepetitionKind → Nat × Option Nat
  | .zeroOrOne => (0, some 1)
  | .zeroOrMore => (0, none)
  | .oneOrMore => (1, none)
  | .exactly n => (n, some n)
  | .atLeast n => (n, none)
  | .bounded m n => (m, some n)

mutual
/-- The meaning of a node under the flags in force, and the flags after it. -/
def meaningOf (m : Modes) : Ast → Meaning (Hir × Modes)
  | .empty _ => .ok (.empty, m)
  | .flags _ fs => .ok (.empty, m.apply fs)
  | .literal l => do return (← literalMeaning m l, m)
  | .dot span => do return (← dotMeaning m span, m)
  | .assertion span kind => do return (← assertionMeaning m span kind, m)
  | .perlClass c => do
    if m.unicode then return (Hir.mkClass (.unicode (perlUnicode c)), m)
    else return (Hir.mkClass (.bytes (← perlBytes c)), m)
  | .unicodeClass c => do return (Hir.mkClass (.unicode (← unicodeClassSet m c)), m)
  | .bracketed span negated body => do return (← bracketedClass m span negated body, m)
  | .repetition _ _ kind greedy body => do
    let (sub, m) ← meaningOf m body
    let (lo, hi) := kind.bounds
    return (Hir.mkRepetition lo hi (if m.swapGreed then !greedy else greedy) sub, m)
  | .group _ kind body => do
    let inner := match kind with
      | .plain fs => m.apply fs
      | _ => m
    let (sub, _) ← meaningOf inner body
    let h := match kind with
      | .capture i => Hir.capture i none sub
      | .named name i => Hir.capture i (some name) sub
      | .plain _ => sub
    return (h, m)
  | .alternation _ branches => do
    let (hs, m) ← meaningOfList m branches
    return (Hir.mkAlternation hs, m)
  | .concat _ items => do
    let (hs, m) ← meaningOfList m items
    return (Hir.mkConcat (hs.filter fun h => !(h matches .empty)), m)

/-- The meanings of nodes in order, the flags passing from each to the next. -/
def meaningOfList (m : Modes) : List Ast → Meaning (List Hir × Modes)
  | [] => .ok ([], m)
  | a :: rest => do
    let (h, m) ← meaningOf m a
    let (hs, m) ← meaningOfList m rest
    return (h :: hs, m)
end

/-- The meaning of a whole pattern under the default flags. -/
def translate (ast : Ast) : Meaning Hir := do
  return (← meaningOf {} ast).1

end DataQuality.Pattern
