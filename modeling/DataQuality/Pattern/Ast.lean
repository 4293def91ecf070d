/-!
# Regular expressions: the syntax tree

The tree that parsing a pattern gives, before any meaning is attached: every node keeps the span
of the pattern it was read from, so that a refusal found later can point at the text.  A
position counts characters from the start of the pattern and also gives the line and column
(both from one) where it stands.

Bracketed classes are trees of their own: items (single characters, ranges, named classes,
nested brackets), unions of items written side by side, and the set operations `&&`
(intersection), `--` (difference) and `~~` (symmetric difference).
-/

namespace DataQuality.Pattern

/-- A place in a pattern: the number of characters before it, and its line and column. -/
structure Position where
  offset : Nat
  line : Nat
  column : Nat
  deriving Repr, BEq, Inhabited

/-- The part of a pattern between two positions. -/
structure Span where
  start : Position
  stop : Position
  deriving Repr, BEq, Inhabited

/-- The empty span at a position. -/
def Span.at (p : Position) : Span := ⟨p, p⟩

/-- The span with its end moved. -/
def Span.withStop (s : Span) (p : Position) : Span := ⟨s.start, p⟩

/-- The flags that a group may set or clear. -/
inductive Flag where
  /-- `i`: letters match regardless of case. -/
  | caseInsensitive
  /-- `m`: `^` and `$` match at line ends too. -/
  | multiLine
  /-- `s`: `.` matches line feeds too. -/
  | dotMatchesNewLine
  /-- `U`: repetitions prefer fewer rounds, and `?` after them more. -/
  | swapGreed
  /-- `u`: classes and escapes mean Unicode characters rather than bytes. -/
  | unicode
  /-- `R`: a carriage return also ends a line. -/
  | crlf
  /-- `x`: white space and comments between tokens are ignored. -/
  | ignoreWhitespace
  deriving Repr, BEq, Inhabited

/-- One item of a flag group: a flag, or the `-` that clears the flags after it. -/
inductive FlagItem where
  | negation
  | flag (f : Flag)
  deriving Repr, BEq, Inhabited

/-- The items of a flag group, each with its span. -/
structure Flags where
  span : Span
  items : List (Span × FlagItem)
  deriving Repr, Inhabited

/-- The value a flag group gives a flag, if it names it: set unless a `-` came before it. -/
def Flags.state (fs : Flags) (f : Flag) : Option Bool :=
  go false fs.items
where
  go (negated : Bool) : List (Span × FlagItem) → Option Bool
    | [] => none
    | (_, .negation) :: rest => go true rest
    | (_, .flag g) :: rest => if g == f then some !negated else go negated rest

/-- A character written in a pattern.  `byteEscape` marks the form `\xNN` with two hex digits,
which outside Unicode mode stands for a byte rather than a character. -/
structure Literal where
  span : Span
  char : Char
  byteEscape : Bool := false
  deriving Repr, Inhabited

/-- The zero-width assertions. -/
inductive AssertionKind where
  /-- `^` -/
  | startLine
  /-- `$` -/
  | endLine
  /-- `\A` -/
  | startText
  /-- `\z` -/
  | endText
  /-- `\b` -/
  | wordBoundary
  /-- `\B` -/
  | notWordBoundary
  /-- `\b{start}` and `\<` -/
  | wordStart
  /-- `\b{end}` and `\>` -/
  | wordEnd
  /-- `\b{start-half}` -/
  | wordStartHalf
  /-- `\b{end-half}` -/
  | wordEndHalf
  deriving Repr, BEq, Inhabited

/-- The classes `\d`, `\s` and `\w`. -/
inductive PerlKind where
  | digit
  | space
  | word
  deriving Repr, BEq, Inhabited

/-- A class `\d`, `\s`, `\w` or one of their negations `\D`, `\S`, `\W`. -/
structure PerlClass where
  span : Span
  kind : PerlKind
  negated : Bool
  deriving Repr, Inhabited

/-- What a Unicode class `\p` names. -/
inductive UnicodeName where
  /-- `\pL`: a one-letter name. -/
  | letter (c : Char)
  /-- `\p{Greek}`: a property, category or script. -/
  | named (name : String)
  /-- `\p{sc=Greek}`, `\p{sc:Greek}` or `\p{sc!=Greek}` (which negates). -/
  | value (notEqual : Bool) (property value : String)
  deriving Repr, Inhabited

/-- A Unicode class `\p{...}`, or `\P{...}` when negated. -/
structure UnicodeClass where
  span : Span
  negated : Bool
  name : UnicodeName
  deriving Repr, Inhabited

/-- Whether a Unicode class matches the complement of what it names: `\P` and `!=` each negate. -/
def UnicodeClass.isNegated (u : UnicodeClass) : Bool :=
  match u.name with
  | .value true _ _ => !u.negated
  | _ => u.negated

/-- The ASCII classes written `[:name:]` inside brackets. -/
inductive AsciiKind where
  | alnum
  | alpha
  | ascii
  | blank
  | cntrl
  | digit
  | graph
  | lower
  | print
  | punct
  | space
  | upper
  | word
  | xdigit
  deriving Repr, BEq, Inhabited

/-- The ASCII class of a name. -/
def AsciiKind.ofName : String → Option AsciiKind
  | "alnum" => some .alnum
  | "alpha" => some .alpha
  | "ascii" => some .ascii
  | "blank" => some .blank
  | "cntrl" => some .cntrl
  | "digit" => some .digit
  | "graph" => some .graph
  | "lower" => some .lower
  | "print" => some .print
  | "punct" => some .punct
  | "space" => some .space
  | "upper" => some .upper
  | "word" => some .word
  | "xdigit" => some .xdigit
  | _ => none

/-- An ASCII class `[:name:]`, or `[:^name:]` when negated. -/
structure AsciiClass where
  span : Span
  kind : AsciiKind
  negated : Bool
  deriving Repr, Inhabited

/-- The set operations of bracketed classes. -/
inductive SetOp where
  | intersection
  | difference
  | symmetricDifference
  deriving Repr, BEq, Inhabited

/-- The contents of a bracketed class. -/
inductive ClassSet where
  /-- Nothing, as between `&&` and `]` in `[a&&]`. -/
  | empty (span : Span)
  | literal (l : Literal)
  | range (span : Span) (lo hi : Literal)
  | ascii (c : AsciiClass)
  | unicode (c : UnicodeClass)
  | perl (c : PerlClass)
  /-- A nested bracketed class. -/
  | bracketed (span : Span) (negated : Bool) (body : ClassSet)
  /-- Two or more items side by side. -/
  | union (span : Span) (items : List ClassSet)
  | binary (span : Span) (op : SetOp) (lhs rhs : ClassSet)
  deriving Repr, Inhabited

/-- The span of class contents. -/
def ClassSet.span : ClassSet → Span
  | .empty s => s
  | .literal l => l.span
  | .range s _ _ => s
  | .ascii c => c.span
  | .unicode c => c.span
  | .perl c => c.span
  | .bracketed s _ _ => s
  | .union s _ => s
  | .binary s _ _ _ => s

/-- How many rounds a repetition asks for. -/
inductive RepetitionKind where
  /-- `?` -/
  | zeroOrOne
  /-- `*` -/
  | zeroOrMore
  /-- `+` -/
  | oneOrMore
  /-- `{n}` -/
  | exactly (n : Nat)
  /-- `{n,}` -/
  | atLeast (n : Nat)
  /-- `{m,n}` -/
  | bounded (m n : Nat)
  deriving Repr, Inhabited

/-- What a group does with what it matches. -/
inductive GroupKind where
  /-- `(...)`: captured under its number. -/
  | capture (index : Nat)
  /-- `(?P<name>...)` or `(?<name>...)`: captured under its number and name. -/
  | named (name : String) (index : Nat)
  /-- `(?flags:...)`: not captured; the flags hold inside it. -/
  | plain (flags : Flags)
  deriving Repr, Inhabited

/-- A parsed pattern. -/
inductive Ast where
  | empty (span : Span)
  /-- `(?flags)`: the flags hold for the rest of the enclosing group. -/
  | flags (span : Span) (flags : Flags)
  | literal (l : Literal)
  | dot (span : Span)
  | assertion (span : Span) (kind : AssertionKind)
  | unicodeClass (c : UnicodeClass)
  | perlClass (c : PerlClass)
  | bracketed (span : Span) (negated : Bool) (body : ClassSet)
  | repetition (span opSpan : Span) (kind : RepetitionKind) (greedy : Bool) (body : Ast)
  | group (span : Span) (kind : GroupKind) (body : Ast)
  | alternation (span : Span) (branches : List Ast)
  | concat (span : Span) (items : List Ast)
  deriving Repr, Inhabited

/-- The span of a node. -/
def Ast.span : Ast → Span
  | .empty s => s
  | .flags s _ => s
  | .literal l => l.span
  | .dot s => s
  | .assertion s _ => s
  | .unicodeClass c => c.span
  | .perlClass c => c.span
  | .bracketed s _ _ => s
  | .repetition s _ _ _ _ => s
  | .group s _ _ => s
  | .alternation s _ => s
  | .concat s _ => s

end DataQuality.Pattern
