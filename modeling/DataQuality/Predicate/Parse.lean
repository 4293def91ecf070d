import DataQuality.Predicate.Basic
import DataQuality.Pattern.Match
import DataQuality.Scan.Error

/-!
# Reading predicates

The text of a predicate is read form by form, the first form that fits winning:

1. a conjunction: parts joined by `AND` (any case, blanks around it) outside single quotes,
   where the `AND` of a `BETWEEN` stays with it;
2. `col IS NULL OR rest`;
3. `col IS [NOT] NULL`;
4. `col = ANY(ARRAY[v, …])` and `col IN (v, …)`;
5. `col BETWEEN lo AND hi`, both bounds numbers;
6. `col op rhs` with `op` one of `==`, `!=`, `<>`, `>=`, `<=`, `=`, `>`, `<`.

Outer parentheses around a whole expression are dropped when they pair with each other.
Column names are words (letters, digits, marks, underscores) and are kept in lower case.
Literals lose their blanks, a cast `::type`, and one pair of single quotes.

Reading is written over `Patterns`, what a regular-expression engine answers for each pattern of
the language; `parse` reads with the patterns as compiled and run here.
-/

namespace DataQuality

open Pattern

namespace Predicate

/-- A fixed pattern of the language; each of them reads. -/
def fixedPattern (source : String) : Option Regex :=
  (Regex.compile source).toOption

/-- The `AND` between parts of a conjunction. -/
def conjunctionPattern : Option Regex := fixedPattern "(?i)\\s+and\\s+"

/-- A text ending in `BETWEEN x`, still waiting for its upper bound. -/
def openBetweenPattern : Option Regex := fixedPattern "(?i)\\bbetween\\s+\\S+$"

/-- `col IS NULL OR rest`. -/
def nullOrPattern : Option Regex := fixedPattern "(?i)^\\s*(\\w+)\\s+is\\s+null\\s+or\\s+(.+)$"

/-- `col IS [NOT] NULL`. -/
def isNullPattern : Option Regex := fixedPattern "(?i)^\\s*(\\w+)\\s+is\\s+(not\\s+)?null\\s*$"

/-- `col IN (list)`. -/
def inListPattern : Option Regex := fixedPattern "(?i)^\\s*(\\w+)\\s+in\\s*\\(([^\\)]+)\\)\\s*$"

/-- `col = ANY(ARRAY[list])`. -/
def anyArrayPattern : Option Regex :=
  fixedPattern "(?i)^\\s*(\\w+)\\s*=\\s*any\\s*\\(array\\[([^\\]]+)\\]\\)\\s*$"

/-- `col BETWEEN lo AND hi`. -/
def betweenPattern : Option Regex :=
  fixedPattern "(?i)^\\s*(\\w+)\\s+between\\s+(\\S+)\\s+and\\s+(\\S+)\\s*$"

/-- `col op rhs`, the right side a quoted text or a run of non-blanks. -/
def comparisonPattern : Option Regex :=
  fixedPattern "^\\s*(\\w+)\\s*(==|!=|<>|>=|<=|=|>|<)\\s*('[^']*'|\\S+)\\s*$"

/-- The groups of the match of a pattern in a text, by number, if it matches. -/
def groupsOf (pattern : Option Regex) (text : String) : Option (Nat → Option String) :=
  pattern.bind fun r =>
    let chars := text.toList.toArray
    (r.capturesFrom chars 0).map fun slots k => groupText chars slots k

/-- Whether a pattern matches somewhere in a text. -/
def found (pattern : Option Regex) (text : String) : Bool :=
  (groupsOf pattern text).isSome

/-- The patterns of the language as an engine runs them: for each form, the groups of the
pattern's leftmost match in a text; for the `AND` of conjunctions, the spans of its successive
matches; for the open `BETWEEN`, whether it matches. -/
structure Patterns where
  conjunction : String → List (Nat × Nat)
  openBetween : String → Bool
  nullOr : String → Option (Nat → Option String)
  isNull : String → Option (Nat → Option String)
  inList : String → Option (Nat → Option String)
  anyArray : String → Option (Nat → Option String)
  between : String → Option (Nat → Option String)
  comparison : String → Option (Nat → Option String)

/-- The patterns as this library's engine compiles and runs them. -/
def Patterns.compiled : Patterns where
  conjunction text := (conjunctionPattern.map (·.findAll text)).getD []
  openBetween := found openBetweenPattern
  nullOr := groupsOf nullOrPattern
  isNull := groupsOf isNullPattern
  inList := groupsOf inListPattern
  anyArray := groupsOf anyArrayPattern
  between := groupsOf betweenPattern
  comparison := groupsOf comparisonPattern

/-- Whether the parentheses of a text pair up: the depth never drops below zero and ends at
zero. -/
def balanced (s : String) : Bool :=
  go s.toList 0
where
  go : List Char → Nat → Bool
    | [], depth => depth == 0
    | '(' :: rest, depth => go rest (depth + 1)
    | ')' :: rest, depth => if depth == 0 then false else go rest (depth - 1)
    | _ :: rest, depth => go rest depth

/-- Drops the blanks around a text and then, as long as the whole is one parenthesised group,
its outer parentheses and the blanks inside them.  Each round takes two characters, so the
length bounds the rounds. -/
def unwrap (s : String) : String :=
  go (s.length + 1) (Text.trim s)
where
  go : Nat → String → String
    | 0, s => s
    | fuel + 1, s =>
      let cs := s.toList
      let inner := String.ofList (cs.drop 1).dropLast
      if cs.head? == some '(' && cs.getLast? == some ')' && balanced inner then
        go fuel (Text.trim inner)
      else s

/-- The characters before the first `::`, if there is one. -/
def beforeCast : List Char → Option (List Char)
  | ':' :: ':' :: _ => some []
  | c :: rest => (beforeCast rest).map (c :: ·)
  | [] => none

/-- The text inside one pair of single quotes, or the text itself when it is not so quoted. -/
def unquote (s : String) : String :=
  let cs := s.toList
  if cs.length ≥ 2 && cs.head? == some '\'' && cs.getLast? == some '\'' then
    String.ofList (cs.drop 1).dropLast
  else s

/-- A literal as written in a list or a bound: without blanks, without a cast, unquoted. -/
def literal (value : String) : String :=
  let t := Text.trim value
  let bare := match beforeCast t.toList with
    | some left => Text.trim (String.ofList left)
    | none => t
  unquote bare

/-- One character of a list of literals: a quote opens or closes a quoted text, a comma outside
quotes ends a literal, and every other character goes to the current one. -/
def splitStep (acc : Array String × String × Bool) (c : Char) : Array String × String × Bool :=
  let (values, current, quoted) := acc
  if c == '\'' then (values, current.push c, !quoted)
  else if c == ',' && !quoted then (values.push (literal current), "", quoted)
  else (values, current.push c, quoted)

/-- Splits a list of literals at the commas outside single quotes. -/
def splitList (list : String) : List String :=
  let (values, current, _) := list.toList.foldl splitStep (#[], "", false)
  (values.push (literal current)).toList

/-- The right side of a comparison: a quoted text, else a number, else `true` or `false` in any
case, else the name of a column. -/
def operand (rhs : String) : Operand :=
  let cs := rhs.toList
  if cs.length ≥ 2 && cs.head? == some '\'' && cs.getLast? == some '\'' then
    .text (String.ofList (cs.drop 1).dropLast)
  else match Decimal.readFloat? rhs with
    | some x => .number x
    | none =>
      if Text.equalsIgnoringAsciiCase rhs "true" then .bool true
      else if Text.equalsIgnoringAsciiCase rhs "false" then .bool false
      else .column (Text.toLower rhs)

/-- The parts of a conjunction, if the text is one.  The text is cut at each `AND` that has an
even number of quotes before it; a part that follows one ending in `BETWEEN x` is joined back
to it; empty parts are dropped; one part alone is no conjunction. -/
def conjuncts (P : Patterns) (expr : String) : Option (List String) :=
  let chars := expr.toList
  let slice := fun (a b : Nat) => String.ofList ((chars.drop a).take (b - a))
  let spans := (P.conjunction expr).filter
    fun span => (chars.take span.1).count '\'' % 2 == 0
  let attach := fun (parts : Array String) (piece : String) =>
    match parts.back? with
    | some previous =>
      if P.openBetween previous then parts.pop.push (previous ++ " AND " ++ piece)
      else parts.push piece
    | none => parts.push piece
  let (parts, last) := spans.foldl
    (fun (acc : Array String × Nat) span => (attach acc.1 (Text.trim (slice acc.2 span.1)), span.2))
    (#[], 0)
  let parts := (attach parts (Text.trim (slice last chars.length))).toList.filter (!·.isEmpty)
  if parts.length > 1 then some parts else none

/-- `col IS NULL OR rest`, as the column and the rest. -/
def nullOrForm (P : Patterns) (expr : String) : Option (String × String) := do
  let g ← P.nullOr expr
  pure (Text.toLower (← g 1), Text.trim (← g 2))

/-- `col IS [NOT] NULL`, as the column and whether `NOT` is there. -/
def isNullForm (P : Patterns) (expr : String) : Option (String × Bool) := do
  let g ← P.isNull expr
  pure (Text.toLower (← g 1), (g 2).isSome)

/-- A list form read by a pattern, as the column and the literals. -/
def listForm (groups : String → Option (Nat → Option String)) (expr : String) :
    Option (String × List String) := do
  let g ← groups expr
  pure (Text.toLower (← g 1), splitList (← g 2))

/-- `col BETWEEN lo AND hi`, as the column and the two literals. -/
def betweenForm (P : Patterns) (expr : String) : Option (String × String × String) := do
  let g ← P.between expr
  pure (Text.toLower (← g 1), literal (← g 2), literal (← g 3))

/-- `col op rhs`, as the column, the operator symbol and the right side. -/
def comparisonForm (P : Patterns) (expr : String) : Option (String × String × String) := do
  let g ← P.comparison expr
  pure (Text.toLower (← g 1), ← g 2, Text.trim (← g 3))

/-- Reads a predicate, trying the forms in order.  Every nested read is of a strictly shorter
text, so `fuel` at the length of the text suffices. -/
def read (P : Patterns) : Nat → String → Option Predicate
  | 0, _ => none
  | fuel + 1, text =>
    let expr := unwrap text
    match conjuncts P expr with
    | some parts => all <$> parts.mapM (read P fuel)
    | none =>
    match nullOrForm P expr with
    | some (c, rest) => nullOr c <$> read P fuel rest
    | none =>
    match isNullForm P expr with
    | some (c, negated) => some (isNull c negated)
    | none =>
    match listForm P.anyArray expr with
    | some (c, values) => some (among c values)
    | none =>
    match listForm P.inList expr with
    | some (c, values) => some (among c values)
    | none =>
    match betweenForm P expr with
    | some (c, lo, hi) => do
      pure (between c (← Decimal.readFloat? lo) (← Decimal.readFloat? hi))
    | none =>
    match comparisonForm P expr with
    | some (c, op, rhs) => do pure (compare c (← CompareOp.ofSymbol? op) (operand rhs))
    | none => none

/-- Reads a predicate with the given patterns; text that is empty after unwrapping, or fits no
form, is refused as an unsupported expression. -/
def parseWith (P : Patterns) (expression : String) : Except ScanError Predicate :=
  let expr := unwrap expression
  if expr.isEmpty then .error (.unsupportedExpression expression)
  else match read P (expr.length + 1) expr with
    | some p => .ok p
    | none => .error (.unsupportedExpression expression)

/-- Reads a predicate with the patterns as compiled here. -/
def parse (expression : String) : Except ScanError Predicate :=
  parseWith .compiled expression

end Predicate

end DataQuality
