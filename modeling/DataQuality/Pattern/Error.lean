import DataQuality.Pattern.Ast

/-!
# Regular expressions: refusals

A pattern is refused when it does not read (a syntax fault), when what it says cannot be given
a meaning (an unknown property, a class that could match a broken character), or when its
compiled form would be too large.  A syntax or meaning fault points at the span of the pattern
where it was found, and some also at a second span (the first of two duplicates).

The rendering shows the pattern with carets under the spans.  A pattern of one line is indented
by four spaces; a pattern of several lines is framed by lines of 79 tildes and each line is
numbered, the numbers padded to one width.  A span marks at least one column.
-/

namespace DataQuality.Pattern

/-- Why a pattern is refused before it is compiled. -/
inductive ErrorKind where
  | captureLimitExceeded
  | classEscapeInvalid
  | classRangeInvalid
  | classRangeLiteral
  | classUnclosed
  | decimalEmpty
  | decimalInvalid
  | escapeHexEmpty
  | escapeHexInvalid
  | escapeHexInvalidDigit
  | escapeUnexpectedEof
  | escapeUnrecognized
  | flagDanglingNegation
  | flagDuplicate (original : Span)
  | flagRepeatedNegation (original : Span)
  | flagUnexpectedEof
  | flagUnrecognized
  | groupNameDuplicate (original : Span)
  | groupNameEmpty
  | groupNameInvalid
  | groupNameUnexpectedEof
  | groupUnclosed
  | groupUnopened
  | nestLimitExceeded (limit : Nat)
  | repetitionCountInvalid
  | repetitionCountDecimalEmpty
  | repetitionCountUnclosed
  | repetitionMissing
  | specialWordBoundaryUnclosed
  | specialWordBoundaryUnrecognized
  | specialWordOrRepetitionUnexpectedEof
  | unicodeClassInvalid
  | unsupportedBackreference
  | unsupportedLookAround
  /-- A Unicode class where Unicode is switched off. -/
  | unicodeNotAllowed
  /-- Something that could match part of a character's encoding. -/
  | invalidUtf8
  | unicodePropertyNotFound
  | unicodePropertyValueNotFound
  deriving Repr, Inhabited

/-- The sentence that names a fault. -/
def ErrorKind.message : ErrorKind → String
  | .captureLimitExceeded => "exceeded the maximum number of capturing groups (4294967295)"
  | .classEscapeInvalid => "invalid escape sequence found in character class"
  | .classRangeInvalid => "invalid character class range, the start must be <= the end"
  | .classRangeLiteral => "invalid range boundary, must be a literal"
  | .classUnclosed => "unclosed character class"
  | .decimalEmpty => "decimal literal empty"
  | .decimalInvalid => "decimal literal invalid"
  | .escapeHexEmpty => "hexadecimal literal empty"
  | .escapeHexInvalid => "hexadecimal literal is not a Unicode scalar value"
  | .escapeHexInvalidDigit => "invalid hexadecimal digit"
  | .escapeUnexpectedEof => "incomplete escape sequence, reached end of pattern prematurely"
  | .escapeUnrecognized => "unrecognized escape sequence"
  | .flagDanglingNegation => "dangling flag negation operator"
  | .flagDuplicate _ => "duplicate flag"
  | .flagRepeatedNegation _ => "flag negation operator repeated"
  | .flagUnexpectedEof => "expected flag but got end of regex"
  | .flagUnrecognized => "unrecognized flag"
  | .groupNameDuplicate _ => "duplicate capture group name"
  | .groupNameEmpty => "empty capture group name"
  | .groupNameInvalid => "invalid capture group character"
  | .groupNameUnexpectedEof => "unclosed capture group name"
  | .groupUnclosed => "unclosed group"
  | .groupUnopened => "unopened group"
  | .nestLimitExceeded limit =>
    "exceed the maximum number of nested parentheses/brackets (" ++ toString limit ++ ")"
  | .repetitionCountInvalid => "invalid repetition count range, the start must be <= the end"
  | .repetitionCountDecimalEmpty => "repetition quantifier expects a valid decimal"
  | .repetitionCountUnclosed => "unclosed counted repetition"
  | .repetitionMissing => "repetition operator missing expression"
  | .specialWordBoundaryUnclosed =>
    "special word boundary assertion is either unclosed or contains an invalid character"
  | .specialWordBoundaryUnrecognized =>
    "unrecognized special word boundary assertion, valid choices are: start, end, start-half " ++
      "or end-half"
  | .specialWordOrRepetitionUnexpectedEof =>
    "found either the beginning of a special word boundary or a bounded repetition on a \\b " ++
      "with an opening brace, but no closing brace"
  | .unicodeClassInvalid => "invalid Unicode character class"
  | .unsupportedBackreference => "backreferences are not supported"
  | .unsupportedLookAround => "look-around, including look-ahead and look-behind, is not supported"
  | .unicodeNotAllowed => "Unicode not allowed here"
  | .invalidUtf8 => "pattern can match invalid UTF-8"
  | .unicodePropertyNotFound => "Unicode property not found"
  | .unicodePropertyValueNotFound => "Unicode property value not found"

/-- The second span a fault points at, if any. -/
def ErrorKind.auxiliary : ErrorKind → Option Span
  | .flagDuplicate s => some s
  | .flagRepeatedNegation s => some s
  | .groupNameDuplicate s => some s
  | _ => none

/-- A fault and the span where it was found. -/
structure Fault where
  kind : ErrorKind
  span : Span
  deriving Repr, Inhabited

/-- The lines of a text: split at line feeds, with a carriage return just before a line feed
dropped, and no empty line after a final line feed. -/
def textLines (s : String) : List String :=
  let parts := s.splitOn "\n"
  parts.zipIdx.filterMap fun (p, i) =>
    if i + 1 == parts.length then (if p.isEmpty then none else some p)
    else some (if p.endsWith "\r" then String.ofList p.toList.dropLast else p)

/-- A run of one character. -/
def repeatChar (c : Char) (n : Nat) : String :=
  String.ofList (List.replicate n c)

/-- Whether the first span starts before the second, or at the same place and ends first. -/
def Span.before (a b : Span) : Bool :=
  a.start.offset < b.start.offset ||
    (a.start.offset == b.start.offset && a.stop.offset ≤ b.stop.offset)

/-- The caret line for the spans of one line, after `pad` spaces: each span is marked from its
starting column, by at least one caret. -/
def caretLine (pad : Nat) (spans : List Span) : String :=
  let step := fun (acc : String × Nat) (s : Span) =>
    let (text, pos) := acc
    let gap := s.start.column - 1 - pos
    let width := max 1 (s.stop.column - s.start.column)
    (text ++ repeatChar ' ' gap ++ repeatChar '^' width, pos + gap + width)
  (spans.foldl step (repeatChar ' ' pad, 0)).1

/-- The pattern with the spans marked under their lines. -/
def notate (pattern : String) (spans : List Span) : String :=
  let lines := textLines pattern
  let count := lines.length + (if pattern.endsWith "\n" then 1 else 0)
  let width := if count ≤ 1 then 0 else (toString count).length
  let pad := if width == 0 then 4 else 2 + width
  let oneLine := spans.filter fun s => s.start.line == s.stop.line
  let sorted := oneLine.mergeSort Span.before
  String.join <| lines.zipIdx.map fun (line, i) =>
    let head :=
      if width == 0 then "    "
      else repeatChar ' ' (width - (toString (i + 1)).length) ++ toString (i + 1) ++ ": "
    let mine := sorted.filter (·.start.line == i + 1)
    head ++ line ++ "\n" ++ (if mine.isEmpty then "" else caretLine pad mine ++ "\n")

/-- The notes for spans that cross lines. -/
def crossLineNotes (spans : List Span) : List String :=
  (spans.filter fun s => s.start.line != s.stop.line).mergeSort Span.before |>.map fun s =>
    "on line " ++ toString s.start.line ++ " (column " ++ toString s.start.column ++
      ") through line " ++ toString s.stop.line ++ " (column " ++ toString (s.stop.column - 1) ++ ")"

/-- The full text of a fault in a pattern. -/
def Fault.render (f : Fault) (pattern : String) : String :=
  let spans := f.span :: f.kind.auxiliary.toList
  let notated := notate pattern spans
  if pattern.contains '\n' then
    let divider := repeatChar '~' 79
    let notes := crossLineNotes spans
    "regex parse error:\n" ++ divider ++ "\n" ++ notated ++ divider ++ "\n" ++
      (if notes.isEmpty then "" else "\n".intercalate notes ++ "\n") ++
      "error: " ++ f.kind.message
  else
    "regex parse error:\n" ++ notated ++ "error: " ++ f.kind.message

end DataQuality.Pattern
