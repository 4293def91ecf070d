import DataQuality.Pattern.Error
import DataQuality.Text.Word
import DataQuality.Text.Blank

/-!
# Regular expressions: reading a pattern

The reader walks the pattern once, left to right, and builds the syntax tree; the first fault
it meets stops it.  Groups and alternations open while reading are kept on a stack, and so are
the brackets and set operations of a class.  With the flag `x` white space and `#` comments
between tokens are skipped.

After reading, the tree is checked for depth: groups, repetitions, alternations,
concatenations, brackets, unions and set operations may nest at most 250 deep.

Every loop consumes at least one character per round, so the length of the pattern bounds the
rounds; each loop carries that bound as fuel.
-/

namespace DataQuality.Pattern

/-- A concatenation being read: its span so far and its items, the last first. -/
structure Concat where
  span : Span
  items : List Ast

/-- The tree of a concatenation: nothing, its single item, or the concatenation. -/
def Concat.toAst (c : Concat) : Ast :=
  match c.items with
  | [] => .empty c.span
  | [a] => a
  | items => .concat c.span items.reverse

/-- The union of class items being read: its span so far and its items, the last first. -/
structure Union where
  span : Span
  items : List ClassSet

/-- Adds an item to a union, stretching its span. -/
def Union.push (u : Union) (item : ClassSet) : Union :=
  let start := if u.items.isEmpty then item.span.start else u.span.start
  { span := ⟨start, item.span.stop⟩, items := item :: u.items }

/-- The class contents of a union: nothing, its single item, or the union. -/
def Union.toSet (u : Union) : ClassSet :=
  match u.items with
  | [] => .empty u.span
  | [a] => a
  | items => .union u.span items.reverse

/-- What stands open while reading outside classes. -/
inductive GroupFrame where
  /-- An open group, with the concatenation before it and the white-space mode outside it. -/
  | group (before : Concat) (span : Span) (kind : GroupKind) (ignoreSpace : Bool)
  /-- An open alternation, with its branches so far, the last first. -/
  | alternation (span : Span) (branches : List Ast)

/-- What stands open while reading a class. -/
inductive ClassFrame where
  /-- An open bracket: the union outside it, and its own span and negation. -/
  | bracket (outside : Union) (span : Span) (negated : Bool)
  /-- A set operation waiting for its right side. -/
  | operation (op : SetOp) (lhs : ClassSet)

/-- The state of the reader. -/
structure Reader where
  chars : Array Char
  pos : Position := ⟨0, 1, 1⟩
  ignoreSpace : Bool := false
  captures : Nat := 0
  names : List (String × Span) := []
  groups : List GroupFrame := []
  classes : List ClassFrame := []

/-- A step of the reader. -/
abbrev ReadM := StateT Reader (Except Fault)

/-- Stops reading with a fault. -/
def failAt {α : Type} (span : Span) (kind : ErrorKind) : ReadM α :=
  throw ⟨kind, span⟩

/-- The current position. -/
def position : ReadM Position := do return (← get).pos

/-- Whether the whole pattern has been read. -/
def atEnd : ReadM Bool := do
  let r ← get
  return r.pos.offset ≥ r.chars.size

/-- The current character (a NUL past the end, where the reader never looks). -/
def current : ReadM Char := do
  let r ← get
  return r.chars.getD r.pos.offset '\x00'

/-- The character after the current one. -/
def peekChar : ReadM (Option Char) := do
  let r ← get
  if r.pos.offset ≥ r.chars.size then return none
  return r.chars[r.pos.offset + 1]?

/-- The empty span at the current position. -/
def here : ReadM Span := do return Span.at (← position)

/-- The position after a character at a position. -/
def Position.after (p : Position) (c : Char) : Position :=
  if c = '\n' then ⟨p.offset + 1, p.line + 1, 1⟩ else ⟨p.offset + 1, p.line, p.column + 1⟩

/-- The span of the current character. -/
def charSpan : ReadM Span := do
  let p ← position
  return ⟨p, p.after (← current)⟩

/-- Moves past the current character; tells whether a character follows. -/
def bump : ReadM Bool := do
  if ← atEnd then return false
  let c ← current
  modify fun r => { r with pos := r.pos.after c }
  return !(← atEnd)

/-- Moves to a position read before. -/
def moveTo (p : Position) : ReadM Unit :=
  modify fun r => { r with pos := p }

/-- Skips to the end of a comment line, the line feed included. -/
def skipComment : Nat → ReadM Unit
  | 0 => pure ()
  | fuel + 1 => do
    if ← atEnd then return
    let c ← current
    let _ ← bump
    if c = '\n' then return
    skipComment fuel

/-- Skips white space and comments when the flag `x` is on. -/
def skipSpace : Nat → ReadM Unit
  | 0 => pure ()
  | fuel + 1 => do
    if !(← get).ignoreSpace then return
    if ← atEnd then return
    let c ← current
    if Text.isBlank c then
      let _ ← bump
      skipSpace fuel
    else if c = '#' then
      let _ ← bump
      skipComment (← get).chars.size
      skipSpace fuel
    else return

/-- The fuel for a loop over the pattern. -/
def budget : ReadM Nat := do return (← get).chars.size + 1

/-- Skips white space and comments when the flag `x` is on. -/
def bumpSpace : ReadM Unit := do skipSpace (← budget)

/-- Moves past the current character and any white space after it; tells whether a character
follows. -/
def bumpAndSpace : ReadM Bool := do
  if !(← bump) then return false
  bumpSpace
  return !(← atEnd)

/-- Whether the rest of the pattern starts with a text; if so, moves past it. -/
def bumpIf (s : String) : ReadM Bool := do
  let r ← get
  let cs := s.toList
  if (r.chars.toList.drop r.pos.offset).take cs.length == cs then
    for _ in cs do
      let _ ← bump
    return true
  else return false

/-- The next character after the current one that is not skipped as white space or comment
start when the flag `x` is on. -/
def peekSpace : ReadM (Option Char) := do
  let r ← get
  if !r.ignoreSpace then return ← peekChar
  if r.pos.offset ≥ r.chars.size then return none
  let rest := r.chars.toList.drop (r.pos.offset + 1)
  let pick := fun (st : Bool × Option Char) (c : Char) =>
    match st with
    | (_, some found) => (true, some found)
    | (inComment, none) =>
      if Text.isBlank c then (inComment, none)
      else if !inComment && c = '#' then (true, none)
      else if inComment && c = '\n' then (false, none)
      else (inComment, some c)
  match (rest.foldl pick (false, none)).2 with
  | some c => return some c
  | none => return rest.head?

/-- A piece read by the primitive readers. -/
inductive Primitive where
  | literal (l : Literal)
  | assertion (span : Span) (kind : AssertionKind)
  | dot (span : Span)
  | perl (c : PerlClass)
  | unicode (c : UnicodeClass)

/-- The span of a primitive. -/
def Primitive.span : Primitive → Span
  | .literal l => l.span
  | .assertion s _ => s
  | .dot s => s
  | .perl c => c.span
  | .unicode c => c.span

/-- The tree of a primitive. -/
def Primitive.toAst : Primitive → Ast
  | .literal l => .literal l
  | .assertion s k => .assertion s k
  | .dot s => .dot s
  | .perl c => .perlClass c
  | .unicode c => .unicodeClass c

/-- A primitive as an item of a class: assertions have no place there. -/
def Primitive.toClassItem : Primitive → ReadM ClassSet
  | .literal l => pure (.literal l)
  | .perl c => pure (.perl c)
  | .unicode c => pure (.unicode c)
  | p => failAt p.span .classEscapeInvalid

/-- A primitive as an end of a range: only characters. -/
def Primitive.toRangeEnd : Primitive → ReadM Literal
  | .literal l => pure l
  | p => failAt p.span .classRangeLiteral

/-- The characters that have a meaning in patterns. -/
def isMetaCharacter (c : Char) : Bool :=
  "\\.+*?()|[]{}^$#&-~".toList.contains c

/-- The characters that may be escaped to stand for themselves: the meta characters and the
ASCII characters other than letters, digits, `<` and `>`. -/
def isEscapable (c : Char) : Bool :=
  isMetaCharacter c || (c.toNat < 128 && !c.isAlphanum && c ≠ '<' && c ≠ '>')

/-- Whether a character is a hex digit. -/
def isHexDigit (c : Char) : Bool :=
  c.isDigit || ('a' ≤ c && c ≤ 'f') || ('A' ≤ c && c ≤ 'F')

/-- The value of hex digits. -/
def hexValue (ds : List Char) : Nat :=
  ds.foldl (fun n c =>
    let d := if c.isDigit then c.toNat - 48 else if 'a' ≤ c && c ≤ 'f' then c.toNat - 87
      else c.toNat - 55
    16 * n + d) 0

/-- The character of a code, if the code is a Unicode scalar value. -/
def scalarOf? (n : Nat) : Option Char :=
  if n < 0xD800 ∨ (0xDFFF < n ∧ n < 0x110000) then some (Char.ofNat n) else none

/-- Reads hex digits of a fixed count: two after `\x`, four after `\u`, eight after `\U`. -/
def hexDigitsFrom (count : Nat) (i : Nat) (acc : List Char) : Nat → ReadM (List Char)
  | 0 => pure acc.reverse
  | fuel + 1 => do
    if i ≥ count then return acc.reverse
    if i > 0 then
      if !(← bumpAndSpace) then failAt (← here) .escapeUnexpectedEof
    let c ← current
    if !isHexDigit c then failAt (← charSpan) .escapeHexInvalidDigit
    hexDigitsFrom count (i + 1) (c :: acc) fuel

/-- Reads a hex escape with a fixed count of digits; `start` is where the digits begin. -/
def parseHexDigits (count : Nat) (byteForm : Bool) : ReadM Literal := do
  let start ← position
  let digits ← hexDigitsFrom count 0 [] (count + 1)
  let _ ← bumpAndSpace
  let stop ← position
  match scalarOf? (hexValue digits) with
  | some c => return { span := ⟨start, stop⟩, char := c, byteEscape := byteForm }
  | none => failAt ⟨start, stop⟩ .escapeHexInvalid

/-- Reads hex digits up to a closing brace. -/
def braceDigits (acc : List Char) : Nat → ReadM (List Char)
  | 0 => pure acc.reverse
  | fuel + 1 => do
    if !(← bumpAndSpace) then return acc.reverse
    let c ← current
    if c = '}' then return acc.reverse
    if !isHexDigit c then failAt (← charSpan) .escapeHexInvalidDigit
    braceDigits (c :: acc) fuel

/-- Reads a hex escape in braces, `\x{...}`. -/
def parseHexBrace : ReadM Literal := do
  let bracePos ← position
  let start := (← charSpan).stop
  let digits ← braceDigits [] (← budget)
  if ← atEnd then failAt ⟨bracePos, ← position⟩ .escapeUnexpectedEof
  let stop ← position
  let _ ← bumpAndSpace
  if digits.isEmpty then failAt ⟨bracePos, ← position⟩ .escapeHexEmpty
  match scalarOf? (hexValue digits) with
  | some c => return { span := ⟨start, ← position⟩, char := c }
  | none => failAt ⟨start, stop⟩ .escapeHexInvalid

/-- Reads a hex escape after its letter `x`, `u` or `U`. -/
def parseHex : ReadM Literal := do
  let kind ← current
  let count := if kind = 'x' then 2 else if kind = 'u' then 4 else 8
  if !(← bumpAndSpace) then failAt (← here) .escapeUnexpectedEof
  if (← current) = '{' then parseHexBrace else parseHexDigits count (kind = 'x')

/-- Reads characters up to a closing brace into a name. -/
def braceName (acc : List Char) : Nat → ReadM (List Char)
  | 0 => pure acc.reverse
  | fuel + 1 => do
    if !(← bumpAndSpace) then return acc.reverse
    let c ← current
    if c = '}' then return acc.reverse
    braceName (c :: acc) fuel

/-- The place where a text first occurs in a list of characters. -/
def findText (cs : List Char) (t : List Char) : Option Nat :=
  (List.range (cs.length + 1)).find? fun i => (cs.drop i).take t.length == t

/-- What a name in braces asks for: a value when it holds `!=`, `:` or `=`. -/
def unicodeNameOf (cs : List Char) : UnicodeName :=
  match findText cs ['!', '='] with
  | some i => .value true (String.ofList (cs.take i)) (String.ofList (cs.drop (i + 2)))
  | none =>
    match findText cs [':'] with
    | some i => .value false (String.ofList (cs.take i)) (String.ofList (cs.drop (i + 1)))
    | none =>
      match findText cs ['='] with
      | some i => .value false (String.ofList (cs.take i)) (String.ofList (cs.drop (i + 1)))
      | none => .named (String.ofList cs)

/-- Reads a Unicode class after its letter `p` or `P`. -/
def parseUnicodeClass : ReadM UnicodeClass := do
  let negated := (← current) = 'P'
  if !(← bumpAndSpace) then failAt (← here) .escapeUnexpectedEof
  if (← current) = '{' then
    let start := (← charSpan).stop
    let name ← braceName [] (← budget)
    if ← atEnd then failAt (← here) .escapeUnexpectedEof
    let _ ← bump
    return { span := ⟨start, ← position⟩, negated, name := unicodeNameOf name }
  else
    let start ← position
    let c ← current
    if c = '\\' then failAt (← charSpan) .unicodeClassInvalid
    let _ ← bumpAndSpace
    return { span := ⟨start, ← position⟩, negated, name := .letter c }

/-- Reads a Perl class at its letter. -/
def parsePerlClass : ReadM PerlClass := do
  let c ← current
  let span ← charSpan
  let _ ← bump
  let kind := if c = 'd' ∨ c = 'D' then PerlKind.digit
    else if c = 's' ∨ c = 'S' then .space else .word
  return { span, kind, negated := c = 'D' ∨ c = 'S' ∨ c = 'W' }

/-- Whether a character may appear in the name of a special word boundary. -/
def isBoundaryNameChar (c : Char) : Bool :=
  ('A' ≤ c && c ≤ 'Z') || ('a' ≤ c && c ≤ 'z') || c = '-'

/-- Reads the characters of a special word boundary name. -/
def boundaryName (acc : List Char) : Nat → ReadM (List Char)
  | 0 => pure acc.reverse
  | fuel + 1 => do
    if (← atEnd) || !isBoundaryNameChar (← current) then return acc.reverse
    let c ← current
    let _ ← bumpAndSpace
    boundaryName (c :: acc) fuel

/-- After `\b` at a brace, reads a special word boundary such as `\b{start}`; if the brace does
not start one, goes back to it and gives nothing, so that it reads as a counted repetition. -/
def maybeSpecialBoundary (boundaryStart : Position) : ReadM (Option AssertionKind) := do
  let start ← position
  if !(← bumpAndSpace) then
    failAt ⟨boundaryStart, ← position⟩ .specialWordOrRepetitionUnexpectedEof
  let contentStart ← position
  if !isBoundaryNameChar (← current) then
    moveTo start
    return none
  let name ← boundaryName [] (← budget)
  if (← atEnd) || (← current) ≠ '}' then failAt ⟨start, ← position⟩ .specialWordBoundaryUnclosed
  let stop ← position
  let _ ← bump
  match String.ofList name with
  | "start" => return some .wordStart
  | "end" => return some .wordEnd
  | "start-half" => return some .wordStartHalf
  | "end-half" => return some .wordEndHalf
  | _ => failAt ⟨contentStart, stop⟩ .specialWordBoundaryUnrecognized

/-- Reads an escape at its backslash. -/
def parseEscape : ReadM Primitive := do
  let start ← position
  if !(← bump) then failAt ⟨start, ← position⟩ .escapeUnexpectedEof
  let c ← current
  if c.isDigit then failAt ⟨start, (← charSpan).stop⟩ .unsupportedBackreference
  if c = 'x' ∨ c = 'u' ∨ c = 'U' then
    let l ← parseHex
    return .literal { l with span := ⟨start, l.span.stop⟩ }
  if c = 'p' ∨ c = 'P' then
    let u ← parseUnicodeClass
    return .unicode { u with span := ⟨start, u.span.stop⟩ }
  if "dswDSW".toList.contains c then
    let p ← parsePerlClass
    return .perl { p with span := ⟨start, p.span.stop⟩ }
  let _ ← bump
  let span : Span := ⟨start, ← position⟩
  if isEscapable c then return .literal { span, char := c }
  match c with
  | 'a' => return .literal { span, char := '\x07' }
  | 'f' => return .literal { span, char := '\x0C' }
  | 't' => return .literal { span, char := '\t' }
  | 'n' => return .literal { span, char := '\n' }
  | 'r' => return .literal { span, char := '\r' }
  | 'v' => return .literal { span, char := '\x0B' }
  | 'A' => return .assertion span .startText
  | 'z' => return .assertion span .endText
  | 'b' =>
    if !(← atEnd) && (← current) = '{' then
      match ← maybeSpecialBoundary start with
      | some kind => return .assertion ⟨start, ← position⟩ kind
      | none => return .assertion span .wordBoundary
    else return .assertion span .wordBoundary
  | 'B' => return .assertion span .notWordBoundary
  | '<' => return .assertion span .wordStart
  | '>' => return .assertion span .wordEnd
  | _ => failAt span .escapeUnrecognized

/-- Reads one primitive: an escape, `.`, `^`, `$` or a character. -/
def parsePrimitive : ReadM Primitive := do
  let c ← current
  if c = '\\' then return ← parseEscape
  let span ← charSpan
  let _ ← bump
  match c with
  | '.' => return .dot span
  | '^' => return .assertion span .startLine
  | '$' => return .assertion span .endLine
  | c => return .literal { span, char := c }

/-- Whether a character may stand in a capture name: a letter or `_` first, then also digits,
`.`, `[` and `]`. -/
def isCaptureChar (c : Char) (first : Bool) : Bool :=
  if first then c = '_' || Text.isAlphabetic c
  else c = '_' || c = '.' || c = '[' || c = ']' || Text.isAlphanumeric c

/-- Reads the characters of a capture name up to `>`. -/
def captureNameChars (start : Position) : Nat → ReadM Unit
  | 0 => pure ()
  | fuel + 1 => do
    let c ← current
    if c = '>' then return
    if !isCaptureChar c ((← position).offset == start.offset) then
      failAt (← charSpan) .groupNameInvalid
    if !(← bump) then return
    captureNameChars start fuel

/-- Reads a capture name after `(?P<` or `(?<` and records it. -/
def parseCaptureName : ReadM String := do
  if ← atEnd then failAt (← here) .groupNameUnexpectedEof
  let start ← position
  captureNameChars start (← budget)
  let stop ← position
  if ← atEnd then failAt (← here) .groupNameUnexpectedEof
  let _ ← bump
  let name := String.ofList (((← get).chars.toList.drop start.offset).take (stop.offset - start.offset))
  if name.isEmpty then failAt (Span.at start) .groupNameEmpty
  let span : Span := ⟨start, stop⟩
  match (← get).names.lookup name with
  | some original => failAt span (.groupNameDuplicate original)
  | none =>
    modify fun r => { r with names := (name, span) :: r.names }
    return name

/-- The flag of a letter. -/
def parseFlag : ReadM Flag := do
  match ← current with
  | 'i' => return .caseInsensitive
  | 'm' => return .multiLine
  | 's' => return .dotMatchesNewLine
  | 'U' => return .swapGreed
  | 'u' => return .unicode
  | 'R' => return .crlf
  | 'x' => return .ignoreWhitespace
  | _ => failAt (← charSpan) .flagUnrecognized

/-- Reads flag items up to `:` or `)`; `dangling` is the span of a `-` that no flag followed. -/
def flagItems (items : List (Span × FlagItem)) (dangling : Option Span) :
    Nat → ReadM (List (Span × FlagItem) × Option Span)
  | 0 => pure (items, dangling)
  | fuel + 1 => do
    let c ← current
    if c = ':' ∨ c = ')' then return (items, dangling)
    let span ← charSpan
    let (items, dangling) ←
      if c = '-' then do
        match items.find? (·.2 == .negation) with
        | some (original, _) => failAt span (.flagRepeatedNegation original)
        | none => pure (items ++ [(span, FlagItem.negation)], some span)
      else do
        let f ← parseFlag
        match items.find? (·.2 == .flag f) with
        | some (original, _) => failAt span (.flagDuplicate original)
        | none => pure (items ++ [(span, FlagItem.flag f)], none)
    if !(← bump) then failAt (← here) .flagUnexpectedEof
    flagItems items dangling fuel

/-- Reads the flags of a group. -/
def parseFlags : ReadM Flags := do
  let start ← position
  let (items, dangling) ← flagItems [] none (← budget)
  if let some span := dangling then failAt span .flagDanglingNegation
  return { span := ⟨start, ← position⟩, items }

/-- Takes the next capture number. -/
def nextCapture : ReadM Nat := do
  modify fun r => { r with captures := r.captures + 1 }
  return (← get).captures

/-- What opening a group gives: flags for the rest of the group, or a new group. -/
inductive Opening where
  | setFlags (span : Span) (flags : Flags)
  | group (span : Span) (kind : GroupKind)

/-- Moves past the opening of a look-around, `?=`, `?!`, `?<=` or `?<!`, if one follows. -/
def lookAroundPrefix : ReadM Bool := do
  if ← bumpIf "?=" then return true
  if ← bumpIf "?!" then return true
  if ← bumpIf "?<=" then return true
  bumpIf "?<!"

/-- Moves past the opening of a capture name, `?P<` or `?<`, if one follows. -/
def captureNamePrefix : ReadM Bool := do
  if ← bumpIf "?P<" then return true
  bumpIf "?<"

/-- Reads the opening of a group at `(`. -/
def parseGroup : ReadM Opening := do
  let openSpan ← charSpan
  let _ ← bump
  bumpSpace
  if ← lookAroundPrefix then failAt ⟨openSpan.start, ← position⟩ .unsupportedLookAround
  let inner ← here
  if ← captureNamePrefix then
    let index ← nextCapture
    let name ← parseCaptureName
    return .group openSpan (.named name index)
  else if ← bumpIf "?" then
    if ← atEnd then failAt openSpan .groupUnclosed
    let flags ← parseFlags
    let closing ← current
    let _ ← bump
    if closing = ')' then
      if flags.items.isEmpty then failAt inner .repetitionMissing
      return .setFlags ⟨openSpan.start, ← position⟩ flags
    else return .group openSpan (.plain flags)
  else
    return .group openSpan (.capture (← nextCapture))

/-- Opens a group at `(`, or applies the flags of `(?flags)`. -/
def pushGroup (c : Concat) : ReadM Concat := do
  match ← parseGroup with
  | .setFlags span flags =>
    if let some v := flags.state .ignoreWhitespace then
      modify fun r => { r with ignoreSpace := v }
    return { c with items := .flags span flags :: c.items }
  | .group span kind =>
    let outer := (← get).ignoreSpace
    let inner := match kind with
      | .plain flags => (flags.state .ignoreWhitespace).getD outer
      | _ => outer
    modify fun r => { r with groups := .group c span kind outer :: r.groups, ignoreSpace := inner }
    return { span := ← here, items := [] }

/-- Ends a branch at `|`. -/
def pushAlternate (c : Concat) : ReadM Concat := do
  let p ← position
  let branch := ({ c with span := c.span.withStop p } : Concat).toAst
  modify fun r =>
    match r.groups with
    | .alternation span branches :: rest =>
      { r with groups := .alternation span (branch :: branches) :: rest }
    | groups => { r with groups := .alternation ⟨c.span.start, p⟩ [branch] :: groups }
  let _ ← bump
  return { span := ← here, items := [] }

/-- Closes a group at `)`. -/
def popGroup (c : Concat) : ReadM Concat := do
  let closeSpan ← charSpan
  let (before, span, kind, outer, alt, rest) ← match (← get).groups with
    | .group before span kind outer :: rest => pure (before, span, kind, outer, none, rest)
    | .alternation aspan branches :: .group before span kind outer :: rest =>
      pure (before, span, kind, outer, some (aspan, branches), rest)
    | _ => failAt closeSpan .groupUnopened
  modify fun r => { r with groups := rest, ignoreSpace := outer }
  let stop ← position
  let c := { c with span := c.span.withStop stop }
  let _ ← bump
  let span := span.withStop (← position)
  let body := match alt with
    | some (aspan, branches) =>
      match c.toAst :: branches with
      | [a] => a
      | all => .alternation (aspan.withStop stop) all.reverse
    | none => c.toAst
  return { before with items := .group span kind body :: before.items }

/-- Finishes the pattern: every group must be closed. -/
def popGroupEnd (c : Concat) : ReadM Ast := do
  let p ← position
  let c := { c with span := c.span.withStop p }
  match (← get).groups with
  | [] => return c.toAst
  | [.alternation aspan branches] => return .alternation (aspan.withStop p) (c.toAst :: branches).reverse
  | .alternation _ _ :: .group _ span _ _ :: _ => failAt span .groupUnclosed
  | .group _ span _ _ :: _ => failAt span .groupUnclosed
  | .alternation _ _ :: _ => failAt (Span.at p) .groupUnclosed

/-- Applies `?`, `*` or `+` to the last item. -/
def parseUncountedRepetition (c : Concat) (kind : RepetitionKind) : ReadM Concat := do
  let opStart ← position
  match c.items with
  | [] => failAt (← here) .repetitionMissing
  | (.empty _) :: _ => failAt (← here) .repetitionMissing
  | (.flags _ _) :: _ => failAt (← here) .repetitionMissing
  | ast :: rest =>
    let greedy ← do
      if (← bump) && (← current) = '?' then
        let _ ← bump
        pure false
      else pure true
    let stop ← position
    return { c with items := .repetition (ast.span.withStop stop) ⟨opStart, stop⟩ kind greedy ast :: rest }

/-- Skips white space, without the comment rule. -/
def skipBlanks (spaceToo : Bool) : Nat → ReadM Unit
  | 0 => pure ()
  | fuel + 1 => do
    if (← atEnd) || !(Text.isBlank (← current)) then return
    if spaceToo then let _ ← bumpAndSpace else let _ ← bump
    skipBlanks spaceToo fuel

/-- Reads decimal digits. -/
def decimalDigits (acc : List Char) : Nat → ReadM (List Char)
  | 0 => pure acc.reverse
  | fuel + 1 => do
    if (← atEnd) || !(← current).isDigit then return acc.reverse
    let c ← current
    let _ ← bumpAndSpace
    decimalDigits (c :: acc) fuel

/-- Reads a count of a repetition, with white space around it; an empty count is refused as
`empty` says. -/
def parseDecimal (empty : ErrorKind) : ReadM Nat := do
  skipBlanks false (← budget)
  let start ← position
  let digits ← decimalDigits [] (← budget)
  let span : Span := ⟨start, ← position⟩
  skipBlanks true (← budget)
  if digits.isEmpty then failAt span empty
  let n := digits.foldl (fun (n : Nat) c => 10 * n + (c.toNat - 48)) 0
  if n ≥ 4294967296 then failAt span .decimalInvalid
  return n

/-- Applies a counted repetition `{...}` to the last item. -/
def parseCountedRepetition (c : Concat) : ReadM Concat := do
  let start ← position
  match c.items with
  | [] => failAt (← here) .repetitionMissing
  | (.empty _) :: _ => failAt (← here) .repetitionMissing
  | (.flags _ _) :: _ => failAt (← here) .repetitionMissing
  | ast :: rest =>
    if !(← bumpAndSpace) then failAt ⟨start, ← position⟩ .repetitionCountUnclosed
    let low ← parseDecimal .repetitionCountDecimalEmpty
    if ← atEnd then failAt ⟨start, ← position⟩ .repetitionCountUnclosed
    let kind ← do
      if (← current) = ',' then
        if !(← bumpAndSpace) then failAt ⟨start, ← position⟩ .repetitionCountUnclosed
        if (← current) ≠ '}' then
          let high ← parseDecimal .repetitionCountDecimalEmpty
          pure (RepetitionKind.bounded low high)
        else pure (RepetitionKind.atLeast low)
      else pure (RepetitionKind.exactly low)
    if (← atEnd) || (← current) ≠ '}' then failAt ⟨start, ← position⟩ .repetitionCountUnclosed
    let greedy ← do
      if (← bumpAndSpace) && (← current) = '?' then
        let _ ← bump
        pure false
      else pure true
    let stop ← position
    let opSpan : Span := ⟨start, stop⟩
    if let .bounded m n := kind then
      if m > n then failAt opSpan .repetitionCountInvalid
    return { c with items := .repetition (ast.span.withStop stop) opSpan kind greedy ast :: rest }

/-- The fault of a class left open: it points at the innermost open bracket. -/
def unclosedClass : ReadM Fault := do
  match (← get).classes.findSome? fun
      | .bracket _ span _ => some span
      | .operation _ _ => none with
  | some span => return ⟨.classUnclosed, span⟩
  | none => return ⟨.classUnclosed, ← here⟩

/-- Reads the leading `-` characters of a class, each a literal. -/
def leadingDashes (start : Position) (u : Union) : Nat → ReadM Union
  | 0 => pure u
  | fuel + 1 => do
    if (← current) ≠ '-' then return u
    let u := u.push (.literal { span := ← charSpan, char := '-' })
    if !(← bumpAndSpace) then failAt (Span.at start) .classUnclosed
    leadingDashes start u fuel

/-- Reads the opening of a bracket: `[`, an optional `^`, leading `-` and a first `]`, which are
literals there. -/
def parseClassOpen : ReadM (Span × Bool × Union) := do
  let start ← position
  if !(← bumpAndSpace) then failAt ⟨start, ← position⟩ .classUnclosed
  let negated ← do
    if (← current) ≠ '^' then pure false
    else
      if !(← bumpAndSpace) then failAt ⟨start, ← position⟩ .classUnclosed
      pure true
  let u ← leadingDashes start { span := ← here, items := [] } (← budget)
  let u ← do
    if u.items.isEmpty && (← current) = ']' then
      let u := u.push (.literal { span := ← charSpan, char := ']' })
      if !(← bumpAndSpace) then failAt ⟨start, ← position⟩ .classUnclosed
      pure u
    else pure u
  return (⟨start, ← position⟩, negated, u)

/-- Opens a nested bracket, remembering the union outside it. -/
def pushClassOpen (outside : Union) : ReadM Union := do
  let (span, negated, u) ← parseClassOpen
  modify fun r => { r with classes := .bracket outside span negated :: r.classes }
  return u

/-- Joins a right side to a set operation waiting for it, if one is. -/
def popClassOp (rhs : ClassSet) : ReadM ClassSet := do
  match (← get).classes with
  | .operation op lhs :: rest =>
    modify fun r => { r with classes := rest }
    return .binary ⟨lhs.span.start, rhs.span.stop⟩ op lhs rhs
  | _ => return rhs

/-- Starts a set operation after its left side. -/
def pushClassOp (op : SetOp) (u : Union) : ReadM Union := do
  let lhs ← popClassOp u.toSet
  modify fun r => { r with classes := .operation op lhs :: r.classes }
  return { span := ← here, items := [] }

/-- Closes a bracket at `]`: gives the union outside it with the bracket added, or the whole
class when it was the outermost. -/
def popClass (u : Union) : ReadM (Union ⊕ (Span × Bool × ClassSet)) := do
  let body ← popClassOp u.toSet
  match (← get).classes with
  | .bracket outside span negated :: rest =>
    modify fun r => { r with classes := rest }
    let _ ← bump
    let span := span.withStop (← position)
    if rest.isEmpty then return .inr (span, negated, body)
    else return .inl (outside.push (.bracketed span negated body))
  | _ => throw (← unclosedClass)

/-- Reads the characters of an ASCII class name up to `:`. -/
def asciiNameChars : Nat → ReadM Unit
  | 0 => pure ()
  | fuel + 1 => do
    if (← current) = ':' then return
    if !(← bump) then return
    asciiNameChars fuel

/-- Tries to read an ASCII class `[:name:]` at `[`; goes back and gives nothing if there is
none. -/
def maybeAsciiClass : ReadM (Option AsciiClass) := do
  let start ← position
  let back : ReadM (Option AsciiClass) := do moveTo start; return none
  if !(← bump) || (← current) ≠ ':' then return ← back
  if !(← bump) then return ← back
  let negated ← do
    if (← current) = '^' then
      if !(← bump) then return ← back
      pure true
    else pure false
  let nameStart ← position
  asciiNameChars (← budget)
  if ← atEnd then return ← back
  let name := String.ofList (((← get).chars.toList.drop nameStart.offset).take
    ((← position).offset - nameStart.offset))
  if !(← bumpIf ":]") then return ← back
  match AsciiKind.ofName name with
  | some kind => return some { span := ⟨start, ← position⟩, kind, negated }
  | none => back

/-- Reads one item of a class: an escape or a character. -/
def parseClassItem : ReadM Primitive := do
  if (← current) = '\\' then parseEscape
  else
    let l : Literal := { span := ← charSpan, char := ← current }
    let _ ← bump
    return .literal l

/-- Reads an item of a class, or a range of two. -/
def parseClassRange : ReadM ClassSet := do
  let first ← parseClassItem
  bumpSpace
  if ← atEnd then throw (← unclosedClass)
  let next ← peekSpace
  if (← current) ≠ '-' || next == some ']' || next == some '-' then
    return ← first.toClassItem
  if !(← bumpAndSpace) then throw (← unclosedClass)
  let second ← parseClassItem
  let span : Span := ⟨first.span.start, second.span.stop⟩
  let lo ← first.toRangeEnd
  let hi ← second.toRangeEnd
  if lo.char > hi.char then failAt span .classRangeInvalid
  return .range span lo hi

/-- Reads a class up to its closing bracket. -/
def classLoop (u : Union) : Nat → ReadM (Span × Bool × ClassSet)
  | 0 => throw ⟨.classUnclosed, Span.at ⟨0, 1, 1⟩⟩
  | fuel + 1 => do
    bumpSpace
    if ← atEnd then throw (← unclosedClass)
    let c ← current
    let next ← peekChar
    if c = '[' then
      if !(← get).classes.isEmpty then
        if let some cls ← maybeAsciiClass then
          return ← classLoop (u.push (.ascii cls)) fuel
      classLoop (← pushClassOpen u) fuel
    else if c = ']' then
      match ← popClass u with
      | .inl outside => classLoop outside fuel
      | .inr whole => return whole
    else if c = '&' && next == some '&' then
      let _ ← bumpIf "&&"
      classLoop (← pushClassOp .intersection u) fuel
    else if c = '-' && next == some '-' then
      let _ ← bumpIf "--"
      classLoop (← pushClassOp .difference u) fuel
    else if c = '~' && next == some '~' then
      let _ ← bumpIf "~~"
      classLoop (← pushClassOp .symmetricDifference u) fuel
    else
      classLoop (u.push (← parseClassRange)) fuel

/-- Reads a bracketed class at `[`. -/
def parseSetClass : ReadM Ast := do
  let (span, negated, body) ← classLoop { span := ← here, items := [] } (← budget)
  return .bracketed span negated body

/-- Reads the pattern, item after item. -/
def parseItems : Nat → Concat → ReadM Concat
  | 0, c => pure c
  | fuel + 1, c => do
    bumpSpace
    if ← atEnd then return c
    match ← current with
    | '(' => parseItems fuel (← pushGroup c)
    | ')' => parseItems fuel (← popGroup c)
    | '|' => parseItems fuel (← pushAlternate c)
    | '[' =>
      let cls ← parseSetClass
      parseItems fuel { c with items := cls :: c.items }
    | '?' => parseItems fuel (← parseUncountedRepetition c .zeroOrOne)
    | '*' => parseItems fuel (← parseUncountedRepetition c .zeroOrMore)
    | '+' => parseItems fuel (← parseUncountedRepetition c .oneOrMore)
    | '{' => parseItems fuel (← parseCountedRepetition c)
    | _ =>
      let p ← parsePrimitive
      parseItems fuel { c with items := p.toAst :: c.items }

/-- The fault of a node one level deeper than `depth`, if that passes the limit. -/
def overLimit (limit depth : Nat) (span : Span) : Option Fault :=
  if depth + 1 > limit then some ⟨.nestLimitExceeded limit, span⟩ else none

mutual
/-- The first part of class contents nested deeper than `limit`. -/
def ClassSet.tooDeep (limit depth : Nat) : ClassSet → Option Fault
  | .bracketed span _ body =>
    match overLimit limit depth span with
    | some f => some f
    | none => body.tooDeep limit (depth + 1)
  | .union span items =>
    match overLimit limit depth span with
    | some f => some f
    | none => ClassSet.tooDeepList limit (depth + 1) items
  | .binary span _ lhs rhs =>
    match overLimit limit depth span with
    | some f => some f
    | none =>
      match lhs.tooDeep limit (depth + 1) with
      | some f => some f
      | none => rhs.tooDeep limit (depth + 1)
  | _ => none

/-- The first part nested too deep in a list of class parts. -/
def ClassSet.tooDeepList (limit depth : Nat) : List ClassSet → Option Fault
  | [] => none
  | a :: rest =>
    match a.tooDeep limit depth with
    | some f => some f
    | none => ClassSet.tooDeepList limit depth rest
end

mutual
/-- The first node nested deeper than `limit`, in reading order, as a fault. -/
def Ast.tooDeep (limit depth : Nat) : Ast → Option Fault
  | .repetition span _ _ _ body =>
    match overLimit limit depth span with
    | some f => some f
    | none => body.tooDeep limit (depth + 1)
  | .group span _ body =>
    match overLimit limit depth span with
    | some f => some f
    | none => body.tooDeep limit (depth + 1)
  | .alternation span items =>
    match overLimit limit depth span with
    | some f => some f
    | none => Ast.tooDeepList limit (depth + 1) items
  | .concat span items =>
    match overLimit limit depth span with
    | some f => some f
    | none => Ast.tooDeepList limit (depth + 1) items
  | .bracketed span _ body =>
    match overLimit limit depth span with
    | some f => some f
    | none => body.tooDeep limit (depth + 1)
  | _ => none

/-- The first node nested too deep in a list of nodes. -/
def Ast.tooDeepList (limit depth : Nat) : List Ast → Option Fault
  | [] => none
  | a :: rest =>
    match a.tooDeep limit depth with
    | some f => some f
    | none => Ast.tooDeepList limit depth rest
end

/-- The deepest nesting that a pattern may have. -/
def nestLimit : Nat := 250

/-- Reads a pattern into its syntax tree, or gives the first fault. -/
def parsePattern (pattern : String) : Except Fault Ast := do
  let chars := pattern.toList.toArray
  let run : ReadM Ast := do
    let c ← parseItems (chars.size + 1) { span := ← here, items := [] }
    popGroupEnd c
  let (ast, _) ← run.run { chars }
  match ast.tooDeep nestLimit 0 with
  | some f => throw f
  | none => return ast

end DataQuality.Pattern
