import DataQuality.Json.Basic
import DataQuality.Decimal.Read

/-!
# Reading JSON text

`Json.parse` reads one document and refuses anything after it but blanks.  A refusal names
its cause and where it was found, as `"<cause> at line L column C"`: lines count from one,
columns count bytes from the start of the line.  A cause found at the end of the input, or
while reading a token, is placed after what was read; an unexpected character is placed at
that character (one column further).

Integer tokens within `[-2^63, 2^64)` stay integers, except `-0`, which is the double `-0.0`;
every other number becomes the nearest double, and one past the range of doubles is refused.
Nesting deeper than 127 containers is refused too.
-/

namespace DataQuality

namespace Json

/-- Where reading stands: the characters left, and the line and byte column reached. -/
structure Cursor where
  rest : List Char
  line : Nat
  column : Nat

/-- Why reading stopped, and where. -/
structure ParseError where
  cause : String
  line : Nat
  column : Nat
  deriving Inhabited

/-- The text of a refusal; one found in a document already read has no place (line zero). -/
def ParseError.text (e : ParseError) : String :=
  if e.line == 0 then e.cause
  else e.cause ++ " at line " ++ toString e.line ++ " column " ++ toString e.column

/-- A cursor at the start of a text. -/
def Cursor.start (text : String) : Cursor := ⟨text.toList, 1, 0⟩

/-- The cursor past its next character. -/
def Cursor.next (c : Cursor) : Cursor :=
  match c.rest with
  | [] => c
  | '\n' :: rest => ⟨rest, c.line + 1, 0⟩
  | ch :: rest => ⟨rest, c.line, c.column + ch.utf8Size⟩

/-- The cursor past its next `n` characters. -/
def Cursor.advance (c : Cursor) : Nat → Cursor
  | 0 => c
  | n + 1 => c.next.advance n

/-- The next character, if any. -/
def Cursor.peek (c : Cursor) : Option Char := c.rest.head?

/-- A refusal at the cursor. -/
def Cursor.fail (c : Cursor) (cause : String) : ParseError := ⟨cause, c.line, c.column⟩

/-- A refusal placed at the next character: one column on, or the start of the next line when
that character ends a line. -/
def Cursor.failAhead (c : Cursor) (cause : String) : ParseError :=
  match c.rest with
  | [] => ⟨cause, c.line, c.column⟩
  | '\n' :: _ => ⟨cause, c.line + 1, 0⟩
  | _ :: _ => ⟨cause, c.line, c.column + 1⟩

/-- Whether a character is a JSON blank. -/
def isBlank (ch : Char) : Bool :=
  ch = ' ' ∨ ch = '\n' ∨ ch = '\t' ∨ ch = '\r'

/-- Skips blanks, counting at most `fuel` of them. -/
def Cursor.skipBlanks (c : Cursor) : Nat → Cursor
  | 0 => c
  | fuel + 1 =>
    match c.peek with
    | some ch => if isBlank ch then c.next.skipBlanks fuel else c
    | none => c

/-- The cursor after blanks. -/
def Cursor.blanks (c : Cursor) : Cursor := c.skipBlanks c.rest.length

/-- Reads the rest of a literal word after its first letter. -/
def Cursor.word (c : Cursor) : List Char → Except ParseError Cursor
  | [] => .ok c
  | w :: ws =>
    match c.peek with
    | none => .error (c.fail "EOF while parsing a value")
    | some ch => if ch = w then c.next.word ws else .error (c.next.fail "expected ident")

/-- The value of a hex digit. -/
def hexValue (ch : Char) : Option Nat :=
  if '0' ≤ ch ∧ ch ≤ '9' then some (ch.toNat - 48)
  else if 'a' ≤ ch ∧ ch ≤ 'f' then some (ch.toNat - 87)
  else if 'A' ≤ ch ∧ ch ≤ 'F' then some (ch.toNat - 55)
  else none

/-- Reads the four hex digits of a `\u` escape. -/
def Cursor.hex4 (c : Cursor) : Except ParseError (Nat × Cursor) :=
  match c.rest with
  | a :: b :: d :: e :: _ =>
    match hexValue a, hexValue b, hexValue d, hexValue e with
    | some x, some y, some z, some w =>
      .ok (((x * 16 + y) * 16 + z) * 16 + w, c.next.next.next.next)
    | _, _, _, _ => .error (c.next.next.next.next.fail "invalid escape")
  | _ => .error ((c.advance c.rest.length).fail "EOF while parsing a string")

/-- Reads the escape after a backslash inside a string. -/
def Cursor.escape (c : Cursor) : Except ParseError (Char × Cursor) :=
  match c.peek with
  | none => .error (c.fail "EOF while parsing a string")
  | some ch =>
    let c1 := c.next
    match ch with
    | '"' => .ok ('"', c1)
    | '\\' => .ok ('\\', c1)
    | '/' => .ok ('/', c1)
    | 'b' => .ok ('\x08', c1)
    | 'f' => .ok ('\x0c', c1)
    | 'n' => .ok ('\n', c1)
    | 'r' => .ok ('\r', c1)
    | 't' => .ok ('\t', c1)
    | 'u' => do
      let (n, c2) ← c1.hex4
      if 0xDC00 ≤ n ∧ n ≤ 0xDFFF then
        .error (c2.fail "lone leading surrogate in hex escape")
      else if 0xD800 ≤ n ∧ n ≤ 0xDBFF then
        match c2.rest with
        | '\\' :: 'u' :: _ =>
          let (m, c3) ← c2.next.next.hex4
          if 0xDC00 ≤ m ∧ m ≤ 0xDFFF then
            .ok (Char.ofNat (0x10000 + (n - 0xD800) * 0x400 + (m - 0xDC00)), c3)
          else .error (c3.fail "lone leading surrogate in hex escape")
        | [] => .error (c2.fail "EOF while parsing a string")
        | _ => .error (c2.next.fail "unexpected end of hex escape")
      else .ok (Char.ofNat n, c2)
    | _ => .error (c1.fail "invalid escape")

/-- Reads string characters up to the closing quote, at most `fuel` of them. -/
def Cursor.stringBody (c : Cursor) (acc : List Char) : Nat → Except ParseError (String × Cursor)
  | 0 => .error (c.fail "EOF while parsing a string")
  | fuel + 1 =>
    match c.peek with
    | none => .error (c.fail "EOF while parsing a string")
    | some '"' => .ok (String.ofList acc.reverse, c.next)
    | some '\\' => do
      let (ch, c2) ← c.next.escape
      c2.stringBody (ch :: acc) fuel
    | some ch =>
      if ch.toNat < 0x20 then
        .error (c.next.fail "control character (\\u0000-\\u001F) found while parsing a string")
      else c.next.stringBody (ch :: acc) fuel

/-- Reads a string literal whose opening quote is the next character. -/
def Cursor.string (c : Cursor) : Except ParseError (String × Cursor) :=
  c.next.stringBody [] c.rest.length

/-- Reads ASCII digits, at most `fuel` of them. -/
def Cursor.digits (c : Cursor) (acc : List Char) : Nat → List Char × Cursor
  | 0 => (acc.reverse, c)
  | fuel + 1 =>
    match c.peek with
    | some ch => if ch.isDigit then c.next.digits (ch :: acc) fuel else (acc.reverse, c)
    | none => (acc.reverse, c)

/-- The value of a number token from its parts: sign, integer digits, fraction digits and
exponent; `none` past the range of doubles. -/
def numberValue (negative : Bool) (whole fraction : List Char) (exponent : Option Int) :
    Option Json :=
  match fraction, exponent with
  | [], none =>
    let n : Int := Decimal.digitsValue whole
    if negative then
      if n = 0 then some (float (-0.0))
      else if n ≤ Int.pow 2 63 then some (int (-n))
      else
        let x := Decimal.ofDecimal true n.toNat 0
        if x.isInf then none else some (float x)
    else if n < Int.pow 2 64 then some (int n)
    else
      let x := Decimal.ofDecimal false n.toNat 0
      if x.isInf then none else some (float x)
  | _, _ =>
    let x := Decimal.ofDecimal negative (Decimal.digitsValue (whole ++ fraction))
      (exponent.getD 0 - fraction.length)
    if x.isInf then none else some (float x)

/-- Reads the optional exponent of a number. -/
def Cursor.exponentPart (c : Cursor) : Except ParseError (Option Int × Cursor) :=
  match c.peek with
  | some 'e' | some 'E' =>
    let c1 := c.next
    let (negative, c2) := match c1.peek with
      | some '-' => (true, c1.next)
      | some '+' => (false, c1.next)
      | _ => (false, c1)
    match c2.peek with
    | none => .error (c2.fail "EOF while parsing a value")
    | some ch =>
      if ch.isDigit then
        let (ds, c3) := c2.digits [] c2.rest.length
        let v : Int := Decimal.digitsValue ds
        .ok (some (if negative then -v else v), c3)
      else .error (c2.next.fail "invalid number")
  | _ => .ok (none, c)

/-- Reads the optional minus sign of a number. -/
def Cursor.signPart (c : Cursor) : Bool × Cursor :=
  match c.peek with
  | some '-' => (true, c.next)
  | _ => (false, c)

/-- Reads the digits of a number before its point: a lone `0`, or digits not starting with `0`. -/
def Cursor.wholePart (c : Cursor) : Except ParseError (List Char × Cursor) :=
  match c.peek with
  | none => .error (c.fail "EOF while parsing a value")
  | some '0' =>
    match c.next.peek with
    | some d => if d.isDigit then .error (c.next.failAhead "invalid number")
                else .ok (['0'], c.next)
    | none => .ok (['0'], c.next)
  | some d =>
    if d.isDigit then .ok (c.digits [] c.rest.length)
    else .error (c.next.fail "invalid number")

/-- Reads the optional point of a number and the digits after it, at least one. -/
def Cursor.fractionPart (c : Cursor) : Except ParseError (List Char × Cursor) :=
  match c.peek with
  | some '.' =>
    let (ds, c3) := c.next.digits [] c.rest.length
    if ds.isEmpty then
      match c3.peek with
      | some _ => .error (c3.failAhead "invalid number")
      | none => .error (c3.fail "EOF while parsing a value")
    else .ok (ds, c3)
  | _ => .ok ([], c)

/-- Reads a number whose first character (a digit or a minus) is next. -/
def Cursor.number (c : Cursor) : Except ParseError (Json × Cursor) := do
  let (negative, c1) := c.signPart
  let (whole, c2) ← c1.wholePart
  let (fraction, c3) ← c2.fractionPart
  let (exponent, c4) ← c3.exponentPart
  match numberValue negative whole fraction exponent with
  | some v => .ok (v, c4)
  | none => .error (c4.fail "number out of range")

mutual
/-- Reads one value after blanks; `depth` counts the containers still allowed around it and
`fuel` bounds the calls. -/
def Cursor.value (c : Cursor) (depth : Nat) : Nat → Except ParseError (Json × Cursor)
  | 0 => .error (c.fail "recursion limit exceeded")
  | fuel + 1 =>
    let c := c.blanks
    match c.peek with
    | none => .error (c.fail "EOF while parsing a value")
    | some 'n' => do let c' ← c.next.word "ull".toList; .ok (null, c')
    | some 't' => do let c' ← c.next.word "rue".toList; .ok (bool true, c')
    | some 'f' => do let c' ← c.next.word "alse".toList; .ok (bool false, c')
    | some '"' => do let (s, c') ← c.string; .ok (str s, c')
    | some '[' =>
      if depth = 0 then .error (c.next.fail "recursion limit exceeded")
      else c.next.items (depth - 1) true [] fuel
    | some '{' =>
      if depth = 0 then .error (c.next.fail "recursion limit exceeded")
      else c.next.members (depth - 1) true [] fuel
    | some ch =>
      if ch = '-' ∨ ch.isDigit then c.number
      else .error (c.failAhead "expected value")

/-- Reads the items of an array after its opening bracket. -/
def Cursor.items (c : Cursor) (depth : Nat) (first : Bool) (acc : List Json) :
    Nat → Except ParseError (Json × Cursor)
  | 0 => .error (c.fail "recursion limit exceeded")
  | fuel + 1 =>
    let c := c.blanks
    match c.peek with
    | none => .error (c.failAhead "EOF while parsing a list")
    | some ']' => .ok (arr acc.reverse, c.next)
    | some ch =>
      if first then do
        let (v, c') ← c.value depth fuel
        c'.items depth false (v :: acc) fuel
      else if ch = ',' then
        let c1 := c.next.blanks
        match c1.peek with
        | some ']' => .error (c1.failAhead "trailing comma")
        | none => .error (c1.failAhead "EOF while parsing a value")
        | some _ => do
          let (v, c') ← c1.value depth fuel
          c'.items depth false (v :: acc) fuel
      else .error (c.failAhead "expected `,` or `]`")

/-- Reads the members of an object after its opening brace. -/
def Cursor.members (c : Cursor) (depth : Nat) (first : Bool) (acc : List (String × Json)) :
    Nat → Except ParseError (Json × Cursor)
  | 0 => .error (c.fail "recursion limit exceeded")
  | fuel + 1 =>
    let c := c.blanks
    match c.peek with
    | none => .error (c.failAhead "EOF while parsing an object")
    | some '}' => .ok (obj acc.reverse, c.next)
    | some ch =>
      let keyStart : Except ParseError Cursor :=
        if first then
          if ch = '"' then .ok c else .error (c.failAhead "key must be a string")
        else if ch = ',' then
          let c1 := c.next.blanks
          match c1.peek with
          | some '"' => .ok c1
          | some '}' => .error (c1.failAhead "trailing comma")
          | some _ => .error (c1.failAhead "key must be a string")
          | none => .error (c1.failAhead "EOF while parsing a value")
        else .error (c.failAhead "expected `,` or `\x7d`")
      do
        let c1 ← keyStart
        let (k, c2) ← c1.string
        let c3 := c2.blanks
        match c3.peek with
        | some ':' => do
          let (v, c4) ← c3.next.value depth fuel
          c4.members depth false ((k, v) :: acc) fuel
        | some _ => .error (c3.failAhead "expected `:`")
        | none => .error (c3.failAhead "EOF while parsing an object")
end

/-- Reads a whole document: one value, then nothing but blanks. -/
def parse (text : String) : Except ParseError Json := do
  let c := Cursor.start text
  let (v, c') ← c.value 127 (2 * c.rest.length + 2)
  let c'' := c'.blanks
  match c''.peek with
  | none => .ok v
  | some _ => .error (c''.failAhead "trailing characters")

end Json

end DataQuality
