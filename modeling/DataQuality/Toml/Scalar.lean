import DataQuality.Toml.Reader
import DataQuality.Toml.Document
import DataQuality.Decimal.Read

/-!
# Reading TOML: blanks, strings, keys, numbers, dates and times

The pieces of TOML text below the level of values: blanks, comments and line ends; the four
kinds of strings with their escapes; keys; integers in four bases, floats, booleans; dates and
times.  Each follows the TOML 1.0 grammar, and fails the way the rest of this reader expects:

* a string that has started is final: an unclosed string or a bad escape is refused where it
  stands, an escape with bad hex digits where its digits start;
* a number is tried as a date or time, then as a float, then as an integer; a float or integer
  whose digits do not fit is refused at its start, and a misplaced underscore where it stands;
* a date is final once its year and dash are read, and a month, a day or a time whose value is
  out of range is refused at its digits; a time after a date is read only when it reads.
-/

namespace DataQuality.Toml

open Reader

/-! ## Blanks, comments and line ends -/

/-- Whether a byte is a blank: a space or a tab. -/
def isBlank (b : UInt8) : Bool := b == 0x20 || b == 0x09

/-- Whether a byte may stand in a comment. -/
def isCommentByte (b : UInt8) : Bool := b == 0x09 || (b ≥ 0x20 && b ≤ 0x7E) || b ≥ 0x80

/-- Blanks. -/
def blanks : Reader Unit := skipWhile isBlank

/-- A comment, to the end of its line. -/
def comment : Reader Unit := do
  byte 0x23
  skipWhile isCommentByte

/-- A line feed, or a carriage return and a line feed.  Anything else is refused after its
first byte. -/
def newline : Reader Unit := do
  match ← anyByte with
  | 10 => pure ()
  | 13 => byte 10
  | _ => reject

/-- Blanks and line ends. -/
def blankLines : Reader Unit := do
  repeatSkip (orElse newline (skipWhile1 isBlank)) ((← remaining) + 1)

/-- A line end, then blanks and line ends. -/
def newlines : Reader Unit := do
  newline
  blankLines

/-- Blanks, comments and line ends, as between the items of an array; a comment must end its
line.  `fuel` bounds the lines. -/
def blanksCommentsFrom : Nat → Reader Unit
  | 0 => pure ()
  | fuel + 1 => do
    let start ← offset
    blanks
    match ← current with
    | some 0x23 => do comment; newline
    | some 10 | some 13 => newline
    | _ => return ()
    if (← offset) == start then return ()
    blanksCommentsFrom fuel

/-- Blanks, comments and line ends. -/
def blanksComments : Reader Unit := do
  blanksCommentsFrom ((← remaining) + 1)

/-- A line end or the end of the text. -/
def lineEnding : Reader Unit := orElse newline atEnd

/-- The rest of a line after a value or a header: blanks, a comment, and the line end. -/
def lineTrailing : Reader Unit := do
  blanks
  discard (optional comment)
  lineEnding

/-- Gives a list of contexts to the failures of a reader, the first innermost. -/
def withContexts {α : Type} (cs : List Context) (r : Reader α) : Reader α :=
  cs.foldl (fun r c => within c r) r

/-- The contexts of a failure where a line should end. -/
def lineEndContexts : List Context := [.expected "newline", .expected (expectedChar '#')]

/-! ## Strings -/

/-- Whether a byte may stand unescaped in a basic string. -/
def isBasicByte (b : UInt8) : Bool :=
  isBlank b || b == 0x21 || (b ≥ 0x23 && b ≤ 0x5B) || (b ≥ 0x5D && b ≤ 0x7E) || b ≥ 0x80

/-- Whether a byte may stand in a literal string. -/
def isLiteralByte (b : UInt8) : Bool :=
  b == 0x09 || (b ≥ 0x20 && b ≤ 0x26) || (b ≥ 0x28 && b ≤ 0x7E) || b ≥ 0x80

/-- Whether a byte is a hex digit. -/
def isHexByte (b : UInt8) : Bool :=
  (b ≥ 48 && b ≤ 57) || (b ≥ 65 && b ≤ 70) || (b ≥ 97 && b ≤ 102)

/-- The value of a hex digit. -/
def hexByteValue (b : UInt8) : Nat :=
  if b ≤ 57 then b.toNat - 48 else if b ≤ 70 then b.toNat - 55 else b.toNat - 87

/-- The value of the hex digits between two offsets. -/
def hexValueBetween (start stop : Nat) : Reader Nat := do
  return ((← read).extract start stop).foldl (fun n b => n * 16 + hexByteValue b) 0

/-- The hex digits of a `\u` or `\U` escape, `width` of them, as a character; refused where the
digits start when there are fewer, or when they name no character. -/
def hexEscape (width : Nat) : Reader Char := do
  let start ← offset
  discard (bytesWhile 0 width isHexByte)
  let stop ← offset
  if stop - start != width then rejectAt start none
  let n ← hexValueBetween start stop
  if n ≥ 0x110000 || (0xD800 ≤ n && n < 0xE000) then rejectAt start (some "value is out of range")
  return Char.ofNat n

/-- What may follow a backslash. -/
def escapeContexts : List Context :=
  .label "escape sequence" :: "bfnrtuU\\\"".toList.map fun c => .expected (expectedChar c)

/-- The character of an escape, after its backslash. -/
def escapeChar : Reader Char := do
  match ← anyByte with
  | 98 => pure '\x08'
  | 102 => pure '\x0c'
  | 110 => pure '\n'
  | 114 => pure '\r'
  | 116 => pure '\t'
  | 117 => labelled "unicode 4-digit hex code" (commit (hexEscape 4))
  | 85 => labelled "unicode 8-digit hex code" (commit (hexEscape 8))
  | 92 => pure '\\'
  | 34 => pure '"'
  | _ => withContexts escapeContexts (commit reject)

/-- An escape: a backslash and what follows. -/
def escaped : Reader Char := do
  byte 92
  escapeChar

/-- Reads pieces of text while they read, and joins them; `fuel` bounds the pieces. -/
def joinPieces (r : Reader String) (acc : String) : Nat → Reader String
  | 0 => pure acc
  | fuel + 1 => do
    let start ← offset
    match ← optional r with
    | some s => if (← offset) == start then pure (acc ++ s) else joinPieces r (acc ++ s) fuel
    | none => pure acc

/-- Pieces of text, as many as read. -/
def pieces (r : Reader String) : Reader String := do
  joinPieces r "" ((← remaining) + 1)

/-- A run of bytes that pass a test, as text. -/
def runOf (p : UInt8 → Bool) : Reader String := do
  let start ← bytesWhile 1 ((← remaining) + 1) p
  textBetween start (← offset)

/-- A piece of a basic string: unescaped text or one escape. -/
def basicPiece : Reader String :=
  orElse (runOf isBasicByte) (do return (← escaped).toString)

/-- A basic string `"…"`. -/
def basicString : Reader String := do
  byte 34
  let body ← pieces basicPiece
  labelled "basic string" (commit (byte 34))
  return body

/-- A line-ending backslash in a multi-line basic string, with the blanks and line ends after
it, once or more. -/
def escapedLineEnd : Reader Unit := do
  let once : Reader Unit := do byte 92; blanks; newlines
  once
  repeatSkip once ((← remaining) + 1)

/-- A piece of a multi-line basic string: unescaped text, a trimmed line end, an escape or a
line end. -/
def multiBasicPiece : Reader String :=
  orElse (runOf isBasicByte) <|
  orElse (do escapedLineEnd; pure "") <|
  orElse (do return (← escaped).toString) (do newline; pure "\n")

/-- Runs a reader and goes back to where it started; a failure is placed there too. -/
def ahead {α : Type} (r : Reader α) : Reader α := do
  let start ← offset
  let a ← tryCatch r fun f => throw { f with offset := start }
  moveTo start
  return a

/-- One or two quotes inside a multi-line string, followed by what `next` reads (which stays
unread). -/
def innerQuotes (quote : UInt8) (next : Reader Unit) : Reader String :=
  let q := String.singleton (Char.ofNat quote.toNat)
  orElse (do byte quote; byte quote; ahead next; pure (q ++ q)) (do byte quote; ahead next; pure q)

/-- Quotes followed by more text, in a multi-line basic string; `fuel` bounds the rounds.
Quotes with nothing after them end the body, read. -/
def quotedRuns (acc : String) : Nat → Reader String
  | 0 => pure acc
  | fuel + 1 => do
    match ← optional (innerQuotes 34 (discard (byteWith (· != 34)))) with
    | none => pure acc
    | some q =>
      match ← optional multiBasicPiece with
      | none => pure acc
      | some c => do
        let more ← pieces multiBasicPiece
        quotedRuns (acc ++ q ++ c ++ more) fuel

/-- The body of a multi-line basic string. -/
def multiBasicBody : Reader String := do
  let text ← pieces multiBasicPiece
  let text ← quotedRuns text ((← remaining) + 1)
  match ← optional (innerQuotes 34 (word "\"\"\"")) with
  | some q => return text ++ q
  | none => return text

/-- A multi-line basic string `"""…"""`; a line end right after the opening is dropped. -/
def multiBasicString : Reader String :=
  labelled "multiline basic string" do
    word "\"\"\""
    discard (optional newline)
    let body ← commit multiBasicBody
    commit (word "\"\"\"")
    return body

/-- A piece of a multi-line literal string: one byte or a line end. -/
def multiLiteralPiece : Reader Unit := orElse (discard (byteWith isLiteralByte)) newline

/-- The body of a multi-line literal string, with its line ends as line feeds. -/
def multiLiteralBody : Reader String := do
  let start ← offset
  repeatSkip multiLiteralPiece ((← remaining) + 1)
  repeatSkip (do
      discard (innerQuotes 39 (discard (byteWith (· != 39))))
      multiLiteralPiece
      repeatSkip multiLiteralPiece ((← remaining) + 1))
    ((← remaining) + 1)
  discard (optional (innerQuotes 39 (word "'''")))
  let text ← textBetween start (← offset)
  return text.replace "\r\n" "\n"

/-- A multi-line literal string `'''…'''`; a line end right after the opening is dropped. -/
def multiLiteralString : Reader String :=
  labelled "multiline literal string" do
    word "'''"
    discard (optional newline)
    let body ← commit multiLiteralBody
    commit (word "'''")
    return body

/-- A literal string `'…'`. -/
def literalString : Reader String :=
  labelled "literal string" do
    byte 39
    let start ← commit (bytesWhile 0 ((← remaining) + 1) isLiteralByte)
    let body ← textBetween start (← offset)
    commit (byte 39)
    return body

/-- A string of any of the four kinds. -/
def anyString : Reader String :=
  orElse multiBasicString <| orElse basicString <| orElse multiLiteralString literalString

/-! ## Keys -/

/-- A bare key. -/
def bareKey : Reader String := runOf isBareKeyByte

/-- One part of a key: a basic string, a literal string or a bare key. -/
def simpleKey : Reader String := do
  match ← current with
  | some 34 => basicString
  | some 39 => literalString
  | some _ => bareKey
  | none => reject

/-- A part of a key with the blanks around it. -/
def keyPart : Reader String := do
  blanks
  let k ← simpleKey
  blanks
  return k

/-- The most parts a key may have, and one more than the deepest nesting of values. -/
def nestingLimit : Nat := 80

/-- A key: its parts separated by dots. -/
def key : Reader (List String) := do
  let start ← offset
  let parts ← labelled "key" (separated1 keyPart (byte 46))
  if parts.size ≥ nestingLimit then rejectAt start (some Clash.tooDeep.message)
  return parts.toList

/-! ## Numbers and booleans -/

/-- Whether a byte is a decimal digit. -/
def isDigitByte (b : UInt8) : Bool := b ≥ 48 && b ≤ 57

/-- One digit of some kind. -/
def digitOf (p : UInt8 → Bool) : Reader Unit := discard (byteWith p)

/-- More digits of some kind, each maybe after one underscore; an underscore must be followed by
a digit. -/
def digitTail (p : UInt8 → Bool) : Reader Unit := do
  repeatSkip (orElse (digitOf p) (do byte 95; expecting "digit" (commit (digitOf p))))
    ((← remaining) + 1)

/-- Digits, a leading zero allowed. -/
def zeroPrefixable : Reader Unit := do
  digitOf isDigitByte
  digitTail isDigitByte

/-- An optional sign. -/
def sign : Reader Unit := discard (optional (byteWith fun b => b == 43 || b == 45))

/-- A decimal integer: an optional sign, then `0` or digits not starting with `0`. -/
def decimalInteger : Reader String :=
  labelled "integer" do
    let start ← offset
    sign
    orElse (do digitOf (fun b => b ≥ 49 && b ≤ 57); digitTail isDigitByte) (digitOf isDigitByte)
    textBetween start (← offset)

/-- A fraction: a point and digits. -/
def fraction : Reader Unit := do
  byte 46
  expecting "digit" (commit zeroPrefixable)

/-- An exponent: `e` or `E`, an optional sign and digits. -/
def exponent : Reader Unit := do
  discard (byteWith fun b => b == 101 || b == 69)
  sign
  commit zeroPrefixable

/-- The text of a float: an integer part, then an exponent, or a fraction and maybe an
exponent. -/
def floatText : Reader String := do
  let start ← offset
  discard decimalInteger
  orElse exponent (do fraction; discard (optional exponent))
  textBetween start (← offset)

/-- `inf` or `nan`. -/
def infinity : Reader Float := do
  word "inf"
  return Decimal.infinity

/-- `nan`. -/
def notANumber : Reader Float := do
  word "nan"
  return Decimal.notANumber

/-- A signed `inf` or `nan`. -/
def specialFloat : Reader Float := do
  let negative := (← current) == some 45
  sign
  let x ← orElse infinity notANumber
  return if negative then -x else x

/-- A float; one whose value overflows to positive infinity is refused at its start. -/
def floatNumber : Reader Float :=
  labelled "floating-point number" <| orElse
    (do
      let start ← offset
      let text ← floatText
      let x := (Decimal.readFloat? (text.replace "_" "")).getD Decimal.notANumber
      if x == Decimal.infinity then throw { final := true, offset := start }
      return x)
    specialFloat

/-- The refusal of an integer that does not fit in 64 bits. -/
def tooLarge (negative : Bool) : String :=
  if negative then "number too small to fit in target type"
  else "number too large to fit in target type"

/-- An integer in base 16, 8 or 2 after its prefix; refused at the prefix when it does not fit
in 64 bits. -/
def radixInteger (pre : String) (base : Nat) (p : UInt8 → Bool) (what : String) : Reader Int :=
  commit do
    let start ← offset
    let digits ← labelled what do
      word pre
      let s ← offset
      commit (do digitOf p; digitTail p)
      return (← read).extract s (← offset)
    let n := digits.foldl (fun n b => if b == 95 then n else n * base + hexByteValue b) 0
    if n > Decimal.int64Max.toNat then rejectAt start (some (tooLarge false))
    return n

/-- An integer: hexadecimal, octal or binary after its prefix, else decimal.  A decimal
integer that does not fit in 64 bits is refused at its start. -/
def integerNumber : Reader Int := do
  let bytes ← read
  let o ← offset
  let pre := bytes.extract o (o + 2)
  if pre == "0x".toUTF8 then radixInteger "0x" 16 isHexByte "hexadecimal integer"
  else if pre == "0o".toUTF8 then radixInteger "0o" 8 (fun b => b ≥ 48 && b ≤ 55) "octal integer"
  else if pre == "0b".toUTF8 then radixInteger "0b" 2 (fun b => b == 48 || b == 49) "binary integer"
  else
    let start ← offset
    let text ← decimalInteger
    let (negative, body) := Decimal.splitSign (text.replace "_" "").toList
    let magnitude : Int := Decimal.digitsValue body
    let n := if negative then -magnitude else magnitude
    if n < Decimal.int64Min || n > Decimal.int64Max then
      throw { final := true, offset := start, cause := some (tooLarge negative) }
    return n

/-! ## Dates and times -/

/-- A date and time as written: a date, a time of day with nanoseconds, and an offset in
minutes (`none` for `Z`), each optional. -/
structure Datetime where
  date : Option (Nat × Nat × Nat) := none
  time : Option (Nat × Nat × Nat × Nat) := none
  offset : Option (Option Int) := none

/-- A number in decimal, padded with zeros to a width. -/
def padded (width n : Nat) : String :=
  let s := toString n
  String.ofList (List.replicate (width - s.length) '0') ++ s

/-- The text of a date and time: `YYYY-MM-DD`, `T`, `HH:MM:SS` with a fraction without
trailing zeros, then `Z` or `±HH:MM`. -/
def Datetime.text (d : Datetime) : String :=
  let date := match d.date with
    | some (y, m, day) => padded 4 y ++ "-" ++ padded 2 m ++ "-" ++ padded 2 day
    | none => ""
  let time := match d.time with
    | some (h, m, s, nanos) =>
      (if d.date.isSome then "T" else "") ++ padded 2 h ++ ":" ++ padded 2 m ++ ":" ++ padded 2 s ++
        (if nanos == 0 then ""
         else "." ++ String.ofList ((padded 9 nanos).toList.reverse.dropWhile (· == '0')).reverse)
    | none => ""
  let offset := match d.offset with
    | some none => "Z"
    | some (some minutes) =>
      (if minutes < 0 then "-" else "+") ++ padded 2 (minutes.natAbs / 60) ++ ":" ++
        padded 2 (minutes.natAbs % 60)
    | none => ""
  date ++ time ++ offset

/-- Exactly `n` digits, as a number. -/
def fixedDigits (n : Nat) : Reader Nat := do
  let start ← bytesWhile n n isDigitByte
  return ((← read).extract start (start + n)).foldl (fun v b => v * 10 + (b.toNat - 48)) 0

/-- The refusal of a value out of range. -/
def outOfRange : String := "value is out of range"

/-- Exactly `n` digits whose value lies in a range; refused at the digits otherwise. -/
def digitsIn (n lo hi : Nat) : Reader Nat :=
  checked (fixedDigits n) fun v => if lo ≤ v && v ≤ hi then .ok v else .error (some outOfRange)

/-- The days of a month. -/
def daysInMonth (year month : Nat) : Nat :=
  if month == 2 then
    if year % 4 == 0 && (year % 100 != 0 || year % 400 == 0) then 29 else 28
  else if month == 4 || month == 6 || month == 9 || month == 11 then 30
  else 31

/-- A date `YYYY-MM-DD`; final after the year and its dash. -/
def fullDate : Reader (Nat × Nat × Nat) := do
  let year ← fixedDigits 4
  byte 45
  let month ← commit (digitsIn 2 1 12)
  commit (byte 45)
  let dayStart ← offset
  let day ← commit (digitsIn 2 1 31)
  if daysInMonth year month < day then
    throw { final := true, offset := dayStart, cause := some outOfRange }
  return (year, month, day)

/-- A fraction of a second, as nanoseconds: digits past the ninth are dropped. -/
def secondFraction : Reader Nat := do
  byte 46
  let start ← bytesWhile 1 ((← remaining) + 1) isDigitByte
  let digits := ((← read).extract start (← offset)).toList.take 9
  let v := digits.foldl (fun v b => v * 10 + (b.toNat - 48)) 0
  return v * Nat.pow 10 (9 - digits.length)

/-- A time of day `HH:MM:SS` with an optional fraction; final after the hour and its colon. -/
def partialTime : Reader (Nat × Nat × Nat × Nat) := do
  let h ← digitsIn 2 0 23
  byte 58
  commit do
    let m ← digitsIn 2 0 59
    byte 58
    let s ← digitsIn 2 0 60
    let f ← optional secondFraction
    return (h, m, s, f.getD 0)

/-- An offset: `Z` or `z`, or a sign, hours and minutes. -/
def timeOffset : Reader (Option Int) :=
  labelled "time offset" <| orElse
    (do discard (byteWith fun b => b == 90 || b == 122); pure none)
    (do
      let negative := (← byteWith fun b => b == 43 || b == 45) == 45
      let (h, m) ← commit do
        let h ← digitsIn 2 0 23
        byte 58
        let m ← digitsIn 2 0 59
        return (h, m)
      let minutes : Int := h * 60 + m
      return some (if negative then -minutes else minutes))

/-- Whether a byte separates a date from a time. -/
def isTimeDelimiter (b : UInt8) : Bool := b == 84 || b == 116 || b == 32

/-- A date with an optional time and offset, or a time alone. -/
def dateTime : Reader Datetime :=
  orElse
    (labelled "date-time" do
      let date ← fullDate
      let rest ← optional do
        discard (byteWith isTimeDelimiter)
        let t ← partialTime
        let o ← optional timeOffset
        return (t, o)
      match rest with
      | some (t, o) => return { date, time := t, offset := o }
      | none => return { date })
    (labelled "time" do
      let t ← partialTime
      return { time := t })

end DataQuality.Toml
