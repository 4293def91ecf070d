import DataQuality.Text.Blank

/-!
# Delimited text

Records of delimited text, read by a machine of six states, one character at a time:

* at the start of a record, line ends are skipped, so blank lines hold no record;
* a field that starts with a double quote is quoted: delimiters and line ends inside it are
  text, and a doubled quote stands for one quote; after the closing quote the field goes on
  unquoted;
* a line ends at a line feed, at a carriage return, or at the pair of them; the record ends
  with the carriage return in that pair, and the line feed is skipped as the next record
  starts.

Each record remembers where reading it began, which is where the record before it ended (the
start of the text for the first): its byte offset, its line (counting the line feeds before
it) and its number among the records, the first being number 0.  Blank lines skipped before a
record therefore count toward it.  The end of the text ends the last field and record, even
inside an open quote.  A byte order mark at the very start is not text: it is passed over, and
only its three bytes are counted.
-/

namespace DataQuality.Delimited

/-- Where the machine stands between characters. -/
inductive ReadState where
  /-- Before a record: line ends are skipped. -/
  | startRecord
  /-- Before a field. -/
  | startField
  /-- Inside an unquoted field. -/
  | inField
  /-- Inside a quoted field. -/
  | inQuoted
  /-- Just after a quote inside a quoted field. -/
  | afterQuote
  /-- Just after the carriage return that ended a record. -/
  | afterReturn
  deriving Repr, BEq, DecidableEq, Inhabited

/-- A record and where it starts. -/
structure Record where
  fields : List String
  byte : Nat
  line : Nat
  index : Nat
  deriving Inhabited

/-- Everything the machine holds while reading. -/
structure Reader where
  state : ReadState := .startRecord
  /-- The field being read, in reverse. -/
  field : List Char := []
  /-- The fields of the record being read, in reverse. -/
  fields : List String := []
  /-- Whether a record has started. -/
  open? : Bool := false
  byte : Nat := 0
  line : Nat := 1
  /-- Where reading the current record began. -/
  recordByte : Nat := 0
  recordLine : Nat := 1
  /-- Whether a record ended at the character being read. -/
  ended : Bool := false
  /-- Finished records, in reverse. -/
  records : List Record := []

/-- Whether a character ends a line. -/
def isLineEnd (c : Char) : Bool := c = '\n' ∨ c = '\r'

namespace Reader

/-- Ends the current field. -/
def endField (r : Reader) : Reader :=
  { r with fields := String.ofList r.field.reverse :: r.fields, field := [] }

/-- Ends the current record and keeps it. -/
def endRecord (r : Reader) : Reader :=
  let r := r.endField
  { r with
    records := ⟨r.fields.reverse, r.recordByte, r.recordLine, r.records.length⟩ :: r.records
    fields := [], open? := false, ended := true }

/-- Counts one character as read; a record that ended at it sets where the next one begins. -/
def consume (r : Reader) (c : Char) : Reader :=
  let r := { r with byte := r.byte + c.utf8Size, line := if c = '\n' then r.line + 1 else r.line }
  if r.ended then { r with ended := false, recordByte := r.byte, recordLine := r.line } else r

/-- Opens a record at its first character. -/
def begin (r : Reader) : Reader :=
  { r with open? := true }

/-- Reads a character that is not skipped before a field: quote, delimiter, line end or text. -/
def fieldStart (r : Reader) (delimiter c : Char) : Reader :=
  if c = '"' then { r with state := .inQuoted }
  else if c = delimiter then { r.endField with state := .startField }
  else if isLineEnd c then
    { r.endRecord with state := if c = '\r' then .afterReturn else .startRecord }
  else { r with state := .inField, field := c :: r.field }

/-- One step of the machine on a character, before counting it as read. -/
def step (r : Reader) (delimiter c : Char) : Reader :=
  match r.state with
  | .startRecord =>
    if isLineEnd c then r else r.begin.fieldStart delimiter c
  | .afterReturn =>
    if c = '\n' then { r with state := .startRecord }
    else if c = '\r' then r
    else r.begin.fieldStart delimiter c
  | .startField => r.fieldStart delimiter c
  | .inField =>
    if c = delimiter then { r.endField with state := .startField }
    else if isLineEnd c then
      { r.endRecord with state := if c = '\r' then .afterReturn else .startRecord }
    else { r with field := c :: r.field }
  | .inQuoted =>
    if c = '"' then { r with state := .afterQuote } else { r with field := c :: r.field }
  | .afterQuote =>
    if c = '"' then { r with state := .inQuoted, field := '"' :: r.field }
    else if c = delimiter then { r.endField with state := .startField }
    else if isLineEnd c then
      { r.endRecord with state := if c = '\r' then .afterReturn else .startRecord }
    else { r with state := .inField, field := c :: r.field }

/-- Ends the text: an open record is finished. -/
def finish (r : Reader) : Reader :=
  if r.open? then r.endRecord else r

end Reader

/-- A record whose number of fields differs from the first record's. -/
structure WidthMismatch where
  record : Nat
  line : Nat
  byte : Nat
  expected : Nat
  found : Nat
  deriving Inhabited

/-- The text of a width mismatch. -/
def WidthMismatch.message (w : WidthMismatch) : String :=
  "CSV error: record " ++ toString w.record ++ " (line: " ++ toString w.line ++ ", byte: " ++
    toString w.byte ++ "): found record with " ++ toString w.found ++
    " fields, but the previous record has " ++ toString w.expected ++ " fields"

/-- The first record, after the first, whose width differs from the first record's. -/
def firstMismatch (rs : List Record) : Option WidthMismatch :=
  match rs with
  | [] => none
  | first :: rest =>
    rest.findSome? fun r =>
      if r.fields.length = first.fields.length then none
      else some ⟨r.index, r.line, r.byte, first.fields.length, r.fields.length⟩

/-- The byte order mark. -/
def byteOrderMark : Char := '\uFEFF'

/-- The records of a text split by a delimiter; a leading byte order mark is skipped. -/
def records (text : String) (delimiter : Char) : List Record :=
  let (start, chars) := match text.toList with
    | c :: rest => if c = byteOrderMark then (({ byte := 3 } : Reader), rest) else ({}, c :: rest)
    | [] => ({}, [])
  let r := chars.foldl (fun r c => (r.step delimiter c).consume c) start
  r.finish.records.reverse

end DataQuality.Delimited
