import DataQuality.Toml.Scalar

/-!
# Reading TOML text

`Toml.parse` reads a TOML 1.0 document into a JSON document: tables become objects, arrays
arrays, strings strings, booleans booleans, integers integers and floats numbers; a date or a
time becomes an object with the single member `$__toml_private_datetime` holding its text.
Besides the document it gives the byte span of every value written by a key, by the full path
of the key, so that a reader of the document can point at a value it refuses.

A document is read line by line: blank lines, comments, headers and key lines, each of them
final once it has started.  A value is read by its first byte: a quote starts a string, a
bracket an array, a brace an inline table, a sign or a digit a number, date or time, and the
letters `t`, `f`, `i`, `n` the words `true`, `false`, `inf`, `nan`.  Arrays and inline tables
nest at most `nestingLimit - 1` deep.

A refusal points at the byte where reading stopped, or where the offending text starts; its
message names what was being read (`invalid array`) and what was expected there
(`` expected `]` ``), or why a key could not be put in place.
-/

namespace DataQuality.Toml

open Json Reader

/-- A value of some kind. -/
def valueOf (kind : Kind) (doc : Json) : Item := .value kind doc

/-- A number, date or time: tried as a date or time, then a float, then an integer. -/
def numberValue : Reader Item :=
  orElse (do
      let d ← dateTime
      return valueOf .datetime (obj [("$__toml_private_datetime", str d.text)])) <|
  orElse (do return valueOf .float (float (← floatNumber)))
    (do return valueOf .integer (int (← integerNumber)))

/-- A word where a string was more likely meant. -/
def stringLike (r : Reader Item) : Reader Item :=
  withContexts [.label "string", .expected (expectedChar '"'), .expected (expectedChar '\'')] r

/-- The refusal of values nested too deep. -/
def tooDeep : Reader Item := do
  throw { final := true, offset := ← offset, cause := some Clash.tooDeep.message }

/-- The items of an array after its opening bracket, each an element between blanks, comments
and line ends, separated by commas; a comma may follow the last. -/
def arrayItems (element : Reader Item) : Reader (Array Json) := do
  if (← current) == some 93 then return #[]
  let items ← separated0 (do blanksComments; let v ← element; blanksComments; pure v.toJson) (byte 44)
  if !items.isEmpty then discard (optional (byte 44))
  blanksComments
  return items

/-- An array, its elements read by `element`. -/
def arrayOf (element : Reader Item) : Reader Item := do
  byte 91
  let items ← commit (arrayItems element)
  withContexts [.label "array", .expected (expectedChar ']')] (commit (byte 93))
  return valueOf .array (arr items.toList)

/-- A key and a value inside an inline table, the value read by `element`. -/
def inlineEntry (element : Reader Item) : Reader (List String × Item) := do
  let path ← key
  commit do
    withContexts [.expected (expectedChar '.'), .expected (expectedChar '=')] (byte 61)
    blanks
    let v ← element
    blanks
    return (path, v)

/-- The table of the entries of an inline table, put in place in order. -/
def inlineTableOf (entries : List (List String × Item)) : Except Clash Table :=
  entries.foldlM (fun t (path, v) =>
    match path.getLast? with
    | some k => defineIn true none path.dropLast k v t
    | none => .ok t) {}

/-- An inline table, its values read by `element`; a key defined twice is refused where the
entries start. -/
def inlineTable (element : Reader Item) : Reader Item := do
  byte 123
  let start ← offset
  let t ← commit do
    let entries ← separated0 (inlineEntry element) (byte 44)
    blanks
    match inlineTableOf entries.toList with
    | .ok t => pure t
    | .error clash => rejectAt start (some clash.message)
  withContexts [.label "inline table", .expected (expectedChar '}')] (commit (byte 125))
  return valueOf .inlineTable (obj (itemsToJson t.items))

/-- A value by its first byte; arrays and inline tables read their values with `inner`, or are
refused as nested too deep when there is none. -/
def valueWith (inner : Option (Reader Item)) : Reader Item := do
  match ← current with
  | none => reject
  | some b =>
    if b == 34 || b == 39 then return valueOf .string (str (← anyString))
    else if b == 91 then
      match inner with
      | none => tooDeep
      | some r => arrayOf r
    else if b == 123 then
      match inner with
      | none => tooDeep
      | some r => inlineTable r
    else if b == 43 || b == 45 || isDigitByte b then numberValue
    else if b == 95 then
      expecting "leading digit" (do return valueOf .integer (int (← integerNumber)))
    else if b == 46 then
      expecting "leading digit" (do return valueOf .float (float (← floatNumber)))
    else if b == 116 then
      stringLike (do commit (word "true"); return valueOf .boolean (bool true))
    else if b == 102 then
      stringLike (do commit (word "false"); return valueOf .boolean (bool false))
    else if b == 105 then stringLike (do return valueOf .float (float (← infinity)))
    else if b == 110 then stringLike (do return valueOf .float (float (← notANumber)))
    else stringLike reject

/-- A value, with room for `room` more levels of arrays and inline tables inside it. -/
def value : Nat → Reader Item
  | 0 => valueWith none
  | room + 1 => valueWith (some (value room))

/-- What reading a document gives: the document and the span of every value written by a key,
by the key's full path. -/
structure Parsed where
  document : Json
  spans : List (List String × (Nat × Nat))

/-- The tables read so far and the spans of the values written by keys. -/
structure Progress where
  tables : Tables := {}
  spans : Array (List String × (Nat × Nat)) := #[]
  deriving Inhabited

/-- A key line: the key, `=`, the value and the end of the line; the value is put in place in
the current table, or the line is refused at its start. -/
def keyLine (p : Progress) : Reader Progress := do
  let start ← offset
  let path ← key
  let (v, span) ← commit do
    withContexts [.expected (expectedChar '.'), .expected (expectedChar '=')] (byte 61)
    blanks
    let valueStart ← offset
    let v ← value (nestingLimit - 1)
    let valueStop ← offset
    withContexts lineEndContexts lineTrailing
    return (v, (valueStart, valueStop))
  match path.getLast? with
  | none => return p
  | some k =>
    match p.tables.define path.dropLast k v with
    | .ok tables =>
      return { tables, spans := p.spans.push (p.tables.currentPath ++ path, span) }
    | .error clash => rejectAt start (some clash.message)

/-- A header `[key]` or `[[key]]` and the end of its line; the table it opens is refused at its
start when it clashes. -/
def headerLine (p : Progress) : Reader Progress :=
  labelled "table header" do
    let start ← offset
    let bytes ← read
    if bytes.size < start + 2 then reject
    let twice := bytes[start + 1]? == some 91
    let opener := if twice then "[[" else "["
    let closer := if twice then "]]" else "]"
    word opener
    let path ← commit key
    withContexts [.expected (expectedChar '.'), .expected (expectedText closer)] (commit (word closer))
    withContexts lineEndContexts (commit lineTrailing)
    let opened := if twice then p.tables.openArrayTable path else p.tables.openTable path
    match opened with
    | .ok tables => return { p with tables }
    | .error clash => rejectAt start (some clash.message)

/-- One line of a document by its first byte: a comment, a header, a line end or a key line,
then blanks. -/
def line (p : Progress) : Reader Progress := do
  let p ← match ← current with
    | none => reject
    | some 0x23 => do commit (do comment; lineEnding); pure p
    | some 0x5B => commit (headerLine p)
    | some 10 | some 13 => do newline; pure p
    | some _ => commit (keyLine p)
  blanks
  return p

/-- Lines while they read, at most `fuel` of them. -/
def lines (p : Progress) : Nat → Reader Progress
  | 0 => pure p
  | fuel + 1 => do
    let start ← offset
    match ← optional (line p) with
    | none => pure p
    | some q => if (← offset) == start then pure q else lines q fuel

/-- A document: an optional byte order mark, blanks, lines, and the end of the text. -/
def document : Reader Progress := do
  discard (optional (word "\uFEFF"))
  blanks
  let p ← lines {} ((← remaining) + 1)
  atEnd
  return p

/-- Reads a TOML document. -/
def parse (text : String) : Except TomlError Parsed :=
  let bytes := text.toUTF8
  match (document.run bytes).run 0 with
  | .ok (p, _) =>
    match p.tables.document with
    | .ok doc => .ok ⟨doc, p.spans.toList⟩
    | .error clash => .error { message := clash.message }
  | .error f =>
    .error { message := f.message, raw := some text,
             span := some (f.offset, if f.offset ≥ bytes.size then f.offset else f.offset + 1) }

end DataQuality.Toml
