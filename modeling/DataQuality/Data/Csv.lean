import DataQuality.Data.Table
import DataQuality.Data.Delimited
import DataQuality.Text.Lower

/-!
# Tables from delimited text

The first record of the text names the columns (each name trimmed); every later record is a
row and must be as wide as the first.  Cells are read by the type of their column:

* a cell that is blank once trimmed, or `null` in any ASCII case, is null;
* an integral cell is a whole number in the 64-bit range, a fractional cell a real number,
  a boolean cell one of `true`, `t`, `1`, `false`, `f`, `0` in any case; all of them are read
  after trimming, and a cell that does not read is refused with its trimmed text;
* a string cell keeps its text untrimmed.

Without a schema the columns are typed by their cells, nulls left out: all whole numbers make
an integral column, all real numbers a fractional one, all `true` or `false` words a boolean
one, and anything else, or no cell at all, a string column.  With a schema, each of its
columns takes the first header equal to its name up to case (the last, when several are); a
column with no such header is refused, together with all others missing.
-/

namespace DataQuality

namespace Csv

/-- How to read a text: an optional schema and the delimiter. -/
structure Options where
  schema : Option Schema := none
  delimiter : Char := ','

/-- Whether a trimmed cell stands for null. -/
def isNullToken (s : String) : Bool :=
  s.isEmpty || Text.equalsIgnoringAsciiCase s "null"

/-- A truth value spelt `true` or `false`, in any case. -/
def boolWord (s : String) : Option Bool :=
  match Text.toLower s with
  | "true" => some true
  | "false" => some false
  | _ => none

/-- A truth value spelt as a word, a letter or a digit, in any case. -/
def boolCell (s : String) : Option Bool :=
  match Text.toLower s with
  | "true" | "t" | "1" => some true
  | "false" | "f" | "0" => some false
  | _ => none

/-- The column type that fits all the given non-null trimmed cells. -/
def inferType (cells : List String) : ColumnType :=
  if cells.isEmpty then .string
  else if cells.all (fun c => (Decimal.readInt64? c).isSome) then .integral
  else if cells.all (fun c => (Decimal.readFloat? c).isSome) then .fractional
  else if cells.all (fun c => (boolWord c).isSome) then .boolean
  else .string

/-- The schema that the records' cells suggest for the headers. -/
def inferSchema (headers : List String) (records : List (List String)) : Schema :=
  ⟨headers.zipIdx.map fun (name, idx) =>
    let cells := (records.filterMap (·[idx]?)).map Text.trim |>.filter (!isNullToken ·)
    { name := name, columnType := inferType cells }⟩

/-- Reads one cell for a column type, or says why it does not read. -/
def readCell (t : ColumnType) (raw : String) : Except String Value :=
  let s := Text.trim raw
  if isNullToken s then .ok .null
  else match t with
    | .integral => match Decimal.readInt64? s with
      | some n => .ok (.int n)
      | none => .error ("invalid integer '" ++ s ++ "'")
    | .fractional => match Decimal.readFloat? s with
      | some x => .ok (.float x)
      | none => .error ("invalid float '" ++ s ++ "'")
    | .boolean => match boolCell s with
      | some b => .ok (.bool b)
      | none => .error ("invalid boolean '" ++ s ++ "'")
    | .string => .ok (.text raw)

/-- The header position of each schema column, the last header of an equal name up to case. -/
def positions (schema : Schema) (headers : List String) : Except DataError (List Nat) :=
  let keyed := headers.zipIdx.map fun (h, i) => (Text.toLower h, i)
  let find (name : String) : Option Nat :=
    (keyed.reverse.find? (·.1 == Text.toLower name)).map (·.2)
  let missing := schema.columns.filter (fun c => (find c.name).isNone) |>.map (·.name)
  if missing.isEmpty then .ok (schema.columns.filterMap fun c => find c.name)
  else .error (.invalidDataset ("missing columns: " ++ ", ".intercalate missing))

/-- Reads one record into a row, numbering rows from one in refusals. -/
def readRow (schema : Schema) (positions : List Nat) (number : Nat) (record : List String) :
    Except DataError Row :=
  (schema.columns.zip positions).mapM fun (c, p) =>
    match readCell c.columnType (record[p]?.getD "") with
    | .ok v => .ok v
    | .error m => .error (.invalidDataset ("row " ++ toString number ++ " column '" ++ c.name ++
        "': " ++ m))

end Csv

/-- Reads a table from delimited text. -/
def Table.ofCsv (text : String) (options : Csv.Options) : Except DataError Table := do
  let records := Delimited.records text options.delimiter
  if let some w := Delimited.firstMismatch records then throw (.malformed w)
  let headers := (records.head?.map (·.fields)).getD [] |>.map Text.trim
  let body := (records.drop 1).map (·.fields)
  let (schema, positions) ← match options.schema with
    | some schema => do pure (schema, ← Csv.positions schema headers)
    | none => pure (Csv.inferSchema headers body, (List.range headers.length))
  let rows ← (body.zipIdx 1).mapM fun (record, n) => Csv.readRow schema positions n record
  Table.make schema rows

end DataQuality
