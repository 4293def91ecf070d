import DataQuality.Data.Value
import DataQuality.Text.Lower
import DataQuality.Data.Delimited

/-!
# Schemas and tables

A schema is an ordered list of columns, each with a name, a type and whether it admits nulls.
A valid schema has no blank column name and no two names equal up to case, since columns are
resolved without regard to case.  A table is a valid schema and rows of cells, each row as
wide as the schema and each cell fitting its column.

`Table.partitions` cuts the rows into contiguous chunks for parallel scans: the count is clamped
to `[1, rows]`, every chunk but the last has `⌈rows / count⌉` rows, and the chunks concatenate
to the rows.
-/

namespace DataQuality

/-- A column of a schema. -/
structure Column where
  name : String
  columnType : ColumnType
  nullable : Bool := true
  deriving Inhabited

/-- Columns compare by name, type and nullability. -/
def Column.equals (a b : Column) : Bool :=
  a.name == b.name && a.columnType == b.columnType && a.nullable == b.nullable

/-- The ordered columns of a dataset. -/
structure Schema where
  columns : List Column
  deriving Inhabited

namespace Schema

/-- The column of a name, compared exactly. -/
def column? (s : Schema) (name : String) : Option Column :=
  s.columns.find? (·.name == name)

/-- The position of a column, compared exactly. -/
def indexOf? (s : Schema) (name : String) : Option Nat :=
  s.columns.findIdx? (·.name == name)

/-- Whether a column of the name exists, compared exactly. -/
def hasColumn (s : Schema) (name : String) : Bool :=
  (s.column? name).isSome

/-- The names of the columns, in order. -/
def names (s : Schema) : List String :=
  s.columns.map (·.name)

/-- The number of columns. -/
def width (s : Schema) : Nat :=
  s.columns.length

/-- Schemas are equal when their columns are, in order. -/
def equals (a b : Schema) : Bool :=
  a.columns.length == b.columns.length &&
    (a.columns.zip b.columns).all fun p => p.1.equals p.2

end Schema

/-- Why a table could not be built or read. -/
inductive DataError where
  /-- The schema breaks a rule of schemas. -/
  | invalidSchema (message : String)
  /-- The rows do not match the schema. -/
  | invalidDataset (message : String)
  /-- A record of delimited text has the wrong number of fields. -/
  | malformed (mismatch : Delimited.WidthMismatch)
  deriving Inhabited

/-- The text of a data error. -/
def DataError.message : DataError → String
  | .invalidSchema m => "invalid schema: " ++ m
  | .invalidDataset m => "invalid dataset: " ++ m
  | .malformed m => "csv error: " ++ m.message

/-- Checks the rules of schemas, reporting the first column that breaks one. -/
def Schema.validate (s : Schema) : Except DataError Unit :=
  go 0 [] s.columns
where
  go (idx : Nat) (seen : List String) : List Column → Except DataError Unit
    | [] => .ok ()
    | c :: rest =>
      if Text.isBlankText c.name then
        .error (.invalidSchema ("column at position " ++ toString idx ++ " has an empty name"))
      else
        let key := Text.toLower c.name
        if seen.contains key then .error (.invalidSchema ("duplicate column name: " ++ c.name))
        else go (idx + 1) (key :: seen) rest

/-- A row of cells. -/
abbrev Row := List Value

/-- A schema with rows that fit it. -/
structure Table where
  schema : Schema
  rows : List Row
  deriving Inhabited

namespace Table

/-- The first problem of one row against the columns, if any. -/
def rowProblem (number : Nat) (row : Row) (columns : List Column) : Option String :=
  if row.length ≠ columns.length then
    some ("row " ++ toString number ++ " has " ++ toString row.length ++ " value(s), expected " ++
      toString columns.length)
  else
    (row.zip columns).findSome? fun (v, c) =>
      if !v.fits c.columnType then
        some ("row " ++ toString number ++ " column '" ++ c.name ++ "': value " ++ v.quoted ++
          " does not fit type " ++ c.columnType.label)
      else if v.isNull && !c.nullable then
        some ("row " ++ toString number ++ " column '" ++ c.name ++ "': null in non-nullable column")
      else none

/-- Builds a table, checking the schema and then every row in order. -/
def make (schema : Schema) (rows : List Row) : Except DataError Table := do
  schema.validate
  match (rows.zipIdx 1).findSome? (fun (row, n) => rowProblem n row schema.columns) with
  | some problem => .error (.invalidDataset problem)
  | none => .ok ⟨schema, rows⟩

/-- A table with no rows. -/
def empty (schema : Schema) : Except DataError Table :=
  make schema []

/-- The number of rows. -/
def size (t : Table) : Nat :=
  t.rows.length

/-- Cuts a list into consecutive chunks of `size` items, the last one possibly shorter.  Each
chunk takes at least one item, so as many rounds as items suffice. -/
def chunks {α : Type} (size : Nat) (xs : List α) : List (List α) :=
  if size = 0 then [xs] else go xs.length xs
where
  go : Nat → List α → List (List α)
    | _, [] => []
    | 0, ys => [ys]
    | fuel + 1, ys => ys.take size :: go fuel (ys.drop size)

/-- The rows cut into at most `count` contiguous chunks of equal size, the last one possibly
shorter; no chunks for an empty table. -/
def partitions (t : Table) (count : Nat) : List (List Row) :=
  if t.rows.isEmpty then []
  else
    let n := t.rows.length
    let count := max 1 (min count n)
    chunks ((n + count - 1) / count) t.rows

/-- The rows of both tables, when their schemas are equal. -/
def union (a b : Table) : Except DataError Table :=
  if a.schema.equals b.schema then .ok ⟨a.schema, a.rows ++ b.rows⟩
  else .error (.invalidDataset "cannot union tables with different schemas")

end Table

end DataQuality
