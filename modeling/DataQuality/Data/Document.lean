import DataQuality.Data.Table
import DataQuality.Json.Decode
import DataQuality.Json.Form.Read

/-!
# Documents of schemas

A schema is written as `{"columns": [...]}`, each column as its name, its type in lower case and
whether it may hold nulls; a column read without that last member may.  Read from a text, a
schema that does not have this form is refused at the first fault, with its place
(`Json.Form.readText`).
-/

namespace DataQuality

open Json

/-- Reads a column type by its lower-case name. -/
def ColumnType.fromJson : Decoder ColumnType := fun v => do
  match ColumnType.ofKey? (← asString v) with
  | some t => pure t
  | none => throw "unknown column type"

/-- Reads a column. -/
def Column.fromJson : Decoder Column := fun c => do
  return { name := ← get c "name" asString, columnType := ← get c "column_type" ColumnType.fromJson,
           nullable := ← getD c "is_nullable" asBool true }

/-- Reads a schema. -/
def Schema.fromJson : Decoder Schema := fun v => do
  return ⟨← get v "columns" (asList Column.fromJson)⟩

/-- The form of a schema document. -/
def Schema.form : Form :=
  let columnType := Form.variants "ColumnType"
    ([ColumnType.integral, .fractional, .boolean, .string].map fun t => (t.key, none))
  .record "Schema" [("columns", .list (.record "Column" [("name", .text, .required),
    ("column_type", columnType, .required), ("is_nullable", .flag, .defaulted)]), .required)]

/-- Reads a schema from the text of a document. -/
def Schema.readText (text : String) : Except ParseError Schema := do
  let doc ← Schema.form.readText text
  (Schema.fromJson doc).mapError fun cause => ⟨cause, 0, 0⟩

/-- The document of a column. -/
def Column.toJson (c : Column) : Json :=
  obj [("name", str c.name), ("column_type", str c.columnType.key), ("is_nullable", bool c.nullable)]

/-- The document of a schema. -/
def Schema.toJson (s : Schema) : Json := obj [("columns", arr (s.columns.map Column.toJson))]

end DataQuality
