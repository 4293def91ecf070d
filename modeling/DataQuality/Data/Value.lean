import DataQuality.Decimal.Layout
import DataQuality.Decimal.Read
import DataQuality.Text.Quoted

/-!
# Cell values and column types

A table cell holds nothing (`null`), a boolean, a 64-bit integer, a double or a text.  A column
declares one of four types, and a cell fits a column when it is null or of the column's type,
an integer also fitting a fractional column.

Cells have two texts.  `Value.render` is the canonical text used for grouping keys and
hashing: `null`, `true`, an integer in decimal, a double in the plain layout, a text as it is.
`Value.quoted` is the text that names a cell inside messages, such as `Int(1)`, `Float(1.5)`
or `Text("x")`.
-/

namespace DataQuality

/-- The logical type of a column. -/
inductive ColumnType where
  | integral
  | fractional
  | boolean
  | string
  deriving Repr, BEq, DecidableEq, Inhabited

namespace ColumnType

/-- Whether values of the type are numbers. -/
def isNumeric : ColumnType → Bool
  | integral | fractional => true
  | _ => false

/-- The name of the type in messages, such as `Integral`. -/
def label : ColumnType → String
  | integral => "Integral"
  | fractional => "Fractional"
  | boolean => "Boolean"
  | string => "String"

/-- The name of the type in documents, such as `integral`. -/
def key : ColumnType → String
  | integral => "integral"
  | fractional => "fractional"
  | boolean => "boolean"
  | string => "string"

/-- The type a document name stands for. -/
def ofKey? : String → Option ColumnType
  | "integral" => some integral
  | "fractional" => some fractional
  | "boolean" => some boolean
  | "string" => some string
  | _ => none

end ColumnType

/-- A table cell.  Integers stay within the signed 64-bit range. -/
inductive Value where
  | null
  | bool (b : Bool)
  | int (n : Int)
  | float (x : Float)
  | text (s : String)
  deriving Inhabited

namespace Value

/-- Whether the cell is empty. -/
def isNull : Value → Bool
  | null => true
  | _ => false

/-- The cell as a double: integers are rounded to the nearest double. -/
def asFloat? : Value → Option Float
  | int n => some (Decimal.ofInt n)
  | float x => some x
  | _ => none

/-- The cell as an integer. -/
def asInt? : Value → Option Int
  | int n => some n
  | _ => none

/-- The cell as a text. -/
def asText? : Value → Option String
  | text s => some s
  | _ => none

/-- The cell as a boolean. -/
def asBool? : Value → Option Bool
  | bool b => some b
  | _ => none

/-- Whether the cell can be stored in a column of the type. -/
def fits : Value → ColumnType → Bool
  | null, _ => true
  | int _, .integral | int _, .fractional => true
  | float _, .fractional => true
  | bool _, .boolean => true
  | text _, .string => true
  | _, _ => false

/-- The canonical text of a cell, used for grouping keys and hashing. -/
def render : Value → String
  | null => "null"
  | bool b => if b then "true" else "false"
  | int n => toString n
  | float x => Decimal.plain x
  | text s => s

/-- Equality of cells as values: doubles compare as numbers, so not-a-number equals nothing
and `0.0` equals `-0.0`. -/
def equals : Value → Value → Bool
  | null, null => true
  | bool a, bool b => a == b
  | int a, int b => a == b
  | float a, float b => a == b
  | text a, text b => a == b
  | _, _ => false

end Value

/-- The name of a cell in messages: the kind and its content, such as `Int(1)`, `Float(1.5)`,
`Bool(true)`, `Text("x")` or `Null`. -/
def Value.quoted : Value → String
  | .null => "Null"
  | .bool b => "Bool(" ++ (if b then "true" else "false") ++ ")"
  | .int n => "Int(" ++ toString n ++ ")"
  | .float x => "Float(" ++ Decimal.debug x ++ ")"
  | .text s => "Text(" ++ Text.quoted s ++ ")"

end DataQuality
