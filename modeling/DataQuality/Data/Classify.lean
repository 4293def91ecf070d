import DataQuality.Data.Value
import DataQuality.Text.Blank

/-!
# The data class of a cell

The data-type profile of a column counts its cells by what they hold, reading texts for the
number or truth value they spell.  A null is `unknown`; booleans, integers and doubles are what
they are; a text, once trimmed, is `integral` when it is a whole number in the 64-bit range,
`fractional` when it is a finite real number, `boolean` when it is `true` or `false` in any
ASCII case, and `string` otherwise.
-/

namespace DataQuality

/-- What a cell holds, for the data-type profile. -/
inductive DataClass where
  | unknown
  | integral
  | fractional
  | boolean
  | string
  deriving Repr, BEq, DecidableEq, Inhabited

namespace DataClass

/-- All classes, in the order profiles list them. -/
def all : List DataClass := [unknown, integral, fractional, boolean, string]

/-- The label of a class, such as `Integral`. -/
def label : DataClass → String
  | unknown => "Unknown"
  | integral => "Integral"
  | fractional => "Fractional"
  | boolean => "Boolean"
  | string => "String"

/-- The class a text spells, once trimmed. -/
def ofText (s : String) : DataClass :=
  let t := Text.trim s
  if (Decimal.readInt64? t).isSome then integral
  else if !t.isEmpty && ((Decimal.readFloat? t).map (fun x => !x.isNaN && !x.isInf)).getD false then
    fractional
  else if Text.equalsIgnoringAsciiCase t "true" || Text.equalsIgnoringAsciiCase t "false" then
    boolean
  else string

/-- The class of a cell. -/
def ofValue : Value → DataClass
  | .null => unknown
  | .bool _ => boolean
  | .int _ => integral
  | .float _ => fractional
  | .text s => ofText s

end DataClass

end DataQuality
