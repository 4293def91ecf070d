import DataQuality.Decimal.Binary

/-!
# Reading numbers from text

Two grammars of number text:

* a *whole number*: an optional `+` or `-` and one or more ASCII digits, nothing else, read into
  a signed 64-bit integer; a value outside `[-2^63, 2^63)` is refused;
* a *real number*: an optional sign, then `inf`, `infinity` or `nan` in any case, or a decimal
  with digits before or after an optional point (at least one digit in all) and an optional
  exponent `e`/`E` with an optional sign and at least one digit.  The value is the double
  nearest to the decimal (`ofRatio`), so it never fails for range: huge values become infinity
  and tiny ones zero.

Neither grammar allows blanks, underscores, hexadecimal or a lone point.
-/

namespace DataQuality.Decimal

/-- The value of a run of ASCII digits. -/
def digitsValue (ds : List Char) : Nat :=
  ds.foldl (fun acc c => acc * 10 + (c.toNat - '0'.toNat)) 0

/-- Splits off a leading `+` or `-`: whether the number is negative, and the rest. -/
def splitSign : List Char → Bool × List Char
  | '-' :: rest => (true, rest)
  | '+' :: rest => (false, rest)
  | cs => (false, cs)

/-- The least signed 64-bit integer. -/
def int64Min : Int := -Int.pow 2 63

/-- The greatest signed 64-bit integer. -/
def int64Max : Int := Int.pow 2 63 - 1

/-- Reads a whole number into the signed 64-bit range. -/
def readInt64? (text : String) : Option Int :=
  let (negative, body) := splitSign text.toList
  if body.isEmpty ∨ ¬ body.all Char.isDigit then none
  else
    let magnitude : Int := digitsValue body
    let value := if negative then -magnitude else magnitude
    if int64Min ≤ value ∧ value ≤ int64Max then some value else none

/-- A decimal as read: the digits before and after the point, and the written exponent. -/
structure DecimalText where
  whole : List Char
  fraction : List Char
  exponent : Int

/-- Reads the optional exponent part `e±ddd` that ends a decimal. -/
def readExponent : List Char → Option Int
  | [] => some 0
  | c :: rest =>
    if c = 'e' ∨ c = 'E' then
      let (negative, ds) := splitSign rest
      if ds.isEmpty ∨ ¬ ds.all Char.isDigit then none
      else
        let v : Int := digitsValue ds
        some (if negative then -v else v)
    else none

/-- Reads an unsigned decimal `ddd.ddde±x` with at least one digit around the point. -/
def readDecimalText (cs : List Char) : Option DecimalText :=
  let whole := cs.takeWhile Char.isDigit
  let rest := cs.dropWhile Char.isDigit
  let (fraction, rest) := match rest with
    | '.' :: more => (more.takeWhile Char.isDigit, more.dropWhile Char.isDigit)
    | _ => ([], rest)
  if whole.isEmpty ∧ fraction.isEmpty then none
  else (readExponent rest).map fun e => ⟨whole, fraction, e⟩

/-- The double nearest to `digits · 10 ^ exponent`.  Exponents far outside the range of
doubles are settled without computing the power: the value is then infinity or zero. -/
def ofDecimal (negative : Bool) (digits : Nat) (exponent : Int) : Float :=
  if digits = 0 then assemble negative 0 0
  else
    let magnitude : Int := (toString digits).length + exponent
    if magnitude > 310 then assemble negative 2047 0
    else if magnitude < -330 then assemble negative 0 0
    else if exponent ≥ 0 then ofRatio negative (digits * Nat.pow 10 exponent.toNat) 1
    else ofRatio negative digits (Nat.pow 10 (-exponent).toNat)

/-- Whether the characters spell a word, ignoring ASCII case. -/
def spells (cs : List Char) (word : String) : Bool :=
  cs.map Char.toLower == word.toList

/-- Reads a real number; see the module header for the grammar. -/
def readFloat? (text : String) : Option Float :=
  let (negative, body) := splitSign text.toList
  if spells body "inf" ∨ spells body "infinity" then
    some (assemble negative 2047 0)
  else if spells body "nan" then some notANumber
  else
    (readDecimalText body).map fun d =>
      ofDecimal negative (digitsValue (d.whole ++ d.fraction)) (d.exponent - d.fraction.length)

end DataQuality.Decimal
