import DataQuality.Decimal.Shortest

/-!
# Text layouts of a double

All three layouts start from the same shortest digits (`Dyadic.shortest`) and differ only in
where the decimal point goes and when an exponent is written:

* `plain` never writes an exponent and drops the point of an integral value (`5`, `0.0000001`,
  `1000000000000000000000`); it is the layout of numbers inside messages and of rendered cells;
* `debug` keeps a `.0` on integral values and switches to `1e16` or `1e-5` outside
  `[1e-4, 1e16)`; it is the layout inside the quoted form of a cell value;
* `json` is the layout of numbers in JSON documents: positional with `.0` while the point
  stands within seventeen places, scientific with a signed exponent (`1e+300`, `1.5e-7`) beyond.
-/

namespace DataQuality.Decimal

/-- `n` copies of the digit zero. -/
def zeros (n : Nat) : String :=
  String.ofList (List.replicate n '0')

/-- The digits with a point inserted after the first `k` of them. -/
def splitDigits (digits : String) (k : Nat) : String :=
  String.ofList (digits.toList.take k) ++ "." ++ String.ofList (digits.toList.drop k)

/-- Positional text of a decimal: digits padded with zeros on the right for a non-negative
exponent, a point inside the digits, or `0.` and zeros before them. -/
def Scientific.positional (x : Scientific) : String :=
  let digits := x.digitText
  if x.exponent ≥ 0 then digits ++ zeros x.exponent.toNat
  else
    let point := x.pointPosition
    if point > 0 then splitDigits digits point.toNat
    else "0." ++ zeros (-point).toNat ++ digits

/-- Scientific text `d.ddde±x` of a decimal: the first digit, the rest after a point when there
are any, and the exponent with a minus sign when negative and no plus sign. -/
def Scientific.exponential (x : Scientific) : String :=
  let digits := x.digitText
  let mantissa := if digits.length ≤ 1 then digits else splitDigits digits 1
  mantissa ++ "e" ++ toString (x.pointPosition - 1)

/-- Prefixes a minus sign when asked to. -/
def withSign (negative : Bool) (text : String) : String :=
  if negative then "-" ++ text else text

/-- The plain layout: shortest digits, never an exponent, no point on integral values;
`NaN`, `inf` and `-inf` for the values that are not finite. -/
def plain (x : Float) : String :=
  match decode x with
  | .nan => "NaN"
  | .infinite negative => withSign negative "inf"
  | .finite negative d => withSign negative d.shortest.positional

/-- The debug layout: like `plain` inside `[1e-4, 1e16)` but with `.0` on integral values,
scientific outside it, and `0.0` for zero. -/
def debug (x : Float) : String :=
  match decode x with
  | .nan => "NaN"
  | .infinite negative => withSign negative "inf"
  | .finite negative d =>
    let s := d.shortest
    if d.mantissa = 0 then withSign negative "0.0"
    else
      let point := s.pointPosition
      if point ≥ -3 ∧ point ≤ 16 then
        let text := s.positional
        withSign negative (if s.exponent ≥ 0 then text ++ ".0" else text)
      else withSign negative s.exponential

/-- Scientific text with the sign of the exponent always written: `1e+16`, `2.5e-8`. -/
def Scientific.exponentialSigned (x : Scientific) : String :=
  let digits := x.digitText
  let mantissa := if digits.length ≤ 1 then digits else splitDigits digits 1
  let e := x.pointPosition - 1
  mantissa ++ (if e ≥ 0 then "e+" else "e") ++ toString e

/-- The JSON layout of a finite double: positional with a trailing `.0` when the point stands
at most sixteen places right of the first digit and no further than five places left of it,
scientific with a signed exponent otherwise.  Zero is `0.0`. -/
def jsonText (negative : Bool) (d : Dyadic) : String :=
  let s := d.shortest
  if d.mantissa = 0 then withSign negative "0.0"
  else
    let digits := s.digitText
    let point := s.pointPosition
    let body :=
      if s.exponent ≥ 0 ∧ point ≤ 16 then digits ++ zeros s.exponent.toNat ++ ".0"
      else if point > 0 ∧ point ≤ 16 then splitDigits digits point.toNat
      else if point > -5 ∧ point ≤ 0 then "0." ++ zeros (-point).toNat ++ digits
      else s.exponentialSigned
    withSign negative body

end DataQuality.Decimal
