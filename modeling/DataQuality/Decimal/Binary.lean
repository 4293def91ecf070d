/-!
# Binary64 values as exact numbers

A double is read here as exact arithmetic: a finite double is `± m · 2^e` with a natural
mantissa `m` and an integer exponent `e`, the layout of IEEE 754 binary64 (52 stored fraction
bits, exponent bias 1075 for the unit in the last place, subnormals at `2^-1074`).

`ofRatio` goes the other way: it rounds a positive rational `num / den` to the nearest double,
ties to the even mantissa, with overflow to infinity.  Every reading of decimal text and every
conversion of an integer to a double goes through it, so all of them round the same way.
-/

namespace DataQuality.Decimal

/-- The value `m · 2^e` of a finite double, without its sign. -/
structure Dyadic where
  mantissa : Nat
  exponent : Int
  deriving Repr, BEq, Inhabited

/-- The kinds of binary64 values: not a number, an infinity of a sign, or a finite value
with a sign. -/
inductive Binary64 where
  | nan
  | infinite (negative : Bool)
  | finite (negative : Bool) (value : Dyadic)
  deriving Repr, BEq, Inhabited

/-- Splits a double into its IEEE 754 fields: the sign bit, eleven exponent bits and
fifty-two fraction bits. -/
def decode (x : Float) : Binary64 :=
  let bits : Nat := x.toBits.toNat
  let negative := bits / Nat.pow 2 63 % 2 == 1
  let biased : Nat := bits / Nat.pow 2 52 % 2048
  let fraction : Nat := bits % Nat.pow 2 52
  if biased == 2047 then
    if fraction == 0 then .infinite negative else .nan
  else if biased == 0 then
    .finite negative ⟨fraction, -1074⟩
  else
    .finite negative ⟨fraction + Nat.pow 2 52, (biased : Int) - 1075⟩

/-- Whether the sign bit of a double is set; true of `-0.0` and of negative infinity. -/
def signBit (x : Float) : Bool :=
  x.toBits.toNat / Nat.pow 2 63 % 2 == 1

/-- The double with the given sign, biased exponent and fraction bits. -/
def assemble (negative : Bool) (biased fraction : Nat) : Float :=
  Float.ofBits (UInt64.ofNat ((if negative then Nat.pow 2 63 else 0) + biased * Nat.pow 2 52 + fraction))

/-- Positive infinity. -/
def infinity : Float := assemble false 2047 0

/-- The quiet not-a-number that arithmetic produces. -/
def notANumber : Float := assemble false 2047 (Nat.pow 2 51)

/-- Whether `num / den ≥ 2 ^ e`. -/
def ratioAtLeastPow2 (num den : Nat) (e : Int) : Bool :=
  num * Nat.pow 2 (-e).toNat ≥ den * Nat.pow 2 e.toNat

/-- The exponent `⌊log₂ (num / den)⌋` of a positive ratio. -/
def floorLog2 (num den : Nat) : Int :=
  let guess : Int := (num.log2 : Int) - den.log2
  if ratioAtLeastPow2 num den guess then guess else guess - 1

/-- The quotient `num / den` rounded to the nearest natural number, a tie going to the even
one. -/
def roundHalfEven (num den : Nat) : Nat :=
  let q := num / den
  let r := num % den
  if 2 * r > den ∨ (2 * r = den ∧ q % 2 = 1) then q + 1 else q

/-- The double nearest to `num / den` (with `den > 0`), carrying the given sign.  Ties go to
the even mantissa; a ratio past the largest double becomes infinity. -/
def ofRatio (negative : Bool) (num den : Nat) : Float :=
  if num = 0 ∨ den = 0 then assemble negative 0 0
  else
    let unit : Int := max (floorLog2 num den - 52) (-1074)
    let m := roundHalfEven (num * Nat.pow 2 (-unit).toNat) (den * Nat.pow 2 unit.toNat)
    let (m, unit) := if m = Nat.pow 2 53 then (Nat.pow 2 52, unit + 1) else (m, unit)
    if unit > 971 then assemble negative 2047 0
    else if m < Nat.pow 2 52 then assemble negative 0 m
    else assemble negative (unit + 1075).toNat (m - Nat.pow 2 52)

/-- The double nearest to an integer, ties to even. -/
def ofInt (n : Int) : Float :=
  ofRatio (n < 0) n.natAbs 1

/-- The magnitude of a finite double as an exact ratio `(num, den)`. -/
def Dyadic.toRatio (d : Dyadic) : Nat × Nat :=
  (d.mantissa * Nat.pow 2 d.exponent.toNat, Nat.pow 2 (-d.exponent).toNat)

/-- The integer part of a finite double, rounded toward zero; `none` for not-a-number and the
infinities. -/
def truncate (x : Float) : Option Int :=
  match decode x with
  | .finite negative d =>
    let (num, den) := d.toRatio
    let q : Int := num / den
    some (if negative then -q else q)
  | _ => none

/-- A double converted to a 64-bit unsigned count the saturating way: rounded toward zero,
not-a-number and negative values to zero, values past the range to its top. -/
def toCount (x : Float) : Nat :=
  match decode x with
  | .nan => 0
  | .infinite negative => if negative then 0 else Nat.pow 2 64 - 1
  | .finite negative d =>
    if negative then 0 else
    let (num, den) := d.toRatio
    min (num / den) (Nat.pow 2 64 - 1)

/-- A double converted to a 32-bit signed integer the saturating way: rounded toward zero,
not-a-number to zero, values past the range to its ends. -/
def toInt32 (x : Float) : Int :=
  match decode x with
  | .nan => 0
  | .infinite negative => if negative then -Int.pow 2 31 else Int.pow 2 31 - 1
  | .finite negative d =>
    let (num, den) := d.toRatio
    let q : Int := num / den
    let v := if negative then -q else q
    max (-Int.pow 2 31) (min v (Int.pow 2 31 - 1))

end DataQuality.Decimal
