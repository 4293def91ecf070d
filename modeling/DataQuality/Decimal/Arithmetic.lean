import DataQuality.Decimal.Binary

/-!
# Arithmetic on doubles

The operations on doubles that the library needs beyond the four rules: the least and the
greatest of two numbers in the IEEE 754 `minNum`/`maxNum` sense (a not-a-number gives way to
the other operand; of two equal operands, such as `-0` and `+0`, the second is taken), clamping into a range, and whole
powers by repeated squaring, whose rounding is that of the square-and-multiply steps.
-/

namespace DataQuality.Decimal

/-- The lesser of two doubles; not-a-number gives way, a tie takes the second. -/
def minNum (a b : Float) : Float :=
  if b.isNaN then a else if a < b then a else b

/-- The greater of two doubles; not-a-number gives way, a tie takes the second. -/
def maxNum (a b : Float) : Float :=
  if b.isNaN then a else if a > b then a else b

/-- A double moved into `[lo, hi]`: below `lo` it becomes `lo`, above `hi` it becomes `hi`. -/
def clampInto (x lo hi : Float) : Float :=
  if x < lo then lo else if x > hi then hi else x

/-- Square-and-multiply from the low bit of the exponent: at each bit the running product takes
the current square when the bit is set, and the square is squared for the next bit. -/
def powLoop : Nat → Float → Float → Nat → Float
  | 0, _, r, _ => r
  | fuel + 1, a, r, n =>
    let r := if n % 2 == 1 then r * a else r
    if n / 2 == 0 then r else powLoop fuel (a * a) r (n / 2)

/-- A double raised to a whole power: the power of the magnitude of the exponent by repeated
squaring, and its reciprocal for a negative exponent. -/
def powInt (a : Float) (k : Int) : Float :=
  let r := powLoop (k.natAbs + 1) a 1 k.natAbs
  if k < 0 then 1 / r else r

/-- A 64-bit count as the nearest double. -/
def countToFloat (n : UInt64) : Float := ofInt n.toNat

end DataQuality.Decimal
