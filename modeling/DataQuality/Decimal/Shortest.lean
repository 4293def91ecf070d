import DataQuality.Decimal.Binary

/-!
# Shortest decimal digits of a double

Every finite double `x` owns an interval of reals that round to it: the points halfway to its
two neighbours bound it, and they belong to it exactly when the mantissa of `x` is even (ties
go to the even mantissa).  The shortest decimal text of `x` is a decimal with the fewest
significant digits inside that interval, and of those the nearest to `x`.

`Dyadic.shortest` finds it by exact arithmetic on natural numbers.  For `n = 1, 2, …, 17` it
looks at the two decimals with `n` significant digits next to `x`, one below and one above:
if any decimal of `n` digits lies in the interval, one of these two does, since the interval
contains `x` and is convex.  Seventeen digits always suffice for a double.  When both lie in
the interval the nearer wins, and of two equally near the one with the even last digit.
-/

namespace DataQuality.Decimal

/-- A decimal `digits · 10 ^ exponent`. -/
structure Scientific where
  digits : Nat
  exponent : Int
  deriving Repr, BEq, Inhabited

/-- Compares `a · 10 ^ s` with `b · 2 ^ t` exactly. -/
def compareScaled (a : Nat) (s : Int) (b : Nat) (t : Int) : Ordering :=
  compare (a * Nat.pow 10 s.toNat * Nat.pow 2 (-t).toNat) (b * Nat.pow 2 t.toNat * Nat.pow 10 (-s).toNat)

/-- Whether `10 ^ e ≤ m · 2 ^ q`. -/
def pow10AtMost (e : Int) (m : Nat) (q : Int) : Bool :=
  compareScaled 1 e m q != .gt

/-- Raises a guess of the decimal exponent while `10 ^ (e + 1)` still fits below the value. -/
def raiseExponent (m : Nat) (q : Int) : Nat → Int → Int
  | 0, e => e
  | fuel + 1, e => if pow10AtMost (e + 1) m q then raiseExponent m q fuel (e + 1) else e

/-- Lowers a guess of the decimal exponent while `10 ^ e` lies above the value. -/
def lowerExponent (m : Nat) (q : Int) : Nat → Int → Int
  | 0, e => e
  | fuel + 1, e => if pow10AtMost e m q then e else lowerExponent m q fuel (e - 1)

/-- The decimal exponent `⌊log₁₀ (m · 2 ^ q)⌋` of a positive dyadic value.  The guess
`⌊(log₂ m + q) · 0.30103⌋` is within two of it, and four steps either way settle it. -/
def Dyadic.decimalExponent (d : Dyadic) : Int :=
  let guess : Int := ((d.mantissa.log2 : Int) + d.exponent) * 30103 / 100000
  lowerExponent d.mantissa d.exponent 4 (raiseExponent d.mantissa d.exponent 4 guess)

/-- The rounding interval of a positive dyadic value `m · 2 ^ q`, scaled by four so that its
ends are integers times `2 ^ (q - 2)`: the lower end, the upper end, and whether the ends
belong to it.  The gap below is half as wide when `m` is the smallest normal mantissa of its
binade, since the neighbour below then has a smaller exponent. -/
structure Interval where
  low : Nat
  high : Nat
  scale : Int
  closed : Bool

/-- The reals that round to the double `m · 2 ^ q`. -/
def Dyadic.interval (d : Dyadic) : Interval :=
  let below := if d.mantissa = Nat.pow 2 52 ∧ d.exponent > -1074 then 1 else 2
  { low := 4 * d.mantissa - below
    high := 4 * d.mantissa + 2
    scale := d.exponent - 2
    closed := d.mantissa % 2 == 0 }

/-- Whether the decimal `c · 10 ^ s` lies in the interval. -/
def Interval.contains (i : Interval) (c : Nat) (s : Int) : Bool :=
  let aboveLow := match compareScaled c s i.low i.scale with
    | .gt => true
    | .eq => i.closed
    | .lt => false
  let belowHigh := match compareScaled c s i.high i.scale with
    | .lt => true
    | .eq => i.closed
    | .gt => false
  aboveLow && belowHigh

/-- The largest multiple count `c` with `c · 10 ^ s ≤ m · 2 ^ q`. -/
def Dyadic.floorAt (d : Dyadic) (s : Int) : Nat :=
  (d.mantissa * Nat.pow 2 d.exponent.toNat * Nat.pow 10 (-s).toNat) /
    (Nat.pow 2 (-d.exponent).toNat * Nat.pow 10 s.toNat)

/-- Of the two grid neighbours `c · 10 ^ s` and `(c + 1) · 10 ^ s` around the value, the
nearer one; equally near ones give the even count. -/
def Dyadic.nearer (d : Dyadic) (c : Nat) (s : Int) : Nat :=
  -- compare 2x with (2c + 1) · 10 ^ s
  match compareScaled (2 * c + 1) s (2 * d.mantissa) d.exponent with
  | .gt => c
  | .lt => c + 1
  | .eq => if c % 2 == 0 then c else c + 1

/-- Tries grids of `n, n + 1, …` significant digits, at most `fuel` of them, and returns the
first decimal inside the interval. -/
def Dyadic.searchGrids (d : Dyadic) (i : Interval) (top : Int) : Nat → Nat → Option Scientific
  | 0, _ => none
  | fuel + 1, n =>
    let s := top - n + 1
    let c := d.floorAt s
    match i.contains c s, i.contains (c + 1) s with
    | true, true => some ⟨d.nearer c s, s⟩
    | true, false => some ⟨c, s⟩
    | false, true => some ⟨c + 1, s⟩
    | false, false => d.searchGrids i top fuel (n + 1)

/-- Removes trailing zero digits, raising the exponent to keep the value. -/
def Scientific.trim (x : Scientific) : Nat → Scientific
  | 0 => x
  | fuel + 1 =>
    if x.digits ≠ 0 ∧ x.digits % 10 = 0 then
      Scientific.trim ⟨x.digits / 10, x.exponent + 1⟩ fuel
    else x

/-- The shortest decimal inside the rounding interval of a positive dyadic value, the nearest
of those to it, without trailing zeros.  Zero gives `0 · 10 ^ 0`. -/
def Dyadic.shortest (d : Dyadic) : Scientific :=
  if d.mantissa = 0 then ⟨0, 0⟩
  else
    let found := (d.searchGrids d.interval d.decimalExponent 17 1).getD
      ⟨d.floorAt (d.decimalExponent - 16), d.decimalExponent - 16⟩
    found.trim 20

/-- The decimal digits of a natural number, most significant first. -/
def Scientific.digitText (x : Scientific) : String :=
  toString x.digits

/-- The position of the decimal point counted from the left of the digit text: the value is
`0.d₁d₂… · 10 ^ pointPosition`. -/
def Scientific.pointPosition (x : Scientific) : Int :=
  (x.digitText.length : Int) + x.exponent

end DataQuality.Decimal
