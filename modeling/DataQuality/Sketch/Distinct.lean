import DataQuality.Digest.Sha256
import DataQuality.Decimal.Arithmetic

/-!
# Distinct-count sketches

A HyperLogLog sketch of the distinct texts of a stream, with `2^p` one-byte registers for a
precision `p` between 4 and 18.  A text is hashed by SHA-256; the first eight bytes of the
digest, read big-endian, give a 64-bit hash whose top `p` bits choose a register and whose
remaining bits give a rank, one more than their leading zeros.  A register keeps the greatest
rank it has seen, so merging takes the greatest of each pair of registers and is exact.
-/

namespace DataQuality

open Decimal

/-- A distinct-count sketch: its precision and its registers. -/
structure DistinctSketch where
  precision : UInt8
  registers : Array UInt8
  deriving BEq, Inhabited

namespace DistinctSketch

/-- The precision the library uses. -/
def defaultPrecision : UInt8 := 12

/-- The empty sketch of a precision, the precision first held between 4 and 18. -/
def empty (precision : UInt8) : DistinctSketch :=
  let p := if precision < 4 then 4 else if precision > 18 then 18 else precision
  ⟨p, Array.replicate (Nat.pow 2 p.toNat) 0⟩

/-- The 64-bit hash of a text: the first eight bytes of its SHA-256 digest, big-endian. -/
def hash (text : String) : UInt64 :=
  ((Digest.sha256 text.toUTF8).take 8).foldl (fun h b => (h <<< 8) ||| b.toUInt64) 0

/-- The number of zero bits before the first one bit of a word; 64 for zero. -/
def leadingZeros (x : UInt64) : Nat :=
  (List.range 64).find? (fun i => (x >>> (63 - i).toUInt64) &&& 1 == 1) |>.getD 64

/-- The sketch with one more text. -/
def insert (s : DistinctSketch) (text : String) : DistinctSketch :=
  let p := s.precision.toNat
  let h := hash text
  let index := (h >>> (64 - p).toUInt64).toNat
  let rest := h <<< p.toUInt64
  let rank := Nat.min (leadingZeros rest + 1) (64 - p + 1)
  match s.registers[index]? with
  | some r => { s with registers := s.registers.set! index (max r (UInt8.ofNat rank)) }
  | none => s

/-- The union of two sketches of the same precision and size. -/
def merge? (s t : DistinctSketch) : Option DistinctSketch :=
  if s.precision == t.precision && s.registers.size == t.registers.size then
    some ⟨s.precision, Array.zipWith max s.registers t.registers⟩
  else none

/-- The HyperLogLog estimate of the number of distinct texts in a number type, given how counts,
integer powers and the natural logarithm are computed there: the raw estimate
`α m² / Σ 2^(-r)` with `α = 0.7213 / (1 + 1.079 / m)`, replaced by linear counting
`m ln (m / zeros)` when it is at most `2.5 m` and some register is still zero. -/
def estimateIn {α : Type} [Add α] [Mul α] [Div α] [Neg α] [OfNat α 2] [OfScientific α] [LE α]
    [DecidableLE α] (ofCount : Nat → α) (powi : α → Int → α) (log : α → α)
    (s : DistinctSketch) : α :=
  let m := ofCount s.registers.size
  let alpha := 0.7213 / (1.0 + 1.079 / m)
  let sum := s.registers.foldl (fun acc r => acc + powi 2 (-(r.toNat : Int))) (-0.0)
  let raw := alpha * m * m / sum
  let zeros := (s.registers.filter (· == 0)).size
  if raw ≤ 2.5 * m && zeros > 0 then m * log (m / ofCount zeros) else raw

/-- The estimate of the number of distinct texts, computed in doubles. -/
def estimate (s : DistinctSketch) : Float :=
  s.estimateIn (fun n => countToFloat n.toUInt64) powInt Float.log

end DistinctSketch

end DataQuality
