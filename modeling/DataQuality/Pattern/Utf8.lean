import DataQuality.Pattern.Hir

/-!
# Regular expressions: byte sequences of a range of scalars

A range of Unicode scalar values is matched byte by byte as a list of byte-range sequences: each
sequence is one encoded length, and its `k`-th range holds the `k`-th bytes.  A range is cut
until each piece has that shape:

* around the surrogates, which have no encoding;
* at the last scalar of each encoded length (`0x7F`, `0x7FF`, `0xFFFF`);
* where the pieces' leading bytes differ, at a multiple of `64`, `4096` or `262144`, so that
  every trailing byte of a piece spans a full or an end-aligned run of continuation bytes.

The pieces come out in increasing order.
-/

namespace DataQuality.Pattern

/-- A cut where encoded lengths change: the last scalar of the shorter length inside the range. -/
def lengthCut (lo hi : Nat) : Option Nat :=
  [0x7F, 0x7FF, 0xFFFF].find? fun m => lo ≤ m && m < hi

/-- A cut where leading bytes differ: for the first block size whose blocks the range spans,
the end of the first block when the range starts inside it, or the start of the last block when
the range ends inside it. -/
def blockCut (lo hi : Nat) : Option ((Nat × Nat) × (Nat × Nat)) :=
  [64, 4096, 262144].findSome? fun b =>
    if lo / b == hi / b then none
    else if lo % b != 0 then
      let e := lo - lo % b + (b - 1)
      some ((lo, e), (e + 1, hi))
    else if hi % b != b - 1 then
      let s := hi - hi % b
      some ((lo, s - 1), (s, hi))
    else none

/-- The byte ranges of a range whose ends have encodings of one length and one shape. -/
def encodedRanges (lo hi : Nat) : Array (Nat × Nat) :=
  ((utf8Bytes lo).zip (utf8Bytes hi)).toArray

/-- The byte sequences of the ranges on a stack, the top first; `fuel` bounds the cuts. -/
def sequencesOf : Nat → List (Nat × Nat) → Array (Array (Nat × Nat)) → Array (Array (Nat × Nat))
  | 0, _, out => out
  | _, [], out => out
  | fuel + 1, (lo, hi) :: stack, out =>
    if lo < 0xE000 && hi > 0xD7FF then sequencesOf fuel ((lo, 0xD7FF) :: (0xE000, hi) :: stack) out
    else if lo > hi then sequencesOf fuel stack out
    else match lengthCut lo hi with
      | some m => sequencesOf fuel ((lo, m) :: (m + 1, hi) :: stack) out
      | none =>
        if hi ≤ 0x7F then sequencesOf fuel stack (out.push #[(lo, hi)])
        else match blockCut lo hi with
          | some (a, b) => sequencesOf fuel (a :: b :: stack) out
          | none => sequencesOf fuel stack (out.push (encodedRanges lo hi))

/-- The byte sequences of a range of scalars, in order.  A range is cut fewer than a hundred
times, so the fuel never runs out. -/
def utf8Sequences (lo hi : Nat) : Array (Array (Nat × Nat)) :=
  sequencesOf 200 [(lo, hi)] #[]

end DataQuality.Pattern
