/-!
# Tallies

A tally counts occurrences by key: a list of keys with their counts, in increasing order of
key, each key once.  Adding to a key that is there raises its count; adding to a new key puts it
in its place.  Counts are 64-bit words and wrap past the top, like the counters they hold.

Two tallies merge by adding the counts of the second into the first, so merging is
commutative and the empty tally is its unit.
-/

namespace DataQuality

/-- Counts by key, in increasing order of key, each key once. -/
structure Tally (κ : Type) where
  entries : List (κ × UInt64) := []
  deriving BEq, Inhabited, Repr

namespace Tally

variable {κ : Type} [Ord κ]

/-- Adds `n` to the count of `k` in an ordered list of counts. -/
def bump (k : κ) (n : UInt64) : List (κ × UInt64) → List (κ × UInt64)
  | [] => [(k, n)]
  | (k', m) :: rest =>
    match compare k k' with
    | .lt => (k, n) :: (k', m) :: rest
    | .eq => (k', m + n) :: rest
    | .gt => (k', m) :: bump k n rest

/-- Sets the count of `k` in an ordered list of counts. -/
def place (k : κ) (n : UInt64) : List (κ × UInt64) → List (κ × UInt64)
  | [] => [(k, n)]
  | (k', m) :: rest =>
    match compare k k' with
    | .lt => (k, n) :: (k', m) :: rest
    | .eq => (k, n) :: rest
    | .gt => (k', m) :: place k n rest

/-- Adds `n` to the count of a key. -/
def add (t : Tally κ) (k : κ) (n : UInt64) : Tally κ := ⟨bump k n t.entries⟩

/-- Sets the count of a key. -/
def set (t : Tally κ) (k : κ) (n : UInt64) : Tally κ := ⟨place k n t.entries⟩

/-- The tally of key-count pairs, a later pair for a key replacing an earlier one. -/
def ofPairs (pairs : List (κ × UInt64)) : Tally κ :=
  pairs.foldl (fun t (k, n) => t.set k n) {}

/-- The sum of two tallies. -/
def merge (a b : Tally κ) : Tally κ :=
  b.entries.foldl (fun t (k, n) => t.add k n) a

/-- The count of a key, if it has been counted. -/
def get? [BEq κ] (t : Tally κ) (k : κ) : Option UInt64 :=
  (t.entries.find? (·.1 == k)).map (·.2)

/-- The number of keys. -/
def size (t : Tally κ) : Nat := t.entries.length

/-- The sum of the counts, wrapping past the top. -/
def total (t : Tally κ) : UInt64 := t.entries.foldl (fun s (_, n) => s + n) 0

/-- The number of keys counted exactly once. -/
def singles (t : Tally κ) : Nat := (t.entries.filter (·.2 == 1)).length

end Tally

end DataQuality
