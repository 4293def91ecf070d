/-!
# Ordered maps

A map as a list of key-value pairs in increasing order of key, each key once.  Putting a key
that is there replaces its value; a union lets the second map win on shared keys.  These are
the maps keyed by analyzers, descriptors and result keys, whose order shows in what the library
writes.
-/

namespace DataQuality

namespace Ordered

variable {κ α : Type} [Ord κ]

/-- Puts a value under a key in its place, replacing the value there. -/
def put (k : κ) (v : α) : List (κ × α) → List (κ × α)
  | [] => [(k, v)]
  | (k', v') :: rest =>
    match compare k k' with
    | .lt => (k, v) :: (k', v') :: rest
    | .eq => (k, v) :: rest
    | .gt => (k', v') :: put k v rest

/-- The value under a key. -/
def get? (k : κ) : List (κ × α) → Option α
  | [] => none
  | (k', v) :: rest => if compare k k' == .eq then some v else get? k rest

/-- Whether a key is there. -/
def contains (k : κ) (m : List (κ × α)) : Bool := (get? k m).isSome

/-- The map of pairs, a later pair for a key winning. -/
def ofList (pairs : List (κ × α)) : List (κ × α) :=
  pairs.foldl (fun m (k, v) => put k v m) []

/-- Both maps together, the second winning on shared keys. -/
def union (a b : List (κ × α)) : List (κ × α) :=
  b.foldl (fun m (k, v) => put k v m) a

/-- Adds a value to the list under a key, starting a list for a new key. -/
def push (k : κ) (v : α) (m : List (κ × List α)) : List (κ × List α) :=
  put k ((get? k m).getD [] ++ [v]) m

/-- The keys in order, each once, of a list of keys. -/
def keysOf (ks : List κ) : List κ :=
  (ofList (ks.map fun k => (k, ()))).map (·.1)

end Ordered

end DataQuality
