import DataQuality.Analysis.Decode
import DataQuality.Time.Civil

/-!
# Result keys and range queries

A result key names one run: a dataset date in milliseconds since the epoch and a set of tags,
each a name with a text value, kept in order of name.  Keys are ordered by date, then by their
tags compared pairwise.  A key is written as the RFC 3339 text of its date (or the bare number
when the date is out of range) followed by ` name=value` for each tag.

A range query selects keys whose date lies within optional inclusive bounds and which carry
given tags with the same values; it may also restrict which analyzers' metrics are returned.
-/

namespace DataQuality

/-- The name of a run: a date in milliseconds and tags in order of name. -/
structure ResultKey where
  date : Int
  tags : List (String × String) := []
  deriving BEq, Inhabited

/-- Puts a tag in its place by name, replacing one of the same name. -/
def placeTag (name value : String) : List (String × String) → List (String × String)
  | [] => [(name, value)]
  | (n, v) :: rest =>
    if name < n then (name, value) :: (n, v) :: rest
    else if name == n then (name, value) :: rest
    else (n, v) :: placeTag name value rest

/-- Tags in order of name from name-value pairs, a later pair for a name winning. -/
def tagsOf (pairs : List (String × String)) : List (String × String) :=
  pairs.foldl (fun acc (n, v) => placeTag n v acc) []

/-- The order of tag lists: pairwise by name, then value; a list before its extensions. -/
def compareTags : List (String × String) → List (String × String) → Ordering
  | [], [] => .eq
  | [], _ :: _ => .lt
  | _ :: _, [] => .gt
  | (n, v) :: rest, (m, w) :: more =>
    ((compare n m).then (compare v w)).then (compareTags rest more)

namespace ResultKey

instance : Ord ResultKey :=
  ⟨fun a b => (compare a.date b.date).then (compareTags a.tags b.tags)⟩

/-- The key with one more tag, replacing a tag of the same name. -/
def withTag (k : ResultKey) (name value : String) : ResultKey :=
  { k with tags := placeTag name value k.tags }

/-- Whether the date of a key lies in the supported range. -/
def hasDate (k : ResultKey) : Bool := (Time.rfc3339? k.date).isSome

/-- Whether a key carries every given tag with the same value. -/
def hasTags (k : ResultKey) (tags : List (String × String)) : Bool :=
  tags.all fun (n, v) => k.tags.lookup n == some v

/-- A key as text: its date, then each tag as ` name=value`. -/
def text (k : ResultKey) : String :=
  let date := (Time.rfc3339? k.date).getD (toString k.date)
  date ++ String.join (k.tags.map fun (n, v) => " " ++ n ++ "=" ++ v)

end ResultKey

/-- A selection of stored runs. -/
structure RangeQuery where
  /-- The least date, inclusive. -/
  after : Option Int := none
  /-- The greatest date, inclusive. -/
  before : Option Int := none
  tags : List (String × String) := []
  /-- The only analyzers whose metrics to keep, in order, each once. -/
  analyzers : Option (List Analyzer) := none
  deriving Inhabited

/-- Whether a query selects a key. -/
def RangeQuery.matches (q : RangeQuery) (k : ResultKey) : Bool :=
  (q.after.all fun a => k.date ≥ a) && (q.before.all fun b => k.date ≤ b) && k.hasTags q.tags

open Json

/-- A key as a document. -/
def ResultKey.toJson (k : ResultKey) : Json :=
  obj [("dataset_date", int k.date), ("tags", obj (k.tags.map fun (n, v) => (n, str v)))]

/-- Reads tags from an object of texts. -/
def tagsFromJson : Decoder (List (String × String)) := fun v => do
  let fields ← asObject v
  return tagsOf (← fields.mapM fun (n, x) => do return (n, ← asString x))

/-- Reads a key. -/
def ResultKey.fromJson : Decoder ResultKey := fun v => do
  return ⟨← get v "dataset_date" asInt64, ← getOr v "tags" tagsFromJson []⟩

/-- Puts an analyzer in its place in an ordered list without repeats. -/
def placeAnalyzer (a : Analyzer) : List Analyzer → List Analyzer
  | [] => [a]
  | b :: rest =>
    match compare a b with
    | .lt => a :: b :: rest
    | .eq => b :: rest
    | .gt => b :: placeAnalyzer a rest

/-- Reads a range query. -/
def RangeQuery.fromJson : Decoder RangeQuery := fun v => do
  let analyzers ← getOpt v "analyzers" (asList Analyzer.fromJson)
  return {
    after := ← getOpt v "after" asInt64
    before := ← getOpt v "before" asInt64
    tags := ← getOr v "tags" tagsFromJson []
    analyzers := analyzers.map fun xs => xs.foldl (fun acc a => placeAnalyzer a acc) [] }

end DataQuality
