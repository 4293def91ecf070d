import DataQuality.Repository.Key
import DataQuality.Data.Ordered
import DataQuality.Files.Basic
import DataQuality.Json.Parse

/-!
# Stored runs

What a repository keeps under one result key: the metrics of the run by analyzer and the merged
aggregates by descriptor, both in key order.  Appending a newer entry replaces what it shares
with the older one and keeps the rest.

A repository saves entries (replacing what was under the key), loads the entry of a key, and
loads the entries a range query selects, in key order, with their metrics restricted to the
query's analyzers.  Its operations run in some monad and may fail with a repository error.
-/

namespace DataQuality

/-- Everything stored under one key. -/
structure Entry where
  key : ResultKey
  metrics : List (Analyzer × Metric) := []
  states : List (Descriptor × Aggregate) := []
  deriving Inhabited

namespace Entry

/-- The entry with the metrics and aggregates of a newer one, which win on shared keys. -/
def append (older newer : Entry) : Entry :=
  { older with
    metrics := Ordered.union older.metrics newer.metrics
    states := Ordered.union older.states newer.states }

/-- The metric of an analyzer, when it is stored and succeeded. -/
def successfulMetric? (e : Entry) (a : Analyzer) : Option Metric :=
  (Ordered.get? a e.metrics).filter Metric.isSuccess

end Entry

/-- The entry with only the metrics of the query's analyzers, when it names some. -/
def RangeQuery.project (q : RangeQuery) (e : Entry) : Entry :=
  match q.analyzers with
  | some keep => { e with metrics := e.metrics.filter fun (a, _) => keep.any (compare a · == .eq) }
  | none => e

/-- Why a repository operation failed. -/
inductive RepositoryError where
  /-- The file system refused. -/
  | io (e : IoError)
  /-- A stored document did not read, with the reason and where. -/
  | json (e : Json.ParseError)
  /-- A stored document of a format version this library does not read. -/
  | unsupportedFormat (path version : String)
  /-- The store was left unusable by an earlier failure. -/
  | poisoned
  /-- The repository was set up wrongly. -/
  | invalid (message : String)
  deriving Inhabited

/-- The wording of a repository failure. -/
def RepositoryError.message : RepositoryError → String
  | .io e => "io error: " ++ e.message
  | .json e => "json error: " ++ e.text
  | .unsupportedFormat p v => "unsupported format version '" ++ v ++ "' in " ++ p
  | .poisoned => "repository lock poisoned"
  | .invalid m => "invalid repository: " ++ m

/-- The operations of a metrics repository in a monad `m`. -/
structure Repository (m : Type → Type) where
  save : Entry → m (Except RepositoryError Unit)
  load : ResultKey → m (Except RepositoryError (Option Entry))
  loadRange : RangeQuery → m (Except RepositoryError (List Entry))

/-- The entries of a repository kept in memory, in key order. -/
abbrev MemoryStore := List (ResultKey × Entry)

namespace MemoryStore

/-- Saves an entry, replacing the one under its key. -/
def save (store : MemoryStore) (e : Entry) : MemoryStore := Ordered.put e.key e store

/-- The entry under a key. -/
def load (store : MemoryStore) (k : ResultKey) : Option Entry := Ordered.get? k store

/-- The entries a query selects, in key order, projected on its analyzers. -/
def loadRange (store : MemoryStore) (q : RangeQuery) : List Entry :=
  (store.filter fun (k, _) => q.matches k).map fun (_, e) => q.project e

/-- The in-memory repository over a store that a monad keeps, read by `load` and replaced by
`store`. -/
def repository {m : Type → Type} [Monad m] (load : m MemoryStore) (store : MemoryStore → m Unit) :
    Repository m where
  save e := do store ((← load).save e); return .ok ()
  load k := do return .ok ((← load).load k)
  loadRange q := do return .ok ((← load).loadRange q)

end MemoryStore

end DataQuality
