import DataQuality.Repository.Key
import DataQuality.Files.Basic
import DataQuality.Json.Print
import DataQuality.Time.Civil

/-!
# Run records

Each `verify` writes a directory of its own under the directory of runs, named after the
second it started and its identifier: `2024-01-02T03-04-05Z__run_<id>`.  The directory holds
the record of the run (`config.json`: identifier, start, strictness, options, and the
version-control state, which is unknown here), a log (`logs.ndjson`), and, once the
verification is done, its result (`metrics.json`) and report (`report.md`).
-/

namespace DataQuality.Cli

open Json

/-- The options of a run as its record keeps them. -/
structure RunOptions where
  data : String
  suite : String
  partitions : Nat
  repository : Option String
  /-- The key of the run, when the run uses a repository. -/
  resultKey : Option ResultKey
  aggregateWith : List ResultKey
  saveStates : Bool
  saveResults : Bool
  deriving Inhabited

/-- The record of a run: its identifier, its start in milliseconds since the epoch, whether
it is strict, and its options. -/
structure RunRecord where
  runId : String
  startedAt : Int
  strict : Bool
  options : RunOptions
  deriving Inhabited

/-- An optional text as a document. -/
def optionalText (v : Option String) : Json := (v.map str).getD null

/-- The options of a run as a document. -/
def RunOptions.toJson (o : RunOptions) : Json :=
  obj [("data", str o.data), ("suite", str o.suite), ("partitions", int o.partitions),
    ("repository", optionalText o.repository), ("result_key", (o.resultKey.map (·.toJson)).getD null),
    ("aggregate_with", arr (o.aggregateWith.map (·.toJson))), ("save_states", bool o.saveStates),
    ("save_results", bool o.saveResults)]

namespace RunRecord

/-- The record of a run as a document. -/
def toJson (r : RunRecord) : Json :=
  obj [("run_id", str r.runId), ("started_at", str ((Time.rfc3339? r.startedAt).getD "")),
    ("strict", bool r.strict), ("options", r.options.toJson),
    ("git", obj [("commit", null), ("dirty", null)])]

/-- The name of the directory of a run. -/
def directoryName (r : RunRecord) : String :=
  (Time.fileStamp? r.startedAt).getD "" ++ "__run_" ++ r.runId

end RunRecord

/-- The paths of a run: its directory and its files. -/
structure RunPaths where
  root : String
  config : String
  logs : String
  metrics : String
  report : String
  deriving Inhabited

/-- The paths of a run under a directory of runs. -/
def RunPaths.under (runDir : String) (r : RunRecord) : RunPaths :=
  let root := Path.join runDir r.directoryName
  ⟨root, Path.join root "config.json", Path.join root "logs.ndjson", Path.join root "metrics.json",
    Path.join root "report.md"⟩

end DataQuality.Cli
