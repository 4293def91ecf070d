import DataQuality.Cli.Args
import DataQuality.Cli.Failure
import DataQuality.Cli.RunRecord
import DataQuality.Suite.Load
import DataQuality.Suite.Schema
import DataQuality.Check.Encode
import DataQuality.Check.Report
import DataQuality.Data.Document
import DataQuality.Repository.Directory

/-!
# The program

`execute` runs one command line against a host: its files, its clock, a source of fresh run
identifiers, and the number of partitions that stands for "one a thread".  It gives what the
program prints on each stream and its exit code: 0 when the command succeeds or help is shown,
1 when the command fails (the failure's record follows `Error: ` on standard error), 2 on a
usage error.

The settings come first: from the file named by `--config`, created when missing, or the
defaults.  Then:

* `verify` resolves its options against the settings, refuses to use a repository it was not
  given, starts the run directory, reads the schema, the data and the suite, opens the
  repository, verifies, writes the result and the report, and prints the status with the path
  of the report.  A strict run whose status is `Error` then fails.
* `history` prints the entries of a repository that a query selects, as a JSON array.
* `suite-schema` prints the JSON Schema of suite files.
-/

namespace DataQuality.Cli

open Json

/-- What the program runs against. -/
structure Host (m : Type → Type) where
  files : FileSystem m
  /-- The current time, in milliseconds since the epoch. -/
  now : m Int
  /-- A new run identifier. -/
  freshId : m String
  /-- The number of partitions used when zero is asked for. -/
  threads : Nat

/-- What a run of the program printed, and its exit code. -/
structure Console where
  exit : Nat
  stdout : String
  stderr : String
  deriving Inhabited

/-- A step of a command: it may fail, and it adds to standard output. -/
abbrev Step (m : Type → Type) := ExceptT CliError (StateT String m)

section

variable {m : Type → Type} [Monad m]

/-- Adds text to standard output. -/
def emit (text : String) : Step m Unit := modify (· ++ text)

/-- The value of an outcome, or its failure as a command failure. -/
def orFail {ε α : Type} (r : Except ε α) (f : ε → CliError) : Step m α :=
  match r with
  | .ok a => pure a
  | .error e => throw (f e)

/-- The key of a run: a date and tags, a later tag replacing an earlier one of the same name. -/
def runKey (date : Int) (tags : List (String × String)) : ResultKey :=
  tags.foldl (fun k (n, v) => k.withTag n v) ⟨date, []⟩

/-- Creates the directory of a run with its record and an empty log. -/
def startRun (fs : FileSystem m) (paths : RunPaths) (r : RunRecord) : Step m Unit := do
  orFail (← fs.createDirAll paths.root) fun e => .registry (.runDirectory paths.root e)
  orFail (← fs.writeText paths.config (Json.pretty r.toJson)) fun e => .registry (.artifact paths.config e)
  orFail (← fs.appendText paths.logs "") fun e => .registry (.artifact paths.logs e)

/-- Writes a file of a run. -/
def writeArtifact (fs : FileSystem m) (path text : String) : Step m Unit := do
  orFail (← fs.writeText path text) fun e => .registry (.artifact path e)

/-- Reads the schema of a data file. -/
def loadSchema (fs : FileSystem m) (path : String) : Step m Schema := do
  let text ← orFail (← fs.readText path) CliError.io
  orFail (Schema.readText text) CliError.json

/-- Reads a data file as a table: a directory opens but does not read. -/
def loadDataset (fs : FileSystem m) (path : String) (schema : Option Schema) :
    m (Except DatasetError Table) := do
  match ← fs.readText path with
  | .error .isADirectory => return .error (.reading .isADirectory)
  | .error e => return .error (.opening e)
  | .ok text => return (Table.ofCsv text { schema := schema }).mapError .content

/-- Runs `verify`. -/
def runVerify (host : Host m) (settings : Settings) (a : VerifyArgs) : Step m Unit := do
  let fs := host.files
  let runDir := a.runDir.getD settings.runDir
  let partitions := a.partitions.getD settings.partitions
  let repository := a.repository.orElse fun _ => settings.repository
  let wanted := a.saveStates || a.saveResults || a.reuseResults || !a.aggregateDates.isEmpty
  if wanted && repository.isNone then
    throw (.invalidConfig "--repository is required to save, reuse or aggregate results")
  let date ← match a.datasetDate with
    | some d => pure d
    | none => host.now
  let key := runKey date a.tags
  let aggregate := a.aggregateDates.map (runKey · a.tags)
  let runId ← host.freshId
  let startedAt ← host.now
  let record : RunRecord := ⟨runId, startedAt, a.strict,
    ⟨a.data, a.suite, partitions, repository, if wanted then some key else none, aggregate,
      a.saveStates, a.saveResults⟩⟩
  let paths := RunPaths.under runDir record
  startRun fs paths record
  let schema ← match a.schema with
    | some p => some <$> loadSchema fs p
    | none => pure none
  let table ← orFail (← (loadDataset fs a.data schema : m _)) .dataset
  let suite ← orFail (← (loadSuite fs a.suite : m _)) .suite
  let store ← match repository with
    | some dir => some <$> orFail (← (openDirectoryRepository fs dir : m _)) .repository
    | none => pure none
  let analysis : AnalysisOptions :=
    ⟨aggregate, if a.saveStates then some key else none, if a.saveResults then some key else none,
      if a.reuseResults then some key else none, false, []⟩
  let scanParts := if partitions == 0 then host.threads else partitions
  let result ← orFail (← (verify ⟨[], analysis⟩ store scanParts table suite.toChecks : m _)) .verification
  writeArtifact fs paths.metrics (Json.pretty result.toJson)
  writeArtifact fs paths.report (result.report ++ "\n")
  emit (result.status.label ++ ": " ++ paths.report ++ "\n")
  if a.strict && result.status == .error then throw (.failed result.status.label)

/-- Runs `history`. -/
def runHistory (host : Host m) (settings : Settings) (a : HistoryArgs) : Step m Unit := do
  let some root := a.repository.orElse fun _ => settings.repository
    | throw (.invalidConfig "--repository is required")
  let store ← orFail (← (openDirectoryRepository host.files root : m _)) .repository
  let query : RangeQuery := { after := a.after, before := a.before, tags := tagsOf a.tags }
  let entries ← orFail (← store.loadRange query) .repository
  emit (Json.pretty (arr (entries.map (·.toJson))) ++ "\n")

/-- Runs an invocation. -/
def runInvocation (host : Host m) (i : Invocation) : Step m Unit := do
  let settings ← match i.config with
    | some path => orFail (← (loadSettings host.files path : m _)) .settings
    | none => pure Settings.defaults
  match i.command with
  | .verify a => runVerify host settings a
  | .history a => runHistory host settings a
  | .suiteSchema => emit (Json.pretty suiteSchema ++ "\n")

/-- Runs a command line, without the program's name. -/
def execute (host : Host m) (words : List String) : m Console := do
  match parseArgs words with
  | .display text => return ⟨0, text, ""⟩
  | .refuse text => return ⟨2, "", text⟩
  | .run i =>
    let (outcome, out) ← (runInvocation host i).run.run ""
    match outcome with
    | .ok () => return ⟨0, out, ""⟩
    | .error e => return ⟨1, out, "Error: " ++ e.record ++ "\n"⟩

end

end DataQuality.Cli
