import DataQuality.Cli.Settings
import DataQuality.Check.Verification
import DataQuality.Suite.Validate
import DataQuality.Data.Csv

/-!
# Failures of the command line

Everything that can stop a command, and the record the program prints for it after
`Error: `.  A record names the failure and its cause, nested, with texts quoted and escaped:
`Settings(Write(Io(Os { code: 17, kind: AlreadyExists, message: "File exists" })))`.
Variants with one cause are written `Name(cause)`, variants with named parts
`Name { part: value, ... }`, lists `[a, b]`, and optional parts `None` or `Some(value)`.
-/

namespace DataQuality.Cli

/-- Why a run directory or one of its files could not be written. -/
inductive RegistryError where
  /-- The run directory could not be created. -/
  | runDirectory (path : String) (source : IoError)
  /-- A file of the run could not be written. -/
  | artifact (path : String) (source : IoError)
  deriving Inhabited

/-- Why a data file could not be had. -/
inductive DatasetError where
  /-- The file could not be opened. -/
  | opening (e : IoError)
  /-- The file was opened but could not be read. -/
  | reading (e : IoError)
  /-- The text is not a table. -/
  | content (e : DataError)
  deriving Inhabited

/-- Why a command failed. -/
inductive CliError where
  | registry (e : RegistryError)
  | settings (e : SettingsError)
  | dataset (e : DatasetError)
  | suite (e : SuiteError)
  | verification (e : VerificationError)
  | repository (e : RepositoryError)
  /-- The schema file is not a schema. -/
  | json (e : Json.ParseError)
  /-- The schema file could not be read. -/
  | io (e : IoError)
  /-- The options and settings do not fit together. -/
  | invalidConfig (message : String)
  /-- The verification ended with a status that fails the command. -/
  | failed (status : String)
  deriving Inhabited

namespace Record

/-- A variant with one part. -/
def wrap (name inner : String) : String := name ++ "(" ++ inner ++ ")"

/-- A variant with named parts. -/
def named (name : String) (parts : List (String × String)) : String :=
  name ++ " \x7b " ++ ", ".intercalate (parts.map fun (k, v) => k ++ ": " ++ v) ++ " \x7d"

/-- An optional part. -/
def optional (v : Option String) : String :=
  match v with
  | some s => wrap "Some" s
  | none => "None"

/-- A list. -/
def items (vs : List String) : String := "[" ++ ", ".intercalate vs ++ "]"

/-- A text. -/
def text (s : String) : String := Text.quoted s

/-- A refusal of the operating system. -/
def io (e : IoError) : String :=
  named "Os" [("code", toString e.code), ("kind", e.kindName), ("message", text e.description)]

/-- A refusal to read JSON. -/
def json (e : Json.ParseError) : String :=
  "Error(" ++ text e.cause ++ ", line: " ++ toString e.line ++ ", column: " ++ toString e.column ++ ")"

/-- A refusal to read TOML. -/
def toml (e : Toml.TomlError) : String := e.record

/-- A problem of a suite document, with its severity. -/
def issue (severity : String) (i : Issue) : String :=
  named "ValidationIssue" [("severity", severity), ("code", text i.code), ("path", text i.path),
    ("message", text i.message), ("hint", optional (i.hint.map text))]

/-- The problems of a suite document. -/
def report (r : ValidationReport) : String :=
  named "ValidationReport" [("errors", items (r.errors.map (issue "Error"))),
    ("warnings", items (r.warnings.map (issue "Warning")))]

/-- A failure to have a suite. -/
def suite : SuiteError → String
  | .io e => wrap "Io" (io e)
  | .json e => wrap "Json" (json e)
  | .toml e => wrap "Toml" (toml e)
  | .schema m => wrap "Schema" (text m)
  | .unsupportedFormat x => wrap "UnsupportedFormat" (text x)
  | .invalid r => wrap "Invalid" (report r)

/-- A failure of a repository. -/
def repository : RepositoryError → String
  | .io e => wrap "Io" (io e)
  | .json e => wrap "Json" (json e)
  | .unsupportedFormat path version =>
    named "UnsupportedFormat" [("path", text path), ("version", text version)]
  | .poisoned => "Poisoned"
  | .invalid m => wrap "Invalid" (text m)

/-- A failure of a run. -/
def runner : RunnerError → String
  | .repository e => wrap "Repository" (repository e)
  | .repositoryRequired p => wrap "RepositoryRequired" (text p)
  | .missingResults k n => named "MissingResults" [("key", text k), ("missing", toString n)]

/-- A failure of a verification. -/
def verification : VerificationError → String
  | .runner e => wrap "Runner" (runner e)
  | .invalidCheck c m => named "InvalidCheck" [("check", text c), ("message", text m)]

/-- A failure to have a table. -/
def dataset : DatasetError → String
  | .opening e => wrap "Io" (io e)
  | .reading e => wrap "Csv" (wrap "Error" (wrap "Io" (io e)))
  | .content (.invalidSchema m) => wrap "InvalidSchema" (text m)
  | .content (.invalidDataset m) => wrap "InvalidDataset" (text m)
  | .content (.malformed w) =>
    let position := named "Position" [("byte", toString w.byte), ("line", toString w.line),
      ("record", toString w.record)]
    wrap "Csv" (wrap "Error" (named "UnequalLengths" [("pos", optional (some position)),
      ("expected_len", toString w.expected), ("len", toString w.found)]))

/-- A failure to write a run. -/
def registry : RegistryError → String
  | .runDirectory path e => named "RunDirectory" [("path", text path), ("source", io e)]
  | .artifact path e => named "Artifact" [("path", text path), ("source", io e)]

/-- A failure to have the settings. -/
def settings : SettingsError → String
  | .io e => wrap "Io" (io e)
  | .toml e => wrap "TomlDe" (toml e)
  | .write e => wrap "Write" (repository e)

end Record

/-- The record of a failed command. -/
def CliError.record : CliError → String
  | .registry e => Record.wrap "Registry" (Record.registry e)
  | .settings e => Record.wrap "Settings" (Record.settings e)
  | .dataset e => Record.wrap "Core" (Record.dataset e)
  | .suite e => Record.wrap "Suite" (Record.suite e)
  | .verification e => Record.wrap "Verification" (Record.verification e)
  | .repository e => Record.wrap "Repository" (Record.repository e)
  | .json e => Record.wrap "Json" (Record.json e)
  | .io e => Record.wrap "Io" (Record.io e)
  | .invalidConfig m => Record.wrap "InvalidConfig" (Record.text m)
  | .failed s => Record.wrap "Failed" (Record.text s)

end DataQuality.Cli
