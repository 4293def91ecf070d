import DataQuality.Suite.Config
import DataQuality.Suite.Schema
import DataQuality.Json.Schema
import DataQuality.Toml.Error

/-!
# Validating suites

A suite document is read in two passes.  The first checks it against the suite schema; every
place that does not fit is an error.  The second reads the suite and checks what the schema
cannot say: a suite without checks, a check declared twice or without constraints (warnings),
and bounds in the wrong order, an empty list where a constraint needs entries, or a quantile
outside `[0, 1]` (errors).  Every issue names the place in the document as a JSON pointer and
carries a code, a message and sometimes a hint.
-/

namespace DataQuality

open Json

/-- A problem found in a suite document. -/
structure Issue where
  code : String
  path : String
  message : String
  hint : Option String := none
  deriving Inhabited

/-- The problems found in a suite document: errors refuse it, warnings do not. -/
structure ValidationReport where
  errors : List Issue := []
  warnings : List Issue := []
  deriving Inhabited

namespace ValidationReport

/-- Whether the document has no errors. -/
def isOk (r : ValidationReport) : Bool := r.errors.isEmpty

/-- The errors, each as `path: message`, separated by semicolons. -/
def summary (r : ValidationReport) : String :=
  "; ".intercalate (r.errors.map fun i => i.path ++ ": " ++ i.message)

/-- The problems of two reports, the first report's first. -/
def merge (a b : ValidationReport) : ValidationReport :=
  ⟨a.errors ++ b.errors, a.warnings ++ b.warnings⟩

end ValidationReport

/-- The document of an issue. -/
def Issue.toJson (i : Issue) : Json :=
  obj [("code", str i.code), ("path", str i.path), ("message", str i.message),
    ("hint", ofOption str i.hint)]

/-- The places where a document does not fit the suite schema. -/
def validateSuiteJson (doc : Json) : ValidationReport :=
  { errors := (Json.check suiteSchema doc).map fun v =>
      let path := pointer v.path
      ⟨"schema_violation", if path.isEmpty then "/" else path, v.message, none⟩ }

/-- The errors of one declared constraint at a place. -/
def constraintIssues (spec : ConstraintSpec) (path : String) : List Issue :=
  let reversed := match spec.bound? with
    | some (.between lo hi) =>
      if lo > hi then
        [⟨"empty_range", path ++ "/assertion/between",
          "between bounds are reversed: " ++ Decimal.plain lo ++ " > " ++ Decimal.plain hi,
          some "swap min and max"⟩]
      else []
    | _ => []
  let empty := (spec.lists.filter List.isEmpty).map fun _ =>
    ⟨"empty_list", path, "constraint needs at least one entry", none⟩
  let own := match spec with
    | .hasApproxQuantile _ q _ =>
      if 0 ≤ q && q ≤ 1 then []
      else [⟨"quantile_out_of_range", path ++ "/quantile",
        "quantile " ++ Decimal.plain q ++ " is outside [0, 1]", none⟩]
    | .isContainedInRange _ lo hi =>
      if lo > hi then
        [⟨"empty_range", path ++ "/lower",
          "range bounds are reversed: " ++ Decimal.plain lo ++ " > " ++ Decimal.plain hi,
          some "swap lower and upper"⟩]
      else []
    | _ => []
  reversed ++ empty ++ own

/-- What the schema cannot say about a suite. -/
def validateSuite (s : SuiteConfig) : ValidationReport :=
  let start : ValidationReport :=
    if s.checks.isEmpty then
      { warnings := [⟨"empty_suite", "/checks", "suite declares no checks", none⟩] }
    else {}
  let (report, _) := s.checks.zipIdx.foldl (fun (acc : ValidationReport × List String) (c, i) =>
    let (report, seen) := acc
    let base := "/checks/" ++ toString i
    let twice := if seen.contains c.description then
        [⟨"duplicate_check", base ++ "/description",
          "check '" ++ c.description ++ "' is declared more than once",
          some "give each check a distinct description"⟩]
      else []
    let bare := if c.constraints.isEmpty then
        [⟨"empty_check", base ++ "/constraints",
          "check '" ++ c.description ++ "' has no constraints", none⟩]
      else []
    let errors := c.constraints.zipIdx.flatMap fun (k, j) =>
      constraintIssues k.spec (base ++ "/constraints/" ++ toString j)
    (report.merge ⟨errors, twice ++ bare⟩, seen ++ [c.description])) (start, [])
  report

/-- Why a suite could not be had. -/
inductive SuiteError where
  /-- The file could not be read. -/
  | io (e : IoError)
  /-- The file is not JSON. -/
  | json (e : ParseError)
  /-- The file is not TOML. -/
  | toml (e : Toml.TomlError)
  /-- The schema itself could not be used. -/
  | schema (message : String)
  /-- The file is of a kind suites are not written in, by its extension. -/
  | unsupportedFormat (extension : String)
  /-- The document is not a valid suite. -/
  | invalid (report : ValidationReport)
  deriving Inhabited

/-- The wording of a suite failure. -/
def SuiteError.message : SuiteError → String
  | .io e => "io error: " ++ e.message
  | .json e => "json error: " ++ e.text
  | .toml e => "toml error: " ++ e.text
  | .schema m => "schema error: " ++ m
  | .unsupportedFormat x => "unsupported suite format: " ++ x
  | .invalid r => "invalid suite: " ++ r.summary

/-- Reads a suite document: first against the schema, then as a suite, then for what the
schema cannot say. -/
def parseSuite (doc : Json) : Except SuiteError SuiteConfig := do
  let report := validateSuiteJson doc
  if !report.isOk then throw (.invalid report)
  match SuiteConfig.fromJson doc with
  | .error e =>
    throw (.invalid { report with errors := report.errors ++
      [⟨"invalid_suite_json", "/", e, none⟩] })
  | .ok suite =>
    let report := report.merge (validateSuite suite)
    if !report.isOk then throw (.invalid report)
    return suite

end DataQuality
