import DataQuality.Check.Report

/-!
# Documents of check values

The JSON forms of projections, constraint and check outcomes, their flat rows, verification
results, and the summary of a check.  Levels are written in lower case, statuses by their
names; the number a constraint judged is a plain double, `null` when absent or not finite.
-/

namespace DataQuality

open Json

/-- A projection: `"value"`, `"bin_count"` or `{"bin_ratio": bin}`. -/
def Projection.toJson : Projection → Json
  | .value => str "value"
  | .binCount => str "bin_count"
  | .binRatio bin => obj [("bin_ratio", str bin)]

/-- Reads a projection. -/
def Projection.fromJson : Decoder Projection
  | str "value" => .ok .value
  | str "bin_count" => .ok .binCount
  | obj [("bin_ratio", str bin)] => .ok (.binRatio bin)
  | _ => .error "expected a projection"

/-- Reads a level: `"warning"` or `"error"`. -/
def CheckLevel.fromJson : Decoder CheckLevel
  | str "warning" => .ok .warning
  | str "error" => .ok .error
  | _ => .error "expected a check level"

/-- The document of a constraint outcome. -/
def ConstraintResult.toJson (r : ConstraintResult) : Json :=
  obj [("constraint", str r.constraint), ("status", str r.status.label),
    ("message", ofOption str r.message), ("metric_value", ofOption float r.metricValue)]

/-- The document of a check outcome. -/
def CheckResult.toJson (r : CheckResult) : Json :=
  obj [("description", str r.description), ("level", str r.level.key),
    ("status", str r.status.label),
    ("constraint_results", arr (r.constraintResults.map ConstraintResult.toJson))]

/-- The document of a flat row of a constraint outcome. -/
def CheckResultRow.toJson (r : CheckResultRow) : Json :=
  obj [("check", str r.check), ("check_level", str r.level.key),
    ("check_status", str r.checkStatus.label), ("constraint", str r.constraint),
    ("constraint_status", str r.status.label), ("constraint_message", ofOption str r.message)]

/-- The document of a verification outcome. -/
def VerificationResult.toJson (r : VerificationResult) : Json :=
  obj [("status", str r.status.label),
    ("check_results", arr (r.checkResults.map CheckResult.toJson)),
    ("metrics", r.metrics.toJson)]

/-- The summary of a constraint: name, description, projection, hint and assertion text. -/
def Constraint.summary (k : Constraint) : Json :=
  obj [("name", str k.name), ("description", str k.description),
    ("projection", k.projection.toJson), ("hint", ofOption str k.hint),
    ("assertion", str k.assertion.text)]

/-- The summary of a check: description, level, the analyzers it needs and its constraints. -/
def Check.summary (c : Check) : Json :=
  obj [("description", str c.description), ("level", str c.level.key),
    ("required_analyzers", arr (c.requiredAnalyzers.map Analyzer.toJson)),
    ("constraints", arr (c.constraints.map Constraint.summary))]

/-- A verification outcome with its flat rows and its report. -/
def VerificationResult.toReportJson (r : VerificationResult) : Json :=
  obj [("result", r.toJson), ("check_rows", arr (r.rows.map CheckResultRow.toJson)),
    ("report", str r.report)]

/-- Reads verification options: the required analyzers and the run options beside them. -/
def VerificationOptions.fromJson : Decoder VerificationOptions := fun v => do
  return ⟨← getOr v "required_analyzers" (asList Analyzer.fromJson) [], ← AnalysisOptions.fromJson v⟩

end DataQuality
