import DataQuality.Check.Verification

/-!
# Verification reports

A verification result is written as a Markdown document: a run summary, a table of the checks
with the number of constraints of each outcome, the messages of the constraints that did not
succeed, a table of the scalar metric rows, and, when some analyzer failed, the failed metrics.
Vertical bars inside table cells of free text are escaped, so that a description cannot split
its row.  The text depends on the result only.
-/

namespace DataQuality

namespace Report

/-- A table cell of free text, each vertical bar escaped with a backslash. -/
def escapeCell (value : String) : String :=
  String.join (value.toList.map fun c => if c == '|' then "\\|" else c.toString)

/-- A table row of cells. -/
def tableRow (cells : List String) : String := "| " ++ " | ".intercalate cells ++ " |"

/-- The row of a check: description, level, status and the count of each constraint outcome. -/
def checkRow (c : CheckResult) : String :=
  let count := fun (s : ConstraintStatus) => toString (c.constraintResults.countP (·.status == s))
  tableRow [escapeCell c.description, c.level.label, c.status.label, count .success,
    count .failure, count .skipped]

/-- The message lines of the constraints of a check that did not succeed. -/
def messageLines (c : CheckResult) : List String :=
  (c.constraintResults.filter (·.status != .success)).map fun k =>
    "- [" ++ c.description ++ "] " ++ k.constraint ++ ": " ++ k.status.label ++ ": " ++
      k.message.getD "-"

/-- The row of a scalar metric. -/
def metricRow (r : MetricRow) : String :=
  tableRow [r.entity.label, escapeCell r.subject, escapeCell r.name, Decimal.plain r.value]

end Report

open Report in
/-- The Markdown report of a verification result. -/
def VerificationResult.report (r : VerificationResult) : String :=
  let constraints := r.checkResults.foldl (fun n c => n + c.constraintResults.length) 0
  let summary :=
    ["# Data Quality Verification Report", "", "## Run summary",
      "- status: " ++ r.status.label,
      "- checks: " ++ toString r.checkResults.length,
      "- constraints: " ++ toString constraints,
      "- metrics: " ++ toString r.metrics.size, ""]
  let checks := ["## Checks", "| check | level | status | passed | failed | skipped |",
    "| --- | --- | --- | --- | --- | --- |"] ++ r.checkResults.map checkRow ++ [""]
  let messages := match r.checkResults.flatMap messageLines with
    | [] => []
    | lines => "## Constraint messages" :: lines ++ [""]
  let metrics := ["## Metrics", "| entity | instance | name | value |", "| --- | --- | --- | --- |"] ++
    r.metrics.rows.map metricRow
  let failures := match r.metrics.failures with
    | [] => []
    | fs => ["", "## Failed metrics"] ++ fs.map fun (a, f) => "- " ++ a.text ++ ": " ++ f.text
  "\n".intercalate (summary ++ checks ++ messages ++ metrics ++ failures)

end DataQuality
