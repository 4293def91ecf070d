import DataQuality.Check.Constraint

/-!
# Checks

A check is a described group of constraints with a level.  When one of its constraints fails,
the check's status rises to its level (warning or error); skipped constraints do not count.
A check may stop at its first failure, reporting the constraints after it as skipped.

Checks are built step by step: each builder adds one constraint on a standard analyzer, and
`whereFilter` and `withHint` change the last one added.  Containment, non-negativity, positivity
and ranges are compliance constraints on generated predicates.
-/

namespace DataQuality

/-- How serious the failure of a check is. -/
inductive CheckLevel where
  | warning
  | error
  deriving BEq, DecidableEq, Inhabited, Repr

/-- The outcome of a check, ordered from best to worst. -/
inductive CheckStatus where
  | success
  | warning
  | error
  deriving BEq, DecidableEq, Inhabited, Repr

/-- The name of a level in lower case. -/
def CheckLevel.key : CheckLevel → String
  | .warning => "warning"
  | .error => "error"

/-- The name of a level, capitalised. -/
def CheckLevel.label : CheckLevel → String
  | .warning => "Warning"
  | .error => "Error"

/-- The name of a status. -/
def CheckStatus.label : CheckStatus → String
  | .success => "Success"
  | .warning => "Warning"
  | .error => "Error"

/-- The rank of a status: success below warning below error. -/
def CheckStatus.rank : CheckStatus → Nat
  | .success => 0
  | .warning => 1
  | .error => 2

/-- The worse of two statuses. -/
def CheckStatus.worse (a b : CheckStatus) : CheckStatus := if a.rank < b.rank then b else a

/-- What a check found. -/
structure CheckResult where
  description : String
  level : CheckLevel
  status : CheckStatus
  constraintResults : List ConstraintResult
  deriving Inhabited

/-- A leveled, described group of constraints. -/
structure Check where
  level : CheckLevel
  description : String
  constraints : List Constraint := []
  stopOnFailure : Bool := false
  deriving Inhabited

/-- The usual pattern of an e-mail address. -/
def emailPattern : String := "^[A-Za-z0-9._%+-]+@[A-Za-z0-9.-]+\\.[A-Za-z]\x7b2,\x7d$"

/-- The usual pattern of a web address. -/
def urlPattern : String := "^(https?|ftp)://[^\\s/$.?#].[^\\s]*$"

/-- A text as a quoted literal of the predicate language, single quotes doubled. -/
def quoteLiteral (value : String) : String :=
  "'" ++ String.join (value.toList.map fun c => if c == '\'' then "''" else c.toString) ++ "'"

namespace Check

/-- The check with one more constraint. -/
def add (c : Check) (k : Constraint) : Check := { c with constraints := c.constraints ++ [k] }

/-- The check with one more constraint on the value of an analyzer. -/
def assertOn (c : Check) (a : Analyzer) (assertion : Assertion) : Check := c.add (.on a assertion)

/-- Changes the last constraint added, if any. -/
def mapLast (c : Check) (f : Constraint → Constraint) : Check :=
  match c.constraints.getLast? with
  | some last => { c with constraints := c.constraints.dropLast ++ [f last] }
  | none => c

/-- Gives the last constraint a hint. -/
def withHint (c : Check) (hint : String) : Check := c.mapLast fun k => { k with hint := some hint }

/-- Restricts the analyzers of the last constraint to rows passing a filter. -/
def whereFilter (c : Check) (filter : String) : Check := c.mapLast (·.withFilter filter)

/-- Makes the check stop at its first failure. -/
def stoppingOnFailure (c : Check) : Check := { c with stopOnFailure := true }

/-- An analyzer without a filter. -/
def plainAnalyzer (s : Statistic) : Analyzer := ⟨s, none⟩

/-- The share of rows passing a predicate must satisfy an assertion. -/
def satisfies (c : Check) (predicate name : String) (assertion : Assertion) : Check :=
  c.assertOn (plainAnalyzer (.compliance name predicate)) assertion

/-- Every key column is complete and the combination of them is unique. -/
def isPrimaryKey (c : Check) (columns : List String) : Check :=
  (columns.foldl (fun c col => c.assertOn (plainAnalyzer (.completeness col)) .isOne) c).assertOn
    (plainAnalyzer (.uniqueness columns)) .isOne

/-- Every non-null value of a column is one of the allowed texts. -/
def isContainedIn (c : Check) (column : String) (allowed : List String) : Check :=
  let list := ", ".intercalate (allowed.map quoteLiteral)
  c.satisfies (column ++ " IS NULL OR " ++ column ++ " IN (" ++ list ++ ")")
    (column ++ " contained in " ++ ",".intercalate allowed) .isOne

/-- Every non-null value of a column lies in a range, both ends included. -/
def isContainedInRange (c : Check) (column : String) (lower upper : Float) : Check :=
  let lo := Decimal.plain lower
  let hi := Decimal.plain upper
  c.satisfies (column ++ " IS NULL OR " ++ column ++ " BETWEEN " ++ lo ++ " AND " ++ hi)
    (column ++ " between " ++ lo ++ " and " ++ hi) .isOne

/-- Every non-null value of a column is at least zero. -/
def isNonNegative (c : Check) (column : String) : Check :=
  c.satisfies (column ++ " IS NULL OR " ++ column ++ " >= 0") (column ++ " is non-negative") .isOne

/-- Every non-null value of a column is above zero. -/
def isPositive (c : Check) (column : String) : Check :=
  c.satisfies (column ++ " IS NULL OR " ++ column ++ " > 0") (column ++ " is positive") .isOne

/-- The share of cells of a column whose inferred type is `kind` must satisfy an assertion. -/
def hasDataType (c : Check) (column : String) (kind : DataClass) (assertion : Assertion) : Check :=
  c.add
    { analyzers := [plainAnalyzer (.dataType column)]
      projection := .binRatio kind.label
      assertion := assertion }

/-- The ratio of one histogram bin of a column must satisfy an assertion. -/
def hasHistogramBinRatio (c : Check) (column bin : String) (assertion : Assertion) : Check :=
  c.add
    { analyzers := [plainAnalyzer (.histogram column defaultHistogramBins)]
      projection := .binRatio bin
      assertion := assertion }

/-- Every analyzer some constraint depends on, in analyzer order, each once. -/
def requiredAnalyzers (c : Check) : List Analyzer :=
  Ordered.keysOf (c.constraints.flatMap (·.analyzers))

/-- Judges every constraint on the metrics of a run; after a failure, when the check stops on
failure, the rest are skipped. -/
def evaluate (c : Check) (metrics : List (Analyzer × Metric)) : CheckResult :=
  let (failed, results) := c.constraints.foldl (fun (acc : Bool × List ConstraintResult) k =>
    let (failed, results) := acc
    if c.stopOnFailure && failed then
      (failed, results ++ [⟨k.description, .skipped, some "skipped after an earlier failure", none⟩])
    else
      let r := k.evaluate metrics
      (failed || r.status == .failure, results ++ [r])) (false, [])
  let status := if !failed then CheckStatus.success else match c.level with
    | .warning => .warning
    | .error => .error
  ⟨c.description, c.level, status, results⟩

end Check

end DataQuality
