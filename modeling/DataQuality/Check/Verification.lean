import DataQuality.Check.Basic
import DataQuality.Run.Runner

/-!
# Verification

A verification derives the analyzers its checks need (plus any required ones), runs them, and
judges every check on the metrics.  The overall status is the worst status of the checks.

Every constraint must depend on some analyzer, and every analyzer it depends on must have a
metric in the context being judged; otherwise the check is invalid.  Problems of single
analyzers and constraints are reported inside the result; only repository problems and invalid
checks fail a verification.
-/

namespace DataQuality

/-- Why a verification failed. -/
inductive VerificationError where
  /-- The run failed. -/
  | runner (e : RunnerError)
  /-- A check is not well formed, by its description, with the reason. -/
  | invalidCheck (check message : String)
  deriving Inhabited

/-- The wording of a verification failure. -/
def VerificationError.message : VerificationError → String
  | .runner e => e.message
  | .invalidCheck c m => "invalid check '" ++ c ++ "': " ++ m

/-- Run options of a verification: the analyzers always computed, then how the run uses a
repository. -/
structure VerificationOptions where
  required : List Analyzer := []
  analysis : AnalysisOptions := {}
  deriving Inhabited

/-- One constraint outcome with its check, as a flat row. -/
structure CheckResultRow where
  check : String
  level : CheckLevel
  checkStatus : CheckStatus
  constraint : String
  status : ConstraintStatus
  message : Option String

/-- The outcome of a verification. -/
structure VerificationResult where
  status : CheckStatus
  checkResults : List CheckResult
  metrics : AnalyzerContext
  deriving Inhabited

namespace VerificationResult

/-- Every constraint outcome as a flat row, check by check. -/
def rows (r : VerificationResult) : List CheckResultRow :=
  r.checkResults.flatMap fun c => c.constraintResults.map fun k =>
    ⟨c.description, c.level, c.status, k.constraint, k.status, k.message⟩

end VerificationResult

/-- The first constraint of the checks without analyzers, as an invalid check. -/
def emptyConstraint? (checks : List Check) : Option VerificationError :=
  checks.findSome? fun c => (c.constraints.find? (·.analyzers.isEmpty)).map fun k =>
    .invalidCheck c.description ("constraint '" ++ k.name ++ "' depends on no analyzer")

/-- The analyzers the checks depend on and the required ones, in analyzer order, each once. -/
def deriveAnalyzers (checks : List Check) (required : List Analyzer) :
    Except VerificationError (List Analyzer) :=
  match emptyConstraint? checks with
  | some e => .error e
  | none => .ok (Ordered.keysOf (required ++ checks.flatMap fun c => c.constraints.flatMap (·.analyzers)))

/-- The first dependency of a check without a metric in a context, as an invalid check. -/
def missingMetric? (checks : List Check) (context : AnalyzerContext) : Option VerificationError :=
  checks.findSome? fun c => c.constraints.findSome? fun k =>
    if k.analyzers.isEmpty then
      some (.invalidCheck c.description ("constraint '" ++ k.name ++ "' depends on no analyzer"))
    else (k.analyzers.find? fun a => (context.metric? a).isNone).map fun a =>
      .invalidCheck c.description ("analyzer " ++ a.text ++ " was never computed")

/-- Judges checks on the metrics of a context. -/
def evaluateChecks (checks : List Check) (context : AnalyzerContext) :
    Except VerificationError VerificationResult :=
  match missingMetric? checks context with
  | some e => .error e
  | none =>
    let results := checks.map (·.evaluate context.metrics)
    .ok ⟨results.foldl (fun s r => s.worse r.status) .success, results, context⟩

section

variable {m : Type → Type} [Monad m]

/-- Runs the analyzers of the checks with an engine over a dataset of a schema and judges the
checks. -/
def verifyWith (options : VerificationOptions) (repo : Option (Repository m)) (engine : Engine)
    (schema : Schema) (checks : List Check) : m (Except VerificationError VerificationResult) := do
  match deriveAnalyzers checks options.required with
  | .error e => return .error e
  | .ok analyzers =>
    match ← runAnalysisWith options.analysis repo engine schema analyzers with
    | .error e => return .error (.runner e)
    | .ok context => return evaluateChecks checks context

/-- Runs the analyzers of the checks over a table with the in-memory engine and judges the
checks. -/
def verify (options : VerificationOptions) (repo : Option (Repository m)) (partitions : Nat)
    (table : Table) (checks : List Check) : m (Except VerificationError VerificationResult) :=
  verifyWith options repo (scanPartitions table partitions) table.schema checks

/-- Judges checks on the aggregates stored under some keys, without a table. -/
def verifyStoredStates (options : VerificationOptions) (repo : Option (Repository m))
    (schema : Schema) (checks : List Check) (keys : List ResultKey) :
    m (Except VerificationError VerificationResult) := do
  match deriveAnalyzers checks options.required with
  | .error e => return .error e
  | .ok analyzers =>
    match ← runOnStoredStates options.analysis repo schema analyzers keys with
    | .error e => return .error (.runner e)
    | .ok context => return evaluateChecks checks context

end

end DataQuality
