import DataQuality.Run.Context
import DataQuality.Text.Quoted

/-!
# Constraints

A constraint asserts a condition on one number read off the metric of its first analyzer: the
metric's value, the number of bins of a distribution, or the ratio of one bin (zero when the
bin is absent).  Every analyzer of a constraint is a dependency: if any has no metric, or a
failed one, the constraint is skipped with the reason.

Assertions compare with a bound (equality up to `1e-9`, exact equality with one, at least, at
most, greater, less, between two bounds inclusive) or run a custom test that may itself fail
with a message; a test that fails counts as a failure of the constraint.  A constraint is named
after its first analyzer and projection unless a name is given, and described by its name and
its assertion.
-/

namespace DataQuality

open Decimal

/-- Which number of the first dependency's metric is asserted on. -/
inductive Projection where
  /-- The metric's number. -/
  | value
  /-- The number of bins of a distribution. -/
  | binCount
  /-- The ratio of one bin of a distribution, zero when the bin is absent. -/
  | binRatio (bin : String)
  deriving BEq, Inhabited, Repr

namespace Projection

/-- The number a projection reads off a metric value, if it applies. -/
def apply : Projection → MetricValue → Option Float
  | .value, v => v.asFloat?
  | .binCount, .distribution d => some (countToFloat d.bins)
  | .binRatio bin, .distribution d => some (d.ratioOf bin)
  | _, _ => none

/-- A projection as its variant is written in messages: `Value`, `BinCount`, `BinRatio("bin")`. -/
def text : Projection → String
  | .value => "Value"
  | .binCount => "BinCount"
  | .binRatio bin => "BinRatio(" ++ Text.quoted bin ++ ")"

end Projection

/-- A condition on a number. -/
inductive Assertion where
  /-- Equal up to `1e-9`. -/
  | equals (x : Float)
  /-- Exactly one. -/
  | isOne
  | atLeast (x : Float)
  | atMost (x : Float)
  | greaterThan (x : Float)
  | lessThan (x : Float)
  /-- Between two bounds, both included. -/
  | between (lo hi : Float)
  /-- A test of its own with a description; the test may fail with a message. -/
  | custom (description : String) (test : Float → Except String Bool)
  deriving Inhabited

namespace Assertion

/-- The tolerance of equality. -/
def tolerance : Float := 1e-9

/-- Whether a number satisfies the assertion, or the message of a test that failed. -/
def holds : Assertion → Float → Except String Bool
  | .equals x, v => .ok (Float.abs (v - x) ≤ tolerance)
  | .isOne, v => .ok (v == 1)
  | .atLeast x, v => .ok (v ≥ x)
  | .atMost x, v => .ok (v ≤ x)
  | .greaterThan x, v => .ok (v > x)
  | .lessThan x, v => .ok (v < x)
  | .between lo hi, v => .ok (v ≥ lo && v ≤ hi)
  | .custom _ test, v => test v

/-- An assertion as text: `== x`, `>= x`, `between a and b`, or the custom description. -/
def text : Assertion → String
  | .equals x => "== " ++ plain x
  | .isOne => "== 1"
  | .atLeast x => ">= " ++ plain x
  | .atMost x => "<= " ++ plain x
  | .greaterThan x => "> " ++ plain x
  | .lessThan x => "< " ++ plain x
  | .between lo hi => "between " ++ plain lo ++ " and " ++ plain hi
  | .custom d _ => d

end Assertion

/-- The outcome of one constraint. -/
inductive ConstraintStatus where
  | success
  | failure
  | skipped
  deriving BEq, DecidableEq, Inhabited, Repr

/-- The name of a constraint outcome. -/
def ConstraintStatus.label : ConstraintStatus → String
  | .success => "Success"
  | .failure => "Failure"
  | .skipped => "Skipped"

/-- What a constraint found: its description, outcome, message and the number it judged. -/
structure ConstraintResult where
  constraint : String
  status : ConstraintStatus
  message : Option String := none
  metricValue : Option Float := none
  deriving Inhabited

/-- A named assertion over the metric of its first analyzer; all its analyzers are
dependencies. -/
structure Constraint where
  analyzers : List Analyzer
  projection : Projection := .value
  assertion : Assertion
  hint : Option String := none
  label : Option String := none
  deriving Inhabited

namespace Constraint

/-- The constraint on the value of one analyzer. -/
def on (a : Analyzer) (assertion : Assertion) : Constraint := { analyzers := [a], assertion := assertion }

/-- The constraint with every analyzer restricted to rows passing a filter. -/
def withFilter (c : Constraint) (filter : String) : Constraint :=
  { c with analyzers := c.analyzers.map fun a => { a with filter := some filter } }

/-- The name of a constraint: its own, or its first analyzer with the projection. -/
def name (c : Constraint) : String :=
  match c.label with
  | some l => l
  | none =>
    let subject := (c.analyzers.head?.map Analyzer.text).getD "<no analyzer>"
    match c.projection with
    | .value => subject
    | .binCount => subject ++ ".bins"
    | .binRatio bin => subject ++ ".ratio[" ++ bin ++ "]"

/-- What the constraint expects: its name and its assertion. -/
def description (c : Constraint) : String := c.name ++ " " ++ c.assertion.text

/-- The values of the dependencies, or why the constraint is skipped. -/
def dependencyValues (metrics : List (Analyzer × Metric)) : List Analyzer →
    Except String (List MetricValue)
  | [] => .ok []
  | a :: rest =>
    match Ordered.get? a metrics with
    | none => .error ("no metric computed for " ++ a.text)
    | some m => match m.value with
      | .error f => .error (a.text ++ ": " ++ f.text)
      | .ok v => (v :: ·) <$> dependencyValues metrics rest

/-- Judges a constraint on the metrics of a run. -/
def evaluate (c : Constraint) (metrics : List (Analyzer × Metric)) : ConstraintResult :=
  let desc := c.description
  let skipped := fun (message : String) => ConstraintResult.mk desc .skipped (some message) none
  let withHint := fun (message : String) => match c.hint with
    | some h => message ++ " (hint: " ++ h ++ ")"
    | none => message
  match dependencyValues metrics c.analyzers with
  | .error message => skipped message
  | .ok [] => skipped "constraint has no analyzers"
  | .ok (first :: _) =>
    match c.projection.apply first with
    | none => skipped ("metric value " ++ first.text ++ " cannot be projected as " ++ c.projection.text)
    | some actual =>
      match c.assertion.holds actual with
      | .ok true => ⟨desc, .success, none, some actual⟩
      | .ok false => ⟨desc, .failure, some (withHint (c.name ++ ": actual value " ++ plain actual ++
          " does not satisfy " ++ c.assertion.text)), some actual⟩
      | .error panic => ⟨desc, .failure, some (withHint (c.name ++
          ": assertion failed to evaluate on " ++ plain actual ++ ": " ++ panic)), some actual⟩

end Constraint

end DataQuality
