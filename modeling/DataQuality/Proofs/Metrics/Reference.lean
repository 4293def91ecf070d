import Mathlib.Data.Finset.Card
import DataQuality.Proofs.Double.Order
import DataQuality.Analysis.Measure
import DataQuality.Scan.Engine

/-!
# What the exact metrics mean

The metrics of the analyzers that need no approximation, defined from the rows they cover, with
no scan, no aggregate and no merge: the number of rows; the share of rows whose cell is present,
that pass a predicate, or whose text matches a pattern; the least and greatest number of a column
and the least and greatest length of its texts; the counts of the distinct tuples of grouping
values, of those seen once, and their shares; the counts and shares of the classes of cells.

A share of no rows is the failure `noRows`, as is an extreme of no values.  The least of some
doubles is one that comes first in the order of doubles, not-a-number giving way to any number;
the two zeros come first together, so which one is meant is left open.
-/

namespace DataQuality

open Decimal

/-- The cell of a named column in a row; null when the schema has no column of that name. -/
def Schema.cell (s : Schema) (row : Row) (column : String) : Value :=
  match s.indexOf? column with
  | some j => cellAt row j
  | none => .null

/-- The tuples of rendered grouping values of the rows with no null grouping cell, in row order. -/
def groupingTuples (s : Schema) (columns : List String) (R : List Row) : List (List String) :=
  (R.filter fun r => columns.all fun c => !(s.cell r c).isNull).map
    fun r => columns.map fun c => (s.cell r c).render

/-- The number of distinct elements that occur exactly once. -/
def onceCount {α : Type} [DecidableEq α] (G : List α) : Nat :=
  (G.toFinset.filter fun g => G.count g = 1).card

/-- A least value by a key among some doubles, or `noRows` when there are none. -/
def LeastBy {β : Type} [LinearOrder β] (key : Float → β) (xs : List Float)
    (v : Except MetricFailure MetricValue) : Prop :=
  (xs = [] ∧ v = .error .noRows) ∨ ∃ x, IsFirstBy key xs x ∧ v = .ok (.double x)

/-- The double of an optional count, or `noRows`. -/
def countValue : Option Nat → Except MetricFailure MetricValue
  | some n => .ok (.double (ofInt n))
  | none => .error .noRows

/-- The shares of the classes of some cells, by class label, or `noRows` of no cells. -/
def classShares (cells : List Value) : Except MetricFailure MetricValue :=
  if cells.isEmpty then .error .noRows
  else
    let count := fun c => cells.countP fun v => decide (DataClass.ofValue v = c)
    .ok (.distribution ⟨[DataClass.boolean, .fractional, .integral, .string, .unknown].map
      fun c => (c.label, ⟨UInt64.ofNat (count c), ofInt (count c) / ofInt cells.length⟩), 5⟩)

namespace Statistic

/-- The statistics whose metric is computed exactly, with no approximation and no rounding
of sums. -/
def Exact : Statistic → Prop
  | size | completeness _ | compliance _ _ | patternMatch _ _ | minimum _ | maximum _
  | minLength _ | maxLength _ | uniqueness _ | distinctness _ | uniqueValueRatio _
  | countDistinct _ | dataType _ => True
  | _ => False

/-- The metric value of an exact statistic over the rows `R` of a table of schema `s`, by its
definition. -/
def Reference (s : Schema) (R : List Row) : Statistic → Except MetricFailure MetricValue → Prop
  | size, v => v = .ok (.long R.length)
  | completeness c, v => v = fraction (R.countP fun r => !(s.cell r c).isNull) R.length
  | compliance _ p, v => ∃ P, compilePredicate (RowView.index s.names) p = .ok P ∧
      v = fraction (R.countP fun r => P.passes ⟨RowView.index s.names, r⟩) R.length
  | patternMatch c p, v => ∃ re, Pattern.Regex.compile p = .ok re ∧
      v = fraction (R.countP fun r => (s.cell r c).asText?.any re.isMatch) R.length
  | minimum c, v => LeastBy Decimal.rank (R.filterMap fun r => (s.cell r c).asFloat?) v
  | maximum c, v =>
    LeastBy (fun x => OrderDual.toDual (Decimal.rank x)) (R.filterMap fun r => (s.cell r c).asFloat?) v
  | minLength c, v =>
    v = countValue (R.filterMap fun r => (s.cell r c).asText?.map String.length).min?
  | maxLength c, v =>
    v = countValue (R.filterMap fun r => (s.cell r c).asText?.map String.length).max?
  | uniqueness cs, v => v = fraction (onceCount (groupingTuples s cs R)) R.length
  | distinctness cs, v => v = fraction (groupingTuples s cs R).toFinset.card R.length
  | uniqueValueRatio cs, v =>
    v = fraction (onceCount (groupingTuples s cs R)) (groupingTuples s cs R).toFinset.card
  | countDistinct cs, v => v = .ok (.long (groupingTuples s cs R).toFinset.card)
  | dataType c, v => v = classShares (R.map fun r => s.cell r c)
  | _, _ => False

end Statistic

end DataQuality
