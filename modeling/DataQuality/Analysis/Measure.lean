import DataQuality.Analysis.Analyzer
import DataQuality.Analysis.Aggregate

/-!
# From aggregates to metrics

How each analyzer reads its metric off the merged aggregate of its descriptor: shares of rows
from ratio counts, mean, sum and standard deviation from moments, extremes, the Pearson
coefficient, a sketch's quantile or distinct estimate, and uniqueness, distinctness, entropy,
mutual information and histograms from frequency tables.  A metric that needs at least one row
fails as insufficient data without one; an aggregate of the wrong kind is an analysis error.
-/

namespace DataQuality

open Decimal

/-- The quotient of two counts, failing on a zero denominator. -/
def fraction (numerator denominator : Nat) : Except MetricFailure MetricValue :=
  if denominator == 0 then .error .noRows
  else .ok (.double (ofInt numerator / ofInt denominator))

/-- The entropy `-Σ p ln p` of the shares of the keys among all rows. -/
def entropyOf (f : Frequencies) : Except MetricFailure MetricValue :=
  if f.rows == 0 then .error .noRows else
  let rows := countToFloat f.rows
  .ok (.double (f.counts.entries.foldl (fun acc (_, n) =>
    let p := countToFloat n / rows
    acc + -p * Float.log p) (-0.0)))

/-- The grouping values of the keys of a two-column table, with their counts. -/
def pairsOf : List (String × UInt64) → Except MetricFailure (List (String × String × UInt64))
  | [] => .ok []
  | (key, n) :: rest =>
    match Frequencies.splitKey key with
    | a :: b :: _ => ((a, b, n) :: ·) <$> pairsOf rest
    | _ => .error ⟨.analysis, "frequency key '" ++ key ++ "' does not hold two values"⟩

/-- The mutual information `Σ p(a,b) ln (p(a,b) / (p(a) p(b)))` of a two-column table, over
the rows without nulls. -/
def mutualInformationOf (f : Frequencies) : Except MetricFailure MetricValue := do
  let total := f.counts.total
  if total == 0 then throw .noRows
  let joint ← pairsOf f.counts.entries
  let first := joint.foldl (fun (t : Tally String) (a, _, n) => t.add a n) {}
  let second := joint.foldl (fun (t : Tally String) (_, b, n) => t.add b n) {}
  let n := countToFloat total
  let value := joint.foldl (fun acc (a, b, c) =>
    let pab := countToFloat c / n
    let pa := countToFloat ((first.get? a).getD 0) / n
    let pb := countToFloat ((second.get? b).getD 0) / n
    acc + pab * Float.log (pab / (pa * pb))) 0
  return .double value

/-- Whether a bin goes before another: by falling count, then by label. -/
def binBefore (a b : String × UInt64) : Bool :=
  b.2 < a.2 || (a.2 == b.2 && decide (a.1 ≤ b.1))

/-- The histogram of a one-column table: one bin per value (the first grouping value of its
key) and one for nulls if any, the most frequent `maxBins` kept; each with its count and its
share of all rows.  The number of bins counts those dropped too. -/
def histogramOf (f : Frequencies) (maxBins : Nat) : Distribution :=
  if f.rows == 0 then {} else
  let bins := f.counts.entries.map fun (key, n) => ((Frequencies.splitKey key).headD "", n)
  let nulls := f.nullRows
  let bins := if nulls > 0 then bins ++ [(nullBin, nulls)] else bins
  let kept := (bins.mergeSort binBefore).take maxBins
  let rows := countToFloat f.rows
  let values := kept.foldl (fun acc (label, n) =>
    insertBin label ⟨n, countToFloat n / rows⟩ acc) []
  ⟨values, UInt64.ofNat bins.length⟩
where
  /-- Puts a bin in its place by label, replacing one of the same label. -/
  insertBin (label : String) (share : BinShare) : List (String × BinShare) → List (String × BinShare)
    | [] => [(label, share)]
    | (l, s) :: rest =>
      if label < l then (label, share) :: (l, s) :: rest
      else if label == l then (label, share) :: rest
      else (l, s) :: insertBin label share rest

/-- The type distribution of a column: the count and share of each inferred type. -/
def typeDistribution (t : TypeCounts) : Except MetricFailure MetricValue :=
  let total := t.total
  if total == 0 then .error .noRows else
  let values := [DataClass.boolean, .fractional, .integral, .string, .unknown].map fun c =>
    (c.label, BinShare.mk (t.get c) (countToFloat (t.get c) / countToFloat total))
  .ok (.distribution ⟨values, 5⟩)

/-- A whole number as a signed 64-bit value, wrapping. -/
def wrapSigned (n : Nat) : Int :=
  let r : Nat := n % Nat.pow 2 64
  if r < Nat.pow 2 63 then (r : Int) else (r : Int) - Int.pow 2 64

namespace Analyzer

/-- The value an analyzer reads off an aggregate. -/
def valueFrom (a : Analyzer) (agg : Aggregate) : Except MetricFailure MetricValue :=
  match a.statistic, agg with
  | .size, .count rows => .ok (.long (wrapSigned rows.toNat))
  | .completeness _, .ratio r | .compliance _ _, .ratio r | .patternMatch _ _, .ratio r =>
    match r.ratio? with
    | some x => .ok (.double x)
    | none => .error .noRows
  | .mean _, .moments m => match m.mean? with
    | some x => .ok (.double x)
    | none => .error .noRows
  | .sum _, .moments m => if m.count == 0 then .error .noRows else .ok (.double m.sum)
  | .standardDeviation _, .moments m => match m.variance? with
    | some v => .ok (.double (Float.sqrt v))
    | none => .error .noRows
  | .minimum _, .extrema e | .minLength _, .extrema e => match e.min with
    | some x => .ok (.double x)
    | none => .error .noRows
  | .maximum _, .extrema e | .maxLength _, .extrema e => match e.max with
    | some x => .ok (.double x)
    | none => .error .noRows
  | .correlation _ _, .correlation c => match c.pearson? with
    | some x => .ok (.double x)
    | none => .error ⟨.insufficient,
        "correlation needs at least two rows and non-constant columns"⟩
  | .approxQuantile _ q _, .quantiles s => match s.quantile? q.value with
    | some x => .ok (.double x)
    | none => .error .noRows
  | .approxCountDistinct _, .distinct s => .ok (.double (Float.round s.estimate))
  | .uniqueness _, .frequencies f => fraction f.unique f.rows.toNat
  | .distinctness _, .frequencies f => fraction f.distinct f.rows.toNat
  | .uniqueValueRatio _, .frequencies f => fraction f.unique f.distinct
  | .countDistinct _, .frequencies f => .ok (.long f.distinct)
  | .entropy _, .frequencies f => entropyOf f
  | .mutualInformation _ _, .frequencies f => mutualInformationOf f
  | .histogram _ bins, .frequencies f => .ok (.distribution (histogramOf f bins))
  | .dataType _, .dataTypes t => typeDistribution t
  | _, other => .error ⟨.analysis, a.name ++ " cannot be computed from a " ++ other.kind ++ " state"⟩

/-- The metric of an analyzer from the merged aggregate of its descriptor. -/
def computeMetric (a : Analyzer) (agg : Aggregate) : Metric := a.metric (a.valueFrom agg)

end Analyzer

end DataQuality
