import DataQuality.Decimal.Binary
import DataQuality.Decimal.Shortest
import DataQuality.Decimal.Layout
import DataQuality.Decimal.Read
import DataQuality.Json.Basic
import DataQuality.Unicode.CodeSet
import DataQuality.Unicode.Tables.Category
import DataQuality.Unicode.Tables.Script
import DataQuality.Unicode.Tables.Names
import DataQuality.Unicode.Tables.Property
import DataQuality.Unicode.Tables.Segment
import DataQuality.Unicode.Tables.Case
import DataQuality.Unicode.Category
import DataQuality.Unicode.Script
import DataQuality.Unicode.Segment
import DataQuality.Unicode.Property
import DataQuality.Unicode.Case
import DataQuality.Unicode.Lookup
import DataQuality.Json.Print
import DataQuality.Json.Parse
import DataQuality.Text.Blank
import DataQuality.Text.Lower
import DataQuality.Text.Word
import DataQuality.Text.Quoted
import DataQuality.Json.Form
import DataQuality.Json.Form.Read
import DataQuality.Data.Value
import DataQuality.Data.Delimited
import DataQuality.Data.Table
import DataQuality.Data.Classify
import DataQuality.Json.Decode
import DataQuality.Data.Csv
import DataQuality.Data.Document
import DataQuality.Pattern.Ast
import DataQuality.Pattern.Error
import DataQuality.Pattern.Hir
import DataQuality.Pattern.Parse
import DataQuality.Pattern.Translate
import DataQuality.Pattern.Utf8
import DataQuality.Pattern.Size
import DataQuality.Pattern.Program
import DataQuality.Pattern.Match
import DataQuality.Scan.Error
import DataQuality.Predicate.Basic
import DataQuality.Predicate.Parse
import DataQuality.Digest.Sha256
import DataQuality.Data.Tally
import DataQuality.Decimal.Arithmetic
import DataQuality.Sketch.Quantile
import DataQuality.Sketch.Distinct
import DataQuality.Analysis.Computation
import DataQuality.Analysis.Aggregate
import DataQuality.Analysis.Metric
import DataQuality.Analysis.Analyzer
import DataQuality.Analysis.Measure
import DataQuality.Analysis.Encode
import DataQuality.Analysis.Decode
import DataQuality.Time.Civil
import DataQuality.Repository.Key
import DataQuality.Scan.Engine
import DataQuality.Data.Ordered
import DataQuality.Files.Basic
import DataQuality.Repository.Entry
import DataQuality.Run.Context
import DataQuality.Run.Options
import DataQuality.Run.Runner
import DataQuality.Check.Constraint
import DataQuality.Check.Basic
import DataQuality.Check.Verification
import DataQuality.Check.Report
import DataQuality.Check.Encode
import DataQuality.Suite.Spec
import DataQuality.Files.Disk
import DataQuality.Repository.Document
import DataQuality.Repository.Directory
import DataQuality.Json.Schema
import DataQuality.Suite.Schema
import DataQuality.Suite.Config
import DataQuality.Toml.Error
import DataQuality.Suite.Validate
import DataQuality.Toml.Document
import DataQuality.Toml.Reader
import DataQuality.Toml.Scalar
import DataQuality.Toml.Parse
import DataQuality.Suite.Load
import DataQuality.Text.Similarity
import DataQuality.Cli.Grammar
import DataQuality.Cli.Args
import DataQuality.Cli.Settings
import DataQuality.Cli.Failure
import DataQuality.Cli.RunRecord
import DataQuality.Cli.Program
import DataQuality.Main
import DataQuality.Proofs.Tally
import DataQuality.Proofs.Partitions
import DataQuality.Proofs.Double.Order
import DataQuality.Proofs.Double.Whole
import DataQuality.Proofs.Analysis.Order
import DataQuality.Proofs.Frequencies.Key
import DataQuality.Proofs.Scan.Merge
import DataQuality.Proofs.Scan.Resolve
import DataQuality.Proofs.Scan.Fold
import DataQuality.Proofs.Scan.Plan
import DataQuality.Proofs.Run.Single
import DataQuality.Proofs.Metrics.Reference
import DataQuality.Proofs.Metrics.Exact
import DataQuality.Proofs.Double.WholeArithmetic
import DataQuality.Proofs.Scan.Sums
import DataQuality.Proofs.Ordered
import DataQuality.Proofs.Run.WholeScan
import DataQuality.Proofs.Run.Partitioning
import DataQuality.Proofs.Run.Report
import DataQuality.Proofs.Run.Effects
import DataQuality.Proofs.Run.Coverage
import DataQuality.Proofs.Run.Isolation
import DataQuality.Proofs.Run.Filtering
import DataQuality.Proofs.Run.Incremental
import DataQuality.Proofs.Double.Exact
import DataQuality.Proofs.Double.Rounding
import DataQuality.Proofs.Analysis.Monoid
import DataQuality.Proofs.Sketch.Reachable
import DataQuality.Proofs.Sketch.Estimate
import DataQuality.Proofs.Sketch.Summary
import DataQuality.Proofs.Sketch.Accuracy
import DataQuality.Proofs.Scan.Homomorphism
import DataQuality.Proofs.Run.Persist
import DataQuality.Proofs.Files.Paths
import DataQuality.Proofs.Files.Disk
import DataQuality.Proofs.Repository.Directory
import DataQuality.Proofs.Check.Evaluation
import DataQuality.Proofs.Scan.Accumulate
import DataQuality.Proofs.Analysis.Kinds
import DataQuality.Proofs.Run.Resolution
import DataQuality.Proofs.Double.Quotient
import DataQuality.Proofs.Scan.Counters
import DataQuality.Proofs.Metrics.Histogram
import DataQuality.Proofs.Check.ExactShares
import DataQuality.Proofs.Predicate.Backtracking
import DataQuality.Proofs.Predicate.Grammar
import DataQuality.Proofs.Predicate.Forms
import DataQuality.Proofs.Predicate.Conjunctions
import DataQuality.Proofs.Predicate.Literals
import DataQuality.Proofs.Predicate.Reading
import DataQuality.Proofs.Double.Integers
import DataQuality.Proofs.Predicate.Membership
import DataQuality.Proofs.Predicate.WholeNumbers
import DataQuality.Proofs.Check.Declared
import DataQuality.Proofs.Sketch.DistinctCount
import DataQuality.Proofs.Sketch.Invariants
import DataQuality.Proofs.Data.Csv
import DataQuality.Proofs.Text.Lower
import DataQuality.Proofs.Predicate.Columns
import DataQuality.Proofs.Predicate.Termination
import DataQuality.Proofs.Double.Nearest
import DataQuality.Proofs.Double.Digits
import DataQuality.Proofs.Json.Lexical
import DataQuality.Proofs.Json.Numbers
import DataQuality.Proofs.Json.Values
