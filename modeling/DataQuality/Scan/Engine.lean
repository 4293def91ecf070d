import DataQuality.Analysis.Aggregate
import DataQuality.Predicate.Parse
import DataQuality.Scan.Error

/-!
# Scanning tables

A scan visits the rows of a table once for a batch of descriptors that share a scan shape.  The
table is cut into contiguous partitions; each partition is folded, row by row, into one
aggregate per descriptor, starting from the descriptor's empty aggregate.  Rows that the shape's
filter does not pass contribute to no aggregate.

Before the rows are read, every descriptor is resolved against the schema: its columns are
looked up by lower-case name, its predicate read and its pattern compiled.  A descriptor that
does not resolve gets a failure of its own and leaves the others alone; only a filter that does
not resolve fails the whole scan.  The accumulators of the descriptors that resolve are kept one
after the other, apart from the slots of the failures; each partition is scanned into one
aggregate per accumulator, and the aggregates are then regrouped per accumulator and spread back
over the descriptors' slots.
-/

namespace DataQuality

/-- What a descriptor reads from each row. -/
inductive Probe where
  /-- Every row. -/
  | rows
  /-- Whether a cell is not null. -/
  | present (column : Nat)
  /-- Whether a row passes a predicate. -/
  | passes (p : Predicate)
  /-- Whether a text cell matches a pattern; other cells do not. -/
  | fits (column : Nat) (pattern : Pattern.Regex)
  /-- The number of a cell, if it has one. -/
  | number (column : Nat)
  /-- The length in characters of a text cell. -/
  | length (column : Nat)
  /-- The numbers of two cells, when both have one. -/
  | pair (first second : Nat)
  /-- The text of a cell that is not null. -/
  | rendered (column : Nat)
  /-- The key of the texts of the cells, when none is null. -/
  | key (columns : List Nat)
  /-- The cell itself. -/
  | cell (column : Nat)

/-- A scan of one shape for a batch of descriptors. -/
structure ScanRequest where
  shape : ScanShape
  descriptors : List Descriptor

/-- An execution engine over one dataset: the scan of a request gives, for each descriptor of
the request in order, its aggregate of each partition or why it could not be computed; or why
the whole request failed.  An engine is trusted to answer for every descriptor, but a run does
not rely on it. -/
abbrev Engine := ScanRequest → Except ScanError (List (Except ScanError (List Aggregate)))

/-- The cell of a row at a position, null past the end. -/
def cellAt (row : Row) (i : Nat) : Value := row[i]?.getD .null

/-- An aggregate after one more row, as a probe reads it. -/
def Aggregate.observe (view : RowView) : Probe → Aggregate → Aggregate
  | .rows, .count n => .count (n + 1)
  | .present i, .ratio r => .ratio (r.observe !(cellAt view.row i).isNull)
  | .passes p, .ratio r => .ratio (r.observe (p.passes view))
  | .fits i re, .ratio r =>
    .ratio (r.observe (((cellAt view.row i).asText?.map re.isMatch).getD false))
  | .number i, .moments m => match (cellAt view.row i).asFloat? with
    | some x => .moments (m.observe x)
    | none => .moments m
  | .number i, .extrema e => match (cellAt view.row i).asFloat? with
    | some x => .extrema (e.observe x)
    | none => .extrema e
  | .number i, .quantiles s => match (cellAt view.row i).asFloat? with
    | some x => .quantiles (s.insert x)
    | none => .quantiles s
  | .length i, .extrema e => match (cellAt view.row i).asText? with
    | some t => .extrema (e.observe (Decimal.ofInt t.length))
    | none => .extrema e
  | .pair i j, .correlation c => match (cellAt view.row i).asFloat?, (cellAt view.row j).asFloat? with
    | some x, some y => .correlation (c.observe x y)
    | _, _ => .correlation c
  | .rendered i, .distinct s =>
    let v := cellAt view.row i
    if v.isNull then .distinct s else .distinct (s.insert v.render)
  | .key is, .frequencies f =>
    let vs := is.map (cellAt view.row)
    if vs.any Value.isNull then .frequencies (f.observe none)
    else .frequencies (f.observe (some (Frequencies.keyOf (vs.map Value.render))))
  | .cell i, .dataTypes t => .dataTypes (t.observe (cellAt view.row i))
  | _, agg => agg

/-- The position of a column, looked up by its lower-case name. -/
def resolveColumn (index : List (String × Nat)) (column : String) : Except ScanError Nat :=
  match (index.reverse.find? (·.1 == Text.toLower column)) with
  | some (_, i) => .ok i
  | none => .error (.unknownColumn column)

/-- Reads a predicate and checks that the table has every column it reads. -/
def compilePredicate (index : List (String × Nat)) (expression : String) :
    Except ScanError Predicate := do
  let p ← Predicate.parse expression
  match p.columns.find? (fun c => !(index.any (·.1 == c))) with
  | some missing => throw (.unknownColumn missing)
  | none => return p

/-- Resolves a computation against the columns of a table. -/
def Computation.probe (index : List (String × Nat)) : Computation → Except ScanError Probe
  | .rowCount => return .rows
  | .nonNullCount c => .present <$> resolveColumn index c
  | .predicateCount p => .passes <$> compilePredicate index p
  | .patternCount c p => do
    let re ← match Pattern.Regex.compile p with
      | .ok re => pure re
      | .error e => throw (.invalidPattern p e)
    return .fits (← resolveColumn index c) re
  | .moments c | .extrema c | .quantiles c _ => .number <$> resolveColumn index c
  | .lengthExtrema c => .length <$> resolveColumn index c
  | .correlation a b => do return .pair (← resolveColumn index a) (← resolveColumn index b)
  | .distinctEstimate c => .rendered <$> resolveColumn index c
  | .frequencies cs => .key <$> cs.mapM (resolveColumn index)
  | .dataTypes c => .cell <$> resolveColumn index c

/-- The aggregate of a partition: its rows that pass the filter, folded into the start. -/
def scanRows (index : List (String × Nat)) (filter : Option Predicate) (probe : Probe)
    (start : Aggregate) (rows : List Row) : Aggregate :=
  rows.foldl (fun agg row =>
    let view : RowView := ⟨index, row⟩
    if (filter.map (·.passes view)).getD true then agg.observe view probe else agg) start

/-- A descriptor resolved against the columns of a table: what it reads from each row, and the
aggregate it has reached. -/
structure Accumulator where
  probe : Probe
  state : Aggregate

/-- Resolves a descriptor against the columns of a table, starting from its empty aggregate. -/
def Accumulator.compile (index : List (String × Nat)) (d : Descriptor) :
    Except ScanError Accumulator := do
  return ⟨← d.computation.probe index, Aggregate.empty d.computation⟩

/-- The accumulator after one more row. -/
def Accumulator.observe (view : RowView) (acc : Accumulator) : Accumulator :=
  { acc with state := acc.state.observe view acc.probe }

/-- The failure of an outcome, if it failed. -/
def rejection {α : Type} : Except ScanError α → Option ScanError
  | .ok _ => none
  | .error e => some e

/-- The descriptors of a request resolved against a table, ready to be fed rows: the accumulators
of the descriptors that resolved, one after the other, and for every descriptor a slot holding
why it did not resolve, or nothing. -/
structure ScanPlan where
  index : List (String × Nat)
  filter : Option Predicate
  rejections : List (Option ScanError)
  accumulators : List Accumulator

/-- Resolves the filter and then every descriptor of a request; only a filter that does not
resolve fails the plan. -/
def ScanPlan.compile (schema : Schema) (request : ScanRequest) : Except ScanError ScanPlan := do
  let index := RowView.index schema.names
  let filter ← match request.shape.filter with
    | some f => some <$> compilePredicate index f
    | none => pure none
  let compiled := request.descriptors.map (Accumulator.compile index)
  return ⟨index, filter, compiled.map rejection, compiled.filterMap Except.toOption⟩

/-- The aggregates the accumulators reach over the rows of one partition that pass the filter. -/
def ScanPlan.scan (plan : ScanPlan) (rows : List Row) : List Aggregate :=
  (rows.foldl (fun accs row =>
      let view : RowView := ⟨plan.index, row⟩
      if (plan.filter.map (·.passes view)).getD true then accs.map (·.observe view) else accs)
    plan.accumulators).map (·.state)

/-- Appends each state to its slot, as far as both lists go. -/
def pushEach : List (List Aggregate) → List Aggregate → List (List Aggregate)
  | slot :: slots, state :: states => (slot ++ [state]) :: pushEach slots states
  | slots, _ => slots

/-- One outcome per slot: its failure, or else the next accumulator's aggregates (none when the
accumulators have run out). -/
def fillSlots : List (Option ScanError) → List (List Aggregate) →
    List (Except ScanError (List Aggregate))
  | [], _ => []
  | some e :: rest, slots => .error e :: fillSlots rest slots
  | none :: rest, slot :: slots => .ok slot :: fillSlots rest slots
  | none :: rest, [] => .ok [] :: fillSlots rest []

/-- The aggregates of each partition, one list per partition in accumulator order, regrouped as
one list per accumulator in partition order and spread over the slots of the descriptors. -/
def ScanPlan.distribute (plan : ScanPlan) (scanned : List (List Aggregate)) :
    List (Except ScanError (List Aggregate)) :=
  fillSlots plan.rejections (scanned.foldl pushEach (List.replicate plan.accumulators.length []))

/-- The in-memory engine over a table cut into `partitions` parts (at least one): for each descriptor
in order, its aggregate of each partition, or why it could not be computed; or why the filter
failed.  A table without rows has no partitions. -/
def scanPartitions (table : Table) (partitions : Nat) (request : ScanRequest) :
    Except ScanError (List (Except ScanError (List Aggregate))) := do
  let plan ← ScanPlan.compile table.schema request
  let parts := table.partitions (max partitions 1)
  return plan.distribute (parts.map plan.scan)

end DataQuality
