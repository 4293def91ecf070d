import DataQuality.Data.Table

/-!
# Row predicates

The predicates that filter rows and that compliance checks count: conjunctions, `col IS NULL OR
…`, `col IS [NOT] NULL`, membership in a list of literals, `BETWEEN` two numbers, and a
comparison of a column with a literal or with another column.

A predicate judges a row as `passed`, `failed` or `unsupported`: the last when the row cannot be
judged, because a column it reads is missing, or null where a value is needed, or the two sides
of a comparison are of kinds that do not compare.  A conjunction reports its first part that
does not pass.  Columns are looked up by lower-case name.
-/

namespace DataQuality

/-- The comparison operators. -/
inductive CompareOp where
  | eq
  | ne
  | lt
  | le
  | gt
  | ge
  deriving Repr, BEq, DecidableEq, Inhabited

namespace CompareOp

/-- The operator a symbol stands for: `=` and `==` are equality, `!=` and `<>` inequality. -/
def ofSymbol? : String → Option CompareOp
  | "=" | "==" => some eq
  | "!=" | "<>" => some ne
  | "<" => some lt
  | "<=" => some le
  | ">" => some gt
  | ">=" => some ge
  | _ => none

/-- The usual symbol of an operator. -/
def symbol : CompareOp → String
  | eq => "="
  | ne => "!="
  | lt => "<"
  | le => "<="
  | gt => ">"
  | ge => ">="

/-- Whether two values stand in the relation, given their equality and order. -/
def holdsBy {α : Type} (eqv : α → α → Bool) (less : α → α → Bool) (a b : α) : CompareOp → Bool
  | eq => eqv a b
  | ne => !eqv a b
  | lt => less a b
  | le => less a b || eqv a b
  | gt => less b a
  | ge => less b a || eqv a b

/-- Whether two doubles stand in the relation; nothing holds of not-a-number but inequality. -/
def holdsFloat (op : CompareOp) (a b : Float) : Bool :=
  match op with
  | eq => a == b
  | ne => a != b
  | lt => a < b
  | le => a ≤ b
  | gt => a > b
  | ge => a ≥ b

end CompareOp

/-- The right side of a comparison. -/
inductive Operand where
  | number (x : Float)
  | text (s : String)
  | bool (b : Bool)
  | column (name : String)
  deriving Inhabited

/-- A row predicate.  Column names are lower case. -/
inductive Predicate where
  /-- All parts pass. -/
  | all (parts : List Predicate)
  /-- The column is null, or else the rest passes. -/
  | nullOr (column : String) (rest : Predicate)
  /-- The column is null, or not null when negated. -/
  | isNull (column : String) (negated : Bool)
  /-- The column's value is among the literals. -/
  | among (column : String) (values : List String)
  /-- The column's number lies between the bounds, both included. -/
  | between (column : String) (lo hi : Float)
  /-- The column compares so with the operand. -/
  | compare (column : String) (op : CompareOp) (rhs : Operand)
  deriving Inhabited

/-- What a predicate says of a row. -/
inductive Outcome where
  | passed
  | failed
  | unsupported
  deriving Repr, BEq, DecidableEq, Inhabited

/-- The outcome of a yes-or-no judgement. -/
def Outcome.ofBool (b : Bool) : Outcome := if b then .passed else .failed

/-- The label of an outcome. -/
def Outcome.label : Outcome → String
  | .passed => "Passed"
  | .failed => "Failed"
  | .unsupported => "Unsupported"

/-- A row with its columns looked up by lower-case name. -/
structure RowView where
  /-- Lower-case names and positions; of a repeated name the last counts. -/
  columns : List (String × Nat)
  row : Row

/-- The positions of lower-case column names, the later one winning on repeats. -/
def RowView.index (names : List String) : List (String × Nat) :=
  names.zipIdx.map fun (n, i) => (Text.toLower n, i)

/-- The cell of a column, if the column exists. -/
def RowView.get? (v : RowView) (column : String) : Option Value :=
  match v.columns.reverse.find? (·.1 == column) with
  | some (_, i) => v.row[i]?
  | none => none

namespace Predicate

mutual
/-- The columns a predicate reads, in order, repeats included. -/
def columns : Predicate → List String
  | all parts => columnsOfAll parts
  | nullOr c rest => c :: columns rest
  | isNull c _ => [c]
  | among c _ => [c]
  | between c _ _ => [c]
  | compare c _ rhs => match rhs with
    | .column other => [c, other]
    | _ => [c]

/-- The columns of the parts of a conjunction. -/
def columnsOfAll : List Predicate → List String
  | [] => []
  | p :: rest => columns p ++ columnsOfAll rest
end

/-- Membership of a non-null cell in a list of literals: texts compare exactly, booleans with
the words `true` and `false` in any case, numbers with the literals that read as numbers. -/
def amongValues (v : Value) (values : List String) : Outcome :=
  match v with
  | .text t => .ofBool (values.contains t)
  | .bool b => .ofBool (values.any fun c => Text.equalsIgnoringAsciiCase c (if b then "true" else "false"))
  | _ => match v.asFloat? with
    | some x => .ofBool (values.any fun c => match Decimal.readFloat? c with
        | some y => y == x
        | none => false)
    | none => .unsupported

/-- A comparison of two non-null cells: as numbers when both are numbers, as texts when both are
texts, as booleans when both are booleans; unsupported otherwise. -/
def compareValues (op : CompareOp) (l r : Value) : Outcome :=
  match l.asFloat?, r.asFloat? with
  | some a, some b => .ofBool (op.holdsFloat a b)
  | _, _ => match l.asText?, r.asText? with
    | some a, some b => .ofBool (op.holdsBy (· == ·) (· < ·) a b)
    | _, _ => match l.asBool?, r.asBool? with
      | some a, some b => .ofBool (op.holdsBy (· == ·) (fun x y => !x && y) a b)
      | _, _ => .unsupported

/-- The cell an operand stands for in a row. -/
def operandValue (v : RowView) : Operand → Option Value
  | .number x => some (.float x)
  | .text s => some (.text s)
  | .bool b => some (.bool b)
  | .column c => match v.get? c with
    | some .null => none
    | other => other

mutual
/-- What a predicate says of a row. -/
def evaluate (v : RowView) : Predicate → Outcome
  | all parts => evaluateAll v parts
  | nullOr c rest =>
    if (v.get? c).map Value.isNull |>.getD false then .passed else evaluate v rest
  | isNull c negated => match v.get? c with
    | some x => .ofBool (x.isNull != negated)
    | none => .unsupported
  | among c values => match v.get? c with
    | some .null | none => .unsupported
    | some x => amongValues x values
  | between c lo hi => match (v.get? c).bind Value.asFloat? with
    | some x => .ofBool (x ≥ lo && x ≤ hi)
    | none => .unsupported
  | compare c op rhs => match v.get? c with
    | some .null | none => .unsupported
    | some l => match operandValue v rhs with
      | some r => compareValues op l r
      | none => .unsupported

/-- The first outcome of the parts that is not a pass, or a pass. -/
def evaluateAll (v : RowView) : List Predicate → Outcome
  | [] => .passed
  | p :: rest => match evaluate v p with
    | .passed => evaluateAll v rest
    | other => other
end

/-- Whether a predicate passes a row. -/
def passes (v : RowView) (p : Predicate) : Bool :=
  evaluate v p == .passed

end Predicate

end DataQuality
