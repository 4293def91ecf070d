import DataQuality.Json.Basic

/-!
# TOML documents as tables

A TOML document is a table of tables.  A table is opened by a header (`[a.b]`), made on the way
to a deeper header (*implicit*), or made by a dotted key (`a.b = 1`, *dotted*); an array of
tables grows by one table at each `[[a]]` header, and later headers and keys go to its last
table.  Values written inline (arrays, inline tables) are closed: nothing is added to them
afterwards.

The table a header opens is filled by the lines below it and put in place at the next header
or at the end of the text.  The rules for putting a key in place:

* a dotted key goes through tables that dotted keys made or that were made on the way to a
  header, never through a table opened by a header nor through a value;
* a key is defined once in its table, and keys of a table opened by a header are not mixed with
  dotted keys into a table made on the way to a header;
* a header may open a table that was only made on the way to a deeper header, and nothing else
  that is already there; `[[a]]` only adds to an array of tables.

A refusal names the key and, when known, the table it was refused in.
-/

namespace DataQuality.Toml

open Json

/-- The kind of a value written in the text. -/
inductive Kind where
  | string
  | integer
  | float
  | boolean
  | datetime
  | array
  | inlineTable
  deriving BEq, Inhabited

/-- The name of a kind, as refusals say it. -/
def Kind.name : Kind → String
  | .string => "string"
  | .integer => "integer"
  | .float => "float"
  | .boolean => "boolean"
  | .datetime => "datetime"
  | .array => "array"
  | .inlineTable => "inline table"

/-- A member of a table: a value with its kind and document, a table with whether it was made
implicitly and whether by dotted keys, or an array of tables. -/
inductive Item where
  | value (kind : Kind) (doc : Json)
  | table (implicit dotted : Bool) (items : List (String × Item))
  | tables (items : List (List (String × Item)))
  deriving Inhabited

/-- A table: how it was made and its members in order. -/
structure Table where
  implicit : Bool := false
  dotted : Bool := false
  items : List (String × Item) := []
  deriving Inhabited

/-- The member form of a table. -/
def Table.toItem (t : Table) : Item := .table t.implicit t.dotted t.items

mutual
/-- The document of a member. -/
def Item.toJson : Item → Json
  | .value _ doc => doc
  | .table _ _ items => obj (itemsToJson items)
  | .tables ts => arr (tablesToJson ts)

/-- The documents of members. -/
def itemsToJson : List (String × Item) → List (String × Json)
  | [] => []
  | (k, t) :: rest => (k, t.toJson) :: itemsToJson rest

/-- The documents of the tables of an array of tables. -/
def tablesToJson : List (List (String × Item)) → List Json
  | [] => []
  | m :: rest => obj (itemsToJson m) :: tablesToJson rest
end

/-- Why a key could not be put in place. -/
inductive Clash where
  /-- The key is already there; the keys of its table, when they are told. -/
  | duplicate (key : String) (table : Option (List String))
  /-- A dotted key goes through a value of some kind. -/
  | extendsValue (path : List String) (kind : Kind)
  /-- A dotted key of too many parts, or values nested too deep. -/
  | tooDeep
  deriving Inhabited

/-- The wording of a clash. -/
def Clash.message : Clash → String
  | .duplicate key table =>
    "duplicate key \x60" ++ key ++ "\x60" ++ match table with
      | none => ""
      | some [] => " in document root"
      | some path => " in table \x60" ++ ".".intercalate path ++ "\x60"
  | .extendsValue path kind =>
    "dotted key \x60" ++ ".".intercalate path ++ "\x60 attempted to extend non-table type (" ++
      kind.name ++ ")"
  | .tooDeep => "recursion limit exceeded"

/-- Whether a byte may stand in a bare key. -/
def isBareKeyByte (b : UInt8) : Bool :=
  (b ≥ 65 && b ≤ 90) || (b ≥ 97 && b ≤ 122) || (b ≥ 48 && b ≤ 57) || b == 45 || b == 95

/-- The hex digits of a code, four at least, in capitals. -/
def upperHex4 (n : Nat) : String :=
  let digits := (Nat.toDigits 16 n).map Char.toUpper
  String.ofList (List.replicate (4 - digits.length) '0' ++ digits)

/-- A key as it is written by default: bare when it can be, else a basic string with escapes. -/
def keyText (key : String) : String :=
  if !key.isEmpty && key.toUTF8.toList.all isBareKeyByte then key
  else
    let body := key.toList.map fun c =>
      match c with
      | '\x08' => "\\b"
      | '\t' => "\\t"
      | '\n' => "\\n"
      | '\x0c' => "\\f"
      | '\r' => "\\r"
      | '"' => "\\\""
      | '\\' => "\\\\"
      | c => if c.toNat ≤ 0x1F || c.toNat == 0x7F then "\\u" ++ upperHex4 c.toNat else c.toString
    "\"" ++ String.join body ++ "\""

/-- The clash of a header whose last key `key` is taken, below the keys `above`. -/
def headerClash (above : List String) (key : String) : Clash :=
  .duplicate (keyText key) (some above)

/-- The member under a key. -/
def lookup (key : String) (items : List (String × Item)) : Option Item :=
  (items.find? (·.1 == key)).map (·.2)

/-- Members with the one under a key replaced where it stands, or added at the end. -/
def place (key : String) (t : Item) (items : List (String × Item)) : List (String × Item) :=
  if items.any (·.1 == key) then items.map fun (k, old) => if k == key then (k, t) else (k, old)
  else items ++ [(key, t)]

/-- Members without the one under a key. -/
def removeKey (key : String) (items : List (String × Item)) : List (String × Item) :=
  items.filter (·.1 != key)

/-- Works on the table at a path below a table, making missing tables on the way (implicit,
and dotted when `dotted`); an array of tables stands for its last table.  A dotted path may not
go through a table opened by a header; no path goes through a value, except that inside an
inline table (`inline`) an inline table written out is taken for a table opened by a header.
`walked` are the keys of the path already walked. -/
def descend {β : Type} (f : Table → Except Clash (Table × β)) (dotted inline : Bool)
    (walked : List String) : List String → Table → Except Clash (Table × β)
  | [], t => f t
  | k :: rest, t =>
    let here := walked ++ [k]
    match lookup k t.items with
    | none => do
      let (child, b) ← descend f dotted inline here rest { implicit := true, dotted }
      return ({ t with items := place k child.toItem t.items }, b)
    | some (.value kind _) =>
      if inline && kind == .inlineTable then .error (.duplicate k none)
      else .error (.extendsValue here kind)
    | some (.tables ts) => do
      let (child, b) ← descend f dotted inline here rest { items := ts.getLast?.getD [] }
      return ({ t with items := place k (.tables (ts.dropLast ++ [child.items])) t.items }, b)
    | some (.table imp dot items) =>
      if dotted && !imp then .error (.duplicate k none)
      else do
        let (child, b) ← descend f dotted inline here rest { implicit := imp, dotted := dot, items }
        return ({ t with items := place k child.toItem t.items }, b)

/-- Defines a value under a dotted key (`path`, then `key`) in a table; `tablePath` are the
keys of the table, for the refusal of a key defined twice. -/
def defineIn (inline : Bool) (tablePath : Option (List String)) (path : List String)
    (key : String) (v : Item) (t : Table) : Except Clash Table := do
  let (t, _) ← descend (fun target =>
    if target.dotted == path.isEmpty then .error (.duplicate key none)
    else match lookup key target.items with
      | some _ => .error (.duplicate key tablePath)
      | none => .ok ({ target with items := target.items ++ [(key, v)] }, ())) true inline [] path t
  return t

/-- The table being read: the finished tables, the table that the lines go to, its header's
keys and whether it belongs to an array of tables. -/
structure Tables where
  root : Table := {}
  current : Table := { implicit := true }
  currentPath : List String := []
  currentIsArray : Bool := false
  deriving Inhabited

/-- Defines a value written by a key line in the current table. -/
def Tables.define (s : Tables) (path : List String) (key : String) (v : Item) :
    Except Clash Tables := do
  let current ← defineIn false (some s.currentPath) path key v s.current
  return { s with current }

/-- Puts the current table in place among the finished tables. -/
def Tables.finish (s : Tables) : Except Clash Tables :=
  match s.currentPath.getLast? with
  | none => .ok { s with root := s.current, current := {}, currentPath := [] }
  | some key => do
    let above := s.currentPath.dropLast
    let current := s.current
    let (root, _) ← descend (fun parent =>
      if s.currentIsArray then
        match lookup key parent.items with
        | none => .ok ({ parent with items := parent.items ++ [(key, .tables [current.items])] }, ())
        | some (.tables ts) =>
          .ok ({ parent with items := place key (.tables (ts ++ [current.items])) parent.items }, ())
        | some _ => .error (headerClash above key)
      else
        match lookup key parent.items with
        | none => .ok ({ parent with items := parent.items ++ [(key, current.toItem)] }, ())
        | some (.table true _ _) =>
          .ok ({ parent with items := place key current.toItem parent.items }, ())
        | some _ => .error (headerClash above key)) false false [] above s.root
    return { s with root, current := {}, currentPath := [] }

/-- Opens the table of a header `[path]`: a table made only on the way to a deeper header is
taken over with what it holds. -/
def Tables.openTable (s : Tables) (path : List String) : Except Clash Tables := do
  let s ← s.finish
  match path.getLast? with
  | none => .ok s
  | some key =>
    let above := path.dropLast
    let (root, held) ← descend (fun parent =>
      match lookup key parent.items with
      | none => .ok (parent, [])
      | some (.table true false items) => .ok ({ parent with items := removeKey key parent.items }, items)
      | some _ => .error (headerClash above key)) false false [] above s.root
    return { root, current := { items := held }, currentPath := path, currentIsArray := false }

/-- Opens a new table of the array of tables of a header `[[path]]`. -/
def Tables.openArrayTable (s : Tables) (path : List String) : Except Clash Tables := do
  let s ← s.finish
  match path.getLast? with
  | none => .ok s
  | some key =>
    let above := path.dropLast
    let (root, _) ← descend (fun parent =>
      match lookup key parent.items with
      | none => .ok ({ parent with items := parent.items ++ [(key, .tables [])] }, ())
      | some (.tables _) => .ok (parent, ())
      | some _ => .error (headerClash above key)) false false [] above s.root
    return { root, current := {}, currentPath := path, currentIsArray := true }

/-- The document of all tables, once the last one is put in place. -/
def Tables.document (s : Tables) : Except Clash Json := do
  let s ← s.finish
  return obj (itemsToJson s.root.items)

end DataQuality.Toml
