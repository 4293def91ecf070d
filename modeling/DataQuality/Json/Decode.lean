import DataQuality.Json.Basic
import DataQuality.Decimal.Binary

/-!
# Reading values out of documents

Small readers that take a document apart: a member of an object, a string, a number, a list
of items.  Each fails with a short reason; a missing optional member and a `null` one both read
as absent.
-/

namespace DataQuality

namespace Json

/-- A reader of values of type `α` from documents. -/
abbrev Decoder (α : Type) := Json → Except String α

/-- The member of an object under a key, failing when it is missing. -/
def member (v : Json) (key : String) : Except String Json :=
  match v with
  | obj _ => match v.field? key with
    | some x => .ok x
    | none => .error ("missing field " ++ key)
  | _ => .error "expected an object"

/-- The member of an object under a key, absent when missing or `null`. -/
def memberOpt (v : Json) (key : String) : Except String (Option Json) :=
  match v with
  | obj _ => match v.field? key with
    | some null => .ok none
    | some x => .ok (some x)
    | none => .ok none
  | _ => .error "expected an object"

/-- Reads a string. -/
def asString : Decoder String
  | str s => .ok s
  | _ => .error "expected a string"

/-- Reads a boolean. -/
def asBool : Decoder Bool
  | bool b => .ok b
  | _ => .error "expected a boolean"

/-- Reads an integer token. -/
def asInt : Decoder Int
  | int n => .ok n
  | _ => .error "expected an integer"

/-- Reads a natural number. -/
def asNat : Decoder Nat
  | int n => if n ≥ 0 then .ok n.toNat else .error "expected a natural number"
  | _ => .error "expected a natural number"

/-- Reads any number as a double. -/
def asFloat : Decoder Float
  | int n => .ok (Decimal.ofInt n)
  | float x => .ok x
  | _ => .error "expected a number"

/-- Reads the items of an array. -/
def asArray : Decoder (List Json)
  | arr items => .ok items
  | _ => .error "expected an array"

/-- Reads the members of an object. -/
def asObject : Decoder (List (String × Json))
  | obj fields => .ok fields
  | _ => .error "expected an object"

/-- Reads every item of an array. -/
def asList {α : Type} (d : Decoder α) : Decoder (List α) := fun v => do
  let items ← asArray v
  items.mapM d

/-- Reads a required member. -/
def get {α : Type} (v : Json) (key : String) (d : Decoder α) : Except String α := do
  d (← member v key)

/-- Reads an optional member. -/
def getOpt {α : Type} (v : Json) (key : String) (d : Decoder α) : Except String (Option α) := do
  match ← memberOpt v key with
  | some x => some <$> d x
  | none => pure none

/-- Reads an optional member, with a default when absent. -/
def getD {α : Type} (v : Json) (key : String) (d : Decoder α) (default : α) : Except String α := do
  return (← getOpt v key d).getD default

end Json

end DataQuality
