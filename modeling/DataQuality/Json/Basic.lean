/-!
# JSON documents

The documents that the library reads and writes: stored repository entries, suite files,
printed histories and the run records of the command line.  Numbers keep the distinction
JSON text makes between an integer token and a number with a fraction or an exponent, since
the two print differently (`5` against `5.0`).  Objects keep their members in the order they
were written or built; `Json.canonical` gives the form with sorted keys that a document takes
once read as a generic value.
-/

namespace DataQuality

/-- A JSON value.  `int` holds integer tokens in the range of 64-bit integers, `float` every
other number. -/
inductive Json where
  | null
  | bool (b : Bool)
  | int (n : Int)
  | float (x : Float)
  | str (s : String)
  | arr (items : List Json)
  | obj (fields : List (String × Json))
  deriving Inhabited

namespace Json

/-- The member of an object under a key; the last one when the key repeats. -/
def field? : Json → String → Option Json
  | obj fields, key => (fields.reverse.find? (fun p => p.1 == key)).map (·.2)
  | _, _ => none

/-- The text of a string value. -/
def getStr? : Json → Option String
  | str s => some s
  | _ => none

/-- The items of an array. -/
def getArr? : Json → Option (List Json)
  | arr items => some items
  | _ => none

/-- The members of an object. -/
def getObj? : Json → Option (List (String × Json))
  | obj fields => some fields
  | _ => none

/-- The value of a boolean. -/
def getBool? : Json → Option Bool
  | bool b => some b
  | _ => none

/-- The value of an integer token. -/
def getInt? : Json → Option Int
  | int n => some n
  | _ => none

/-- Whether the value is `null`. -/
def isNull : Json → Bool
  | null => true
  | _ => false

/-- Places a member into members kept in ascending key order; a member already there under
the same key is replaced. -/
def placeField (k : String) (v : Json) : List (String × Json) → List (String × Json)
  | [] => [(k, v)]
  | (k', v') :: rest =>
    if k < k' then (k, v) :: (k', v') :: rest
    else if k == k' then (k, v) :: rest
    else (k', v') :: placeField k v rest

/-- Members in ascending key order, of a repeated key the last. -/
def sortFields (fields : List (String × Json)) : List (String × Json) :=
  fields.foldl (fun acc p => placeField p.1 p.2 acc) []

mutual
/-- The value as a generic document holds it: every object with its keys in ascending order
and, of a repeated key, the last member. -/
def canonical : Json → Json
  | obj fields => obj (sortFields (canonicalFields fields))
  | arr items => arr (canonicalItems items)
  | v => v

/-- Canonical items of an array. -/
def canonicalItems : List Json → List Json
  | [] => []
  | v :: rest => canonical v :: canonicalItems rest

/-- Members with canonical values, in their order. -/
def canonicalFields : List (String × Json) → List (String × Json)
  | [] => []
  | (k, v) :: rest => (k, canonical v) :: canonicalFields rest
end

end Json

end DataQuality
