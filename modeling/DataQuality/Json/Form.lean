import DataQuality.Json.Print
import DataQuality.Text.Quoted

/-!
# Forms of documents

A form says how a document is read as a typed value: a string, a boolean, an integer of some
width, a double, an optional value, a list, a dictionary keyed by texts or by integers in quotes,
a record of named fields, an enumeration, or a number that may also be one of the labels
`"inf"`, `"-inf"` and `"NaN"`.  An enumeration is written in one of three ways:

* by its case alone, `"name"`, or as an object with the case as its one member,
  `{"name": value}`;
* as an object whose member `tag` names the case, the case's fields beside it;
* as an object whose member `tag` names the case and whose member `content` holds its value.

A record may also be written as an array of its fields in order.  Members of a record that are
not among its fields are passed over; a field may be required, optional (left out of an object it
is absent, but an array must give it), or defaulted (it may be left out of both).

This module holds the forms, the words a refusal uses, and `Form.ofValue`, which reads a
document already in hand.  Refusals of a document in hand have no place in a text; reading a
text against a form (`Form.readText`) places them.
-/

namespace DataQuality

namespace Json

/-- The widths of integers a form may ask for. -/
inductive Width where
  | u8
  | i32
  | i64
  | u64
  | usize
  deriving Inhabited, BEq

namespace Width

/-- The name of a width, as refusals cite it. -/
def name : Width → String
  | u8 => "u8"
  | i32 => "i32"
  | i64 => "i64"
  | u64 => "u64"
  | usize => "usize"

/-- The least integer of a width. -/
def least : Width → Int
  | u8 | u64 | usize => 0
  | i32 => -Int.pow 2 31
  | i64 => -Int.pow 2 63

/-- The greatest integer of a width. -/
def greatest : Width → Int
  | u8 => 255
  | i32 => Int.pow 2 31 - 1
  | i64 => Int.pow 2 63 - 1
  | u64 | usize => Int.pow 2 64 - 1

end Width

/-- Whether a field of a record may be left out. -/
inductive Presence where
  /-- The field must be given. -/
  | required
  /-- Left out of an object the field is absent; an array must still give it. -/
  | optional
  /-- The field has a default and may be left out of an object and of an array. -/
  | defaulted
  deriving Inhabited, BEq

/-- How a document is read as a typed value. -/
inductive Form where
  /-- A string. -/
  | text
  /-- A boolean. -/
  | flag
  /-- An integer of a width. -/
  | integer (width : Width)
  /-- A double: any number. -/
  | number
  /-- `null` for no value, or a value of the inner form. -/
  | option (inner : Form)
  /-- An array of items of one form. -/
  | list (item : Form)
  /-- An object of values of one form, keyed by texts; of a repeated key the last counts. -/
  | dictionary (value : Form)
  /-- An object of values of one form, keyed by integers of a width written in quotes. -/
  | numberKeyed (width : Width) (value : Form)
  /-- A record: its name and its fields, each with its form and presence. -/
  | record (name : String) (fields : List (String × Form × Presence))
  /-- An enumeration written by its case, or as an object with the case as its one member; a
  case without a form carries no value. -/
  | variants (name : String) (cases : List (String × Option Form))
  /-- An enumeration written as an object whose member `tag` names the case, the fields of the
  case beside it. -/
  | tagged (name tag : String) (cases : List (String × List (String × Form × Presence)))
  /-- An enumeration written as an object whose member `tag` names the case and whose member
  `content` holds the case's value. -/
  | adjacent (name tag content : String) (cases : List (String × Form))
  /-- A double written as a number or as one of the labels `"inf"`, `"-inf"` and `"NaN"`. -/
  | labelledNumber
  /-- Bytes written as a string of hex digits, two a byte. -/
  | hexBytes
  /-- Any document. -/
  | anything
  deriving Inhabited

/-- A value as a refusal names what it found. -/
def unexpected : Json → String
  | .null => "null"
  | .bool b => "boolean \x60" ++ (if b then "true" else "false") ++ "\x60"
  | .int n => "integer \x60" ++ toString n ++ "\x60"
  | .float x => "floating point \x60" ++ floatText x ++ "\x60"
  | .str s => "string " ++ Text.quoted s
  | .arr _ => "sequence"
  | .obj _ => "map"

/-- The refusal of a value of the wrong kind. -/
def invalidType (found expected : String) : String :=
  "invalid type: " ++ found ++ ", expected " ++ expected

/-- The refusal of an integer out of the range of a width. -/
def invalidValue (n : Int) (w : Width) : String :=
  "invalid value: integer \x60" ++ toString n ++ "\x60, expected " ++ w.name

/-- A name between backticks. -/
def ticked (s : String) : String := "\x60" ++ s ++ "\x60"

/-- The names that were expected, as a refusal lists them. -/
def expectedNames : List String → String
  | [] => "nothing"
  | [a] => ticked a
  | [a, b] => ticked a ++ " or " ++ ticked b
  | names => "one of " ++ ", ".intercalate (names.map ticked)

/-- The refusal of a case that is not among the cases. -/
def unknownVariant (names : List String) (s : String) : String :=
  "unknown variant " ++ ticked s ++ ", expected " ++ expectedNames names

/-- The refusal of a field that is missing. -/
def missingField (f : String) : String := "missing field " ++ ticked f

/-- The refusal of a field given twice. -/
def duplicateField (f : String) : String := "duplicate field " ++ ticked f

/-- What a record is called when a refusal expects it, with the count of its fields. -/
def recordExpectation (name : String) (count : Nat) : String :=
  "struct " ++ name ++ " with " ++ toString count ++ (if count == 1 then " element" else " elements")

/-- The refusal of an array too short for a record. -/
def invalidLength (i : Nat) (expected : String) : String :=
  "invalid length " ++ toString i ++ ", expected " ++ expected

/-- The refusal of a value given where a case without one was named alone. -/
def unitVariantGiven : String := invalidType "unit variant" "newtype variant"

/-- The refusal of a number label that is not one of the three. -/
def invalidLabel (s : String) : String := "invalid float '" ++ s ++ "'"

/-- The refusal of a value that is neither a number nor a string. -/
def notALabelledNumber : String := "data did not match any variant of untagged enum FloatRecord"

/-- Whether a string is one of the labels of a double. -/
def isNumberLabel (s : String) : Bool := s == "inf" || s == "-inf" || s == "NaN"

/-- A byte as a character is written in a refusal: between single quotes, escaped. -/
def charText (c : Char) : String :=
  let inner := match c with
    | '\'' => "\\'"
    | '"' => "\""
    | c => Text.escapeQuoted c
  "'" ++ inner ++ "'"

/-- The refusal of hex text, if any: an odd number of digits, or the first byte that is no hex
digit with its place. -/
def hexRefusal? (s : String) : Option String :=
  let bytes := s.toUTF8.toList
  if bytes.length % 2 == 1 then some "Odd number of digits"
  else
    let isHex := fun (b : UInt8) =>
      (48 ≤ b && b ≤ 57) || (65 ≤ b && b ≤ 70) || (97 ≤ b && b ≤ 102)
    match bytes.zipIdx.find? (fun (b, _) => !isHex b) with
    | some (b, i) =>
      some ("Invalid character " ++ charText (Char.ofNat b.toNat) ++ " at position " ++ toString i)
    | none => none

namespace Form

/-- What a form is called when a refusal expects it. -/
def expectation : Form → String
  | text | hexBytes => "a string"
  | flag => "a boolean"
  | integer w => w.name
  | number | labelledNumber => "f64"
  | option _ => "option"
  | list _ => "a sequence"
  | dictionary _ | numberKeyed .. => "a map"
  | record name _ => "struct " ++ name
  | variants name _ => "enum " ++ name
  | tagged name .. => "internally tagged enum " ++ name
  | adjacent name .. => "adjacently tagged enum " ++ name
  | anything => "any value"

/-- The integer of a number if it fits a width, or the refusal. -/
def integerOf (w : Width) : Json → Except String Json
  | .int n => if w.least ≤ n ∧ n ≤ w.greatest then .ok (.int n) else .error (invalidValue n w)
  | v => .error (invalidType (unexpected v) w.name)

/-- The first field that must be given and was not. -/
def firstMissing (fields : List (String × Form × Presence)) (seen : List String) : Option String :=
  (fields.find? fun (f, _, p) => p == .required && !seen.contains f).map (·.1)

/-- The members of an object, a repeated key keeping its last value. -/
def lastOfEach (members : List (String × Json)) : List (String × Json) :=
  members.foldl (fun acc (k, v) => acc.filter (·.1 != k) ++ [(k, v)]) []

/-- The fields of a record in the order of the record, from the members read. -/
def inFieldOrder (fields : List (String × Form × Presence)) (members : List (String × Json)) :
    List (String × Json) :=
  fields.filterMap fun (f, _, _) => (members.lookup f).map (f, ·)

mutual
/-- Reads a document in hand as a value of a form, giving the document as the form sees it:
records as objects of their fields, in the order of the record, and cases without a value by
their name alone. -/
def ofValue : Nat → Form → Json → Except String Json
  | 0, _, _ => .error "recursion limit exceeded"
  | fuel + 1, f, v =>
    match f, v with
    | anything, v => .ok v
    | text, .str s => .ok (.str s)
    | hexBytes, .str s => match hexRefusal? s with
      | some e => .error e
      | none => .ok (.str s)
    | flag, .bool b => .ok (.bool b)
    | integer w, .int n => integerOf w (.int n)
    | number, .int n => .ok (.int n)
    | number, .float x => .ok (.float x)
    | labelledNumber, .int n => .ok (.int n)
    | labelledNumber, .float x => .ok (.float x)
    | labelledNumber, .str s => if isNumberLabel s then .ok (.str s) else .error (invalidLabel s)
    | labelledNumber, _ => .error notALabelledNumber
    | option _, .null => .ok .null
    | option inner, v => ofValue fuel inner v
    | list item, .arr vs => .arr <$> itemsOf fuel item vs
    | dictionary value, .obj ms => (.obj ∘ lastOfEach) <$> entriesOf fuel value ms
    | numberKeyed w _, .obj ((k, _) :: _) => .error (invalidType (unexpected (.str k)) w.name)
    | numberKeyed _ _, .obj [] => .ok (.obj [])
    | record _ fields, .obj ms => fieldsOf fuel fields [] [] ms
    | record name fields, .arr vs => positionalOf fuel name fields fields.length 0 [] vs
    | variants _ cases, .str s =>
      match cases.lookup s with
      | some none => .ok (.str s)
      | some (some _) => .error unitVariantGiven
      | none => .error (unknownVariant (cases.map (·.1)) s)
    | variants _ cases, .obj [(k, x)] =>
      match cases.lookup k with
      | some none => match x with
        | .null => .ok (.str k)
        | x => .error (invalidType (unexpected x) "unit")
      | some (some inner) => (fun y => .obj [(k, y)]) <$> ofValue fuel inner x
      | none => .error (unknownVariant (cases.map (·.1)) k)
    | variants _ _, .obj _ => .error "invalid value: map, expected map with a single key"
    | variants _ _, v => .error (invalidType (unexpected v) "string or map")
    | tagged _ tag cases, .obj ms =>
      let tags := ms.filter (·.1 == tag)
      match tags with
      | [(_, .str t)] =>
        match cases.lookup t with
        | some fields => do
          let body ← fieldsOf fuel fields [] [] (ms.filter (·.1 != tag))
          match body with
          | .obj bs => .ok (.obj ((tag, .str t) :: bs))
          | other => .ok other
        | none => .error (unknownVariant (cases.map (·.1)) t)
      | [(_, x)] => .error (invalidType (unexpected x) "variant identifier")
      | [] => .error (missingField tag)
      | _ => .error (duplicateField tag)
    | adjacent _ tag content cases, .obj ms =>
      match ms.filter (·.1 == tag), ms.filter (·.1 == content) with
      | [(_, .str t)], [(_, x)] =>
        match cases.lookup t with
        | some inner => (fun y => .obj [(tag, .str t), (content, y)]) <$> ofValue fuel inner x
        | none => .error (unknownVariant (cases.map (·.1)) t)
      | [(_, x)], [_] => .error (invalidType (unexpected x) "variant identifier")
      | [], _ => .error (missingField tag)
      | [_], [] => .error (missingField content)
      | _ :: _ :: _, _ => .error (duplicateField tag)
      | _, _ => .error (duplicateField content)
    | f, v => .error (invalidType (unexpected v) f.expectation)

/-- Reads the items of an array. -/
def itemsOf : Nat → Form → List Json → Except String (List Json)
  | 0, _, _ => .error "recursion limit exceeded"
  | _, _, [] => .ok []
  | fuel + 1, item, v :: rest => do
    let x ← ofValue fuel item v
    return x :: (← itemsOf fuel item rest)

/-- Reads the values of an object. -/
def entriesOf : Nat → Form → List (String × Json) → Except String (List (String × Json))
  | 0, _, _ => .error "recursion limit exceeded"
  | _, _, [] => .ok []
  | fuel + 1, value, (k, v) :: rest => do
    let x ← ofValue fuel value v
    return (k, x) :: (← entriesOf fuel value rest)

/-- Reads the members of an object as the fields of a record, given the fields seen so far and
their values: a repeated field is refused, members that are no field are passed over, and then
the first missing field that must be given is refused. -/
def fieldsOf : Nat → List (String × Form × Presence) → List String → List (String × Json) →
    List (String × Json) → Except String Json
  | 0, _, _, _, _ => .error "recursion limit exceeded"
  | _ + 1, fields, seen, acc, [] =>
    match firstMissing fields seen with
    | some f => .error (missingField f)
    | none => .ok (.obj (inFieldOrder fields acc))
  | fuel + 1, fields, seen, acc, (k, v) :: rest =>
    match fields.find? (·.1 == k) with
    | none => fieldsOf fuel fields seen acc rest
    | some (_, form, _) =>
      if seen.contains k then .error (duplicateField k)
      else do
        let x ← ofValue fuel form v
        fieldsOf fuel fields (k :: seen) ((k, x) :: acc) rest

/-- Reads the items of an array as the fields of a record in order, from field number `i` on;
`count` is the number of fields.  Items left over are refused. -/
def positionalOf : Nat → String → List (String × Form × Presence) → Nat → Nat →
    List (String × Json) → List Json → Except String Json
  | 0, _, _, _, _, _, _ => .error "recursion limit exceeded"
  | fuel + 1, name, fields, count, i, acc, vs =>
    match fields.drop i, vs with
    | [], [] => .ok (.obj acc.reverse)
    | [], rest =>
      let n := rest.length
      .error (invalidLength (i + n) (toString i ++ (if i == 1 then " element" else " elements") ++
        " in sequence"))
    | (f, form, _) :: _, v :: rest => do
      let x ← ofValue fuel form v
      positionalOf fuel name fields count (i + 1) ((f, x) :: acc) rest
    | (_, _, p) :: _, [] =>
      if p == .defaulted then positionalOf fuel name fields count (i + 1) acc []
      else .error (invalidLength i (recordExpectation name count))
end

end Form

end Json

end DataQuality
