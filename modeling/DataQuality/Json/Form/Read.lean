import DataQuality.Json.Form
import DataQuality.Json.Parse

/-!
# Reading a text against a form

`Form.readText` reads a document from its text as a value of a form, from left to right, and
stops at the first fault it meets, placed where the reading stands when it finds it:

* a scalar of the wrong kind is read in order to be named, and refused after it; a container of
  the wrong kind is refused at its bracket: `invalid type: integer `5`, expected a string`;
* an integer out of the range of its width is refused after it;
* a case that is not among the cases of an enumeration is refused after its name;
* faults that concern a whole object or array (a missing field, a field given twice, an array
  too short for a record) are found without a place, and placed by the container around them
  once it has passed over the blanks and the closing bracket that follow;
* faults of a document that had to be read whole first (the fields of an object whose case is
  named by a member, a labelled number) are placed the same way, after that document.

A fault of the text itself (a missing comma, an unknown word) is refused where it stands, as
`Json.parse` refuses it, but only if the form has not refused the document before it.  After the
value, only blanks may follow.
-/

namespace DataQuality

namespace Json

/-- A fault met while reading: the refusal, and where the reading stood when it was met.  A
refusal of line zero has no place yet; the container around it gives it one. -/
structure Fault where
  error : ParseError
  reached : Cursor

/-- A refusal with its place. -/
def placed (e : ParseError) (c : Cursor) : Fault := ⟨e, c⟩

/-- A refusal without a place yet, met with the reading at a cursor. -/
def unplaced (cause : String) (c : Cursor) : Fault := ⟨⟨cause, 0, 0⟩, c⟩

/-- A fault placed at a cursor, unless it has a place already. -/
def Fault.placeAt (f : Fault) (c : Cursor) : Fault :=
  if f.error.line == 0 then ⟨c.fail f.error.cause, c⟩ else f

/-- The outcome of reading a value. -/
abbrev Reading := Except Fault (Json × Cursor)

namespace Cursor

/-- A refusal of the text, as a fault. -/
def lift {α : Type} (c : Cursor) (r : Except ParseError α) : Except Fault α :=
  r.mapError fun e => placed e c

/-- Reads any document after blanks, as `Json.parse` reads it. -/
def anyValue (c : Cursor) (depth : Nat) : Reading :=
  c.lift (c.value depth (2 * c.rest.length + 2))

/-- The refusal of the next value for being of the wrong kind: a scalar is read to name it and
refused after it, a container is refused at its bracket. -/
def refuseKind (c : Cursor) (expected : String) : Fault :=
  let named := fun (r : Except ParseError (Json × Cursor)) =>
    match r with
    | .ok (v, d) => placed (d.fail (invalidType (unexpected v) expected)) d
    | .error e => placed e c
  match c.peek with
  | some 'n' => named ((c.next.word "ull".toList).map (Json.null, ·))
  | some 't' => named ((c.next.word "rue".toList).map (Json.bool true, ·))
  | some 'f' => named ((c.next.word "alse".toList).map (Json.bool false, ·))
  | some '"' => named ((c.string).map fun (s, d) => (Json.str s, d))
  | some '[' => placed (c.fail (invalidType "sequence" expected)) c
  | some '{' => placed (c.fail (invalidType "map" expected)) c
  | some ch =>
    if ch = '-' ∨ ch.isDigit then named c.number
    else placed (c.failAhead "expected value") c
  | none => placed (c.failAhead "EOF while parsing a value") c

/-- The refusal of the end of the text where a value should start. -/
def refuseEnd (c : Cursor) : Fault := placed (c.failAhead "EOF while parsing a value") c

/-- Passes over the blanks and the closing brace that end an object. -/
def closeObject (c : Cursor) : Cursor :=
  let d := c.blanks
  if d.peek == some '}' then d.next else d

/-- Passes over the blanks and the closing bracket that end an array, or a comma and the blanks
after it. -/
def closeArray (c : Cursor) : Cursor :=
  let d := c.blanks
  match d.peek with
  | some ']' => d.next
  | some ',' => d.next.blanks
  | _ => d

/-- The end of an object: blanks and the closing brace. -/
def endObject (c : Cursor) : Except Fault Cursor :=
  let d := c.blanks
  match d.peek with
  | some '}' => .ok d.next
  | some ',' => .error (placed (d.failAhead "trailing comma") d)
  | some _ => .error (placed (d.failAhead "trailing characters") d)
  | none => .error (placed (d.failAhead "EOF while parsing an object") d)

/-- The end of an array: blanks and the closing bracket. -/
def endArray (c : Cursor) : Except Fault Cursor :=
  let d := c.blanks
  match d.peek with
  | some ']' => .ok d.next
  | some ',' =>
    let e := d.next.blanks
    if e.peek == some ']' then .error (placed (e.failAhead "trailing comma") e)
    else .error (placed (e.failAhead "trailing characters") e)
  | some _ => .error (placed (d.failAhead "trailing characters") d)
  | none => .error (placed (d.failAhead "EOF while parsing a list") d)

/-- The next key of an object, read by `key` at its opening quote, or none at the closing brace
of the object (which is left to read); `first` tells whether no member was read before. -/
def nextKeyWith (c : Cursor) (first : Bool) (key : Cursor → Except Fault (String × Cursor)) :
    Except Fault (Option String × Cursor) :=
  let c := c.blanks
  match c.peek with
  | some '}' => .ok (none, c)
  | none => .error (placed (c.failAhead "EOF while parsing an object") c)
  | some ch => do
    let k ← if ch = ',' ∧ !first then pure c.next.blanks
      else if first then pure c
      else .error (placed (c.failAhead "expected \x60,\x60 or \x60\x7d\x60") c)
    match k.peek with
    | some '"' => (key k).map fun (s, d) => (some s, d)
    | some '}' => .error (placed (k.failAhead "trailing comma") k)
    | some _ => .error (placed (k.failAhead "key must be a string") k)
    | none => .error (placed (k.failAhead "EOF while parsing a value") k)

/-- The next text key of an object, or none at its closing brace. -/
def nextKey (c : Cursor) (first : Bool) : Except Fault (Option String × Cursor) :=
  c.nextKeyWith first fun k => k.lift k.string

/-- The colon after a key. -/
def colon (c : Cursor) : Except Fault Cursor :=
  let c := c.blanks
  match c.peek with
  | some ':' => .ok c.next
  | some _ => .error (placed (c.failAhead "expected \x60:\x60") c)
  | none => .error (placed (c.failAhead "EOF while parsing an object") c)

/-- Whether another item of an array follows, and the cursor at it; `first` tells whether an
item was read before. -/
def nextItem (c : Cursor) (first : Bool) : Except Fault (Bool × Cursor) :=
  let c := c.blanks
  match c.peek with
  | none => .error (placed (c.failAhead "EOF while parsing a list") c)
  | some ']' => .ok (false, c)
  | some ch =>
    if first then .ok (true, c)
    else if ch = ',' then
      let d := c.next.blanks
      match d.peek with
      | some ']' => .error (placed (d.failAhead "trailing comma") d)
      | none => .error (placed (d.failAhead "EOF while parsing a value") d)
      | some _ => .ok (true, d)
    else .error (placed (c.failAhead "expected \x60,\x60 or \x60]\x60") c)

/-- Reads a string after blanks. -/
def readString (c : Cursor) (expected : String) : Except Fault (String × Cursor) :=
  let c := c.blanks
  match c.peek with
  | none => .error c.refuseEnd
  | some '"' => c.lift c.string
  | some _ => .error (c.refuseKind expected)

/-- Reads the name of a case among some names. -/
def readCase (c : Cursor) (names : List String) : Except Fault (String × Cursor) := do
  let (s, d) ← c.readString "variant identifier"
  if names.contains s then .ok (s, d) else .error (placed (d.fail (unknownVariant names s)) d)

/-- Reads `null` after blanks, for a case that carries no value. -/
def readUnit (c : Cursor) : Reading :=
  let c := c.blanks
  match c.peek with
  | none => .error c.refuseEnd
  | some 'n' => (c.lift (c.next.word "ull".toList)).map (Json.null, ·)
  | some _ => .error (c.refuseKind "unit")

/-- Reads a number after blanks and checks it. -/
def readNumber (c : Cursor) (expected : String) (check : Json → Except String Json) : Reading :=
  let c := c.blanks
  match c.peek with
  | none => .error c.refuseEnd
  | some ch =>
    if ch = '-' ∨ ch.isDigit then do
      let (v, d) ← c.lift c.number
      match check v with
      | .ok x => .ok (x, d)
      | .error e => .error (placed (d.fail e) d)
    else .error (c.refuseKind expected)

/-- Reads an integer key in quotes, whose opening quote is next. -/
def readNumberKey (c : Cursor) (w : Width) : Except Fault (String × Cursor) :=
  let q := c.next
  let refusal := "invalid value: expected key to be a number in quotes"
  match q.peek with
  | some ch =>
    if ch = '-' ∨ ch.isDigit then do
      let (v, d) ← q.lift q.number
      match Form.integerOf w v with
      | .error e => .error (placed (d.fail e) d)
      | .ok x =>
        if d.peek == some '"' then .ok (compact x, d.next)
        else .error (placed (d.failAhead refusal) d)
    else .error (placed (q.fail refusal) q)
  | none => .error (placed (q.fail refusal) q)

/-- Reads a container after its opening bracket, which stands next, unless `depth` allows no
more containers. -/
def opening {α : Type} (d : Cursor) (depth : Nat) (body : Cursor → Except Fault (α × Cursor)) :
    Except Fault (α × Cursor) :=
  if depth = 0 then .error (placed (d.next.fail "recursion limit exceeded") d) else body d.next

end Cursor

/-- The value read from a document in hand, or its refusal without a place, met with the
reading at a cursor. -/
def inHand (r : Except String Json) (c : Cursor) : Reading :=
  match r with
  | .ok v => .ok (v, c)
  | .error e => .error (unplaced e c)

/-- Finishes an object: on success its end is read; a fault without a place is placed after
the blanks and the closing brace that follow where it was met. -/
def finishObject {α : Type} (r : Except Fault (α × Cursor)) : Except Fault (α × Cursor) :=
  match r with
  | .ok (v, c) => (c.endObject).map (v, ·)
  | .error f => .error (f.placeAt f.reached.closeObject)

/-- Finishes an array as `finishObject` finishes an object. -/
def finishArray {α : Type} (r : Except Fault (α × Cursor)) : Except Fault (α × Cursor) :=
  match r with
  | .ok (v, c) => (c.endArray).map (v, ·)
  | .error f => .error (f.placeAt f.reached.closeArray)

namespace Form

/-- Which member of an enumeration written with a tag and a content a key is. -/
inductive Member where
  | tag
  | content
  | other

/-- Which member a key is. -/
def memberOf (tag content k : String) : Member :=
  if k == tag then .tag else if k == content then .content else .other

mutual
/-- Reads a value of a form after blanks; `depth` counts the containers still allowed around
it and `fuel` bounds the calls. -/
def read (depth : Nat) : Nat → Form → Cursor → Reading
  | 0, _, c => .error (placed (c.fail "recursion limit exceeded") c)
  | fuel + 1, f, c =>
    let d := c.blanks
    match f with
    | anything => d.anyValue depth
    | text => (d.readString "a string").map fun (s, e) => (str s, e)
    | hexBytes => do
      let (s, e) ← d.readString "a string"
      inHand (ofValue 1 hexBytes (str s)) e
    | flag =>
      match d.peek with
      | none => .error d.refuseEnd
      | some 't' => (d.lift (d.next.word "rue".toList)).map (bool true, ·)
      | some 'f' => (d.lift (d.next.word "alse".toList)).map (bool false, ·)
      | some _ => .error (d.refuseKind "a boolean")
    | integer w => d.readNumber w.name (integerOf w)
    | number => d.readNumber "f64" .ok
    | labelledNumber => do
      let (v, e) ← d.anyValue depth
      inHand (ofValue 1 labelledNumber v) e
    | option inner =>
      if d.peek == some 'n' then (d.lift (d.next.word "ull".toList)).map (null, ·)
      else read depth fuel inner d
    | list item =>
      match d.peek with
      | none => .error d.refuseEnd
      | some '[' => finishArray (d.opening depth fun e => readItems (depth - 1) fuel item e true [])
      | some _ => .error (d.refuseKind "a sequence")
    | dictionary value =>
      match d.peek with
      | none => .error d.refuseEnd
      | some '{' => finishObject (d.opening depth fun e => readEntries (depth - 1) fuel none value e true [])
      | some _ => .error (d.refuseKind "a map")
    | numberKeyed w value =>
      match d.peek with
      | none => .error d.refuseEnd
      | some '{' => finishObject (d.opening depth fun e => readEntries (depth - 1) fuel (some w) value e true [])
      | some _ => .error (d.refuseKind "a map")
    | record name fields =>
      match d.peek with
      | none => .error d.refuseEnd
      | some '{' => finishObject (d.opening depth fun e => readFields (depth - 1) fuel fields e true [] [])
      | some '[' =>
        finishArray (d.opening depth fun e => readPositional (depth - 1) fuel name fields fields.length 0 e true [])
      | some _ => .error (d.refuseKind ("struct " ++ name))
    | variants _ cases =>
      let names := cases.map (·.1)
      match d.peek with
      | none => .error d.refuseEnd
      | some '{' => d.opening depth fun e => do
        let (k, e1) ← e.readCase names
        let e2 ← e1.colon
        let (x, e3) ← match cases.lookup k with
          | some (some inner) => (read (depth - 1) fuel inner e2).map fun (x, e) => (obj [(k, x)], e)
          | _ => (e2.readUnit).map fun (_, e) => (str k, e)
        let e4 := e3.blanks
        match e4.peek with
        | some '}' => .ok (x, e4.next)
        | some _ => .error (placed (e4.fail "expected value") e4)
        | none => .error (placed (e4.fail "EOF while parsing an object") e4)
      | some '"' => do
        let (k, e) ← d.readCase names
        match cases.lookup k with
        | some (some _) => .error (unplaced unitVariantGiven e)
        | _ => .ok (str k, e)
      | some _ => .error (placed (d.failAhead "expected value") d)
    | tagged name tag cases =>
      let names := cases.map (·.1)
      let body := fun (t : String) (rest : Json) (e : Cursor) =>
        match cases.lookup t with
        | some fields => inHand ((ofValue fuel (record name fields) rest).map fun
            | Json.obj ms => obj ((tag, str t) :: ms)
            | other => other) e
        | none => .error (unplaced (unknownVariant names t) e)
      match d.peek with
      | none => .error d.refuseEnd
      | some '{' => do
        let ((t, rest), e) ← finishObject (d.opening depth fun e => readTagged (depth - 1) fuel tag names e true none [])
        body t (obj rest) e
      | some '[' => do
        let ((t, rest), e) ← finishArray (d.opening depth fun e => do
          let (more, e1) ← e.nextItem true
          if !more then .error (unplaced (missingField tag) e1)
          else
            let (t, e2) ← e1.readCase names
            let (rest, e3) ← readItems (depth - 1) fuel anything e2 false []
            .ok ((t, rest), e3))
        body t rest e
      | some _ => .error (d.refuseKind ("internally tagged enum " ++ name))
    | adjacent name tag content cases =>
      match d.peek with
      | none => .error d.refuseEnd
      | some '{' =>
        finishObject (d.opening depth fun e => readAdjacent (depth - 1) fuel tag content cases e true none none)
      | some '[' => finishArray (d.opening depth fun e => do
        let expected := "adjacently tagged enum " ++ name
        let (more, e1) ← e.nextItem true
        if !more then .error (unplaced (invalidLength 0 expected) e1)
        else
          let (t, e2) ← e1.readCase (cases.map (·.1))
          let (more, e3) ← e2.nextItem false
          if !more then .error (unplaced (invalidLength 1 expected) e3)
          else
            let (x, e4) ← read (depth - 1) fuel ((cases.lookup t).getD anything) e3
            .ok (obj [(tag, str t), (content, x)], e4))
      | some _ => .error (d.refuseKind ("adjacently tagged enum " ++ name))

/-- Reads the items of an array after its opening bracket, up to its closing bracket (left to
read). -/
def readItems (depth : Nat) : Nat → Form → Cursor → Bool → List Json → Reading
  | 0, _, c, _, _ => .error (placed (c.fail "recursion limit exceeded") c)
  | fuel + 1, item, c, first, acc => do
    let (more, d) ← c.nextItem first
    if !more then .ok (arr acc.reverse, d)
    else
      let (v, e) ← read depth fuel item d
      readItems depth fuel item e false (v :: acc)

/-- Reads the members of an object after its opening brace as a dictionary, keyed by texts or
by integers of a width; a repeated key keeps its last value. -/
def readEntries (depth : Nat) : Nat → Option Width → Form → Cursor → Bool → List (String × Json) →
    Reading
  | 0, _, _, c, _, _ => .error (placed (c.fail "recursion limit exceeded") c)
  | fuel + 1, keys, value, c, first, acc => do
    let (key, d) ← match keys with
      | some w => c.nextKeyWith first (·.readNumberKey w)
      | none => c.nextKey first
    match key with
    | none => .ok (obj (lastOfEach acc.reverse), d)
    | some k => do
      let e ← d.colon
      let (v, e1) ← read depth fuel value e
      readEntries depth fuel keys value e1 false ((k, v) :: acc)

/-- Reads the members of an object after its opening brace as the fields of a record, given the
fields seen so far and their values. -/
def readFields (depth : Nat) : Nat → List (String × Form × Presence) → Cursor → Bool →
    List String → List (String × Json) → Reading
  | 0, _, c, _, _, _ => .error (placed (c.fail "recursion limit exceeded") c)
  | fuel + 1, fields, c, first, seen, acc => do
    let (key, d) ← c.nextKey first
    match key with
    | none =>
      match firstMissing fields seen with
      | some f => .error (unplaced (missingField f) d)
      | none => .ok (obj (inFieldOrder fields acc), d)
    | some k =>
      match fields.find? (·.1 == k) with
      | some (_, form, _) =>
        if seen.contains k then .error (unplaced (duplicateField k) d)
        else do
          let e ← d.colon
          let (v, e1) ← read depth fuel form e
          readFields depth fuel fields e1 false (k :: seen) ((k, v) :: acc)
      | none => do
        let e ← d.colon
        let (_, e1) ← e.anyValue depth
        readFields depth fuel fields e1 false seen acc

/-- Reads the items of an array after its opening bracket as the fields of a record in order,
from field number `i` on; `count` is the number of fields. -/
def readPositional (depth : Nat) : Nat → String → List (String × Form × Presence) → Nat → Nat →
    Cursor → Bool → List (String × Json) → Reading
  | 0, _, _, _, _, c, _, _ => .error (placed (c.fail "recursion limit exceeded") c)
  | fuel + 1, name, fields, count, i, c, first, acc =>
    match fields.drop i with
    | [] => .ok (obj acc.reverse, c)
    | (f, form, presence) :: _ => do
      let (more, d) ← c.nextItem first
      if more then
        let (v, e) ← read depth fuel form d
        readPositional depth fuel name fields count (i + 1) e false ((f, v) :: acc)
      else if presence == .defaulted then
        readPositional depth fuel name fields count (i + 1) d first acc
      else .error (unplaced (invalidLength i (recordExpectation name count)) d)

/-- Reads the members of an object after its opening brace, finding the case named by the
member `tag` and keeping the other members whole; gives the case and the other members. -/
def readTagged (depth : Nat) : Nat → String → List String → Cursor → Bool → Option String →
    List (String × Json) → Except Fault ((String × List (String × Json)) × Cursor)
  | 0, _, _, c, _, _, _ => .error (placed (c.fail "recursion limit exceeded") c)
  | fuel + 1, tag, names, c, first, found, acc => do
    let (key, d) ← c.nextKey first
    match key with
    | none =>
      match found with
      | none => .error (unplaced (missingField tag) d)
      | some t => .ok ((t, acc.reverse), d)
    | some k =>
      if k == tag then
        if found.isSome then .error (unplaced (duplicateField tag) d)
        else do
          let e ← d.colon
          let (t, e1) ← e.readCase names
          readTagged depth fuel tag names e1 false (some t) acc
      else do
        let e ← d.colon
        let (v, e1) ← e.anyValue depth
        readTagged depth fuel tag names e1 false found ((k, v) :: acc)

/-- Reads the members of an object after its opening brace as an enumeration with a tag and a
content, given the case named so far and the content read so far; a content that comes before
the tag is kept whole until the tag names its case.  Members that are neither are passed
over. -/
def readAdjacent (depth : Nat) : Nat → String → String → List (String × Form) → Cursor → Bool →
    Option String → Option Json → Reading
  | 0, _, _, _, c, _, _, _ => .error (placed (c.fail "recursion limit exceeded") c)
  | fuel + 1, tag, content, cases, c, first, named, held => do
    let (key, d) ← c.nextKey first
    let formOf := fun (t : String) => (cases.lookup t).getD anything
    match key with
    | none =>
      match named, held with
      | some t, some x => .ok (obj [(tag, str t), (content, x)], d)
      | some _, none => .error (unplaced (missingField content) d)
      | none, _ => .error (unplaced (missingField tag) d)
    | some k =>
      match memberOf tag content k, named, held with
      | .other, _, _ => do
        let e ← d.colon
        let (_, e1) ← e.anyValue depth
        readAdjacent depth fuel tag content cases e1 false named held
      | .tag, some _, _ => .error (unplaced (duplicateField tag) d)
      | .content, _, some _ => .error (unplaced (duplicateField content) d)
      | .tag, none, some x => do
        let e ← d.colon
        let (t, e1) ← e.readCase (cases.map (·.1))
        let (y, e2) ← inHand (ofValue fuel (formOf t) x) e1
        readAdjacent depth fuel tag content cases e2 false (some t) (some y)
      | .tag, none, none => do
        let e ← d.colon
        let (t, e1) ← e.readCase (cases.map (·.1))
        readAdjacent depth fuel tag content cases e1 false (some t) none
      | .content, some t, none => do
        let e ← d.colon
        let (x, e1) ← read depth fuel (formOf t) e
        readAdjacent depth fuel tag content cases e1 false (some t) (some x)
      | .content, none, none => do
        let e ← d.colon
        let (x, e1) ← e.anyValue depth
        readAdjacent depth fuel tag content cases e1 false none (some x)
end

/-- Reads a whole text as a document of a form: one value, then nothing but blanks.  Gives the
document as the form sees it, or the first fault; a fault that no container placed stays
without a place. -/
def readText (f : Form) (text : String) : Except ParseError Json :=
  let c := Cursor.start text
  match read 127 (32 * (c.rest.length + 2)) f c with
  | .error fault => .error fault.error
  | .ok (v, d) =>
    let e := d.blanks
    match e.peek with
    | none => .ok v
    | some _ => .error (e.failAhead "trailing characters")

end Form

end Json

end DataQuality
