import DataQuality.Json.Print

/-!
# Checking documents against a JSON Schema

A small checker for the draft-07 keywords that describe plain record formats: `type`, `enum`,
`required`, `properties`, `additionalProperties` (when `false`), `items`, `oneOf` and local
references `#/definitions/<name>`.  Annotations (`title`, `description`, `default`, `format`)
check nothing.

A schema's keywords are checked in the order of their names, and a reference stands for the
whole schema it points to.  Each failure names the place in the document, as a JSON pointer,
and says what is wrong, quoting the offending value in its compact form with sorted keys.
When `additionalProperties` is `false`, the members the schema knows are checked against their
schemas first, in the document's order, and the unknown ones are then named together.
-/

namespace DataQuality

namespace Json

/-- A place in a document where it does not satisfy its schema, and why. -/
structure Violation where
  path : List String
  message : String
  deriving Inhabited

/-- The JSON pointer of a place: each step after a slash, `~` written `~0` and `/` written
`~1`. -/
def pointer (path : List String) : String :=
  String.join (path.map fun step =>
    "/" ++ String.join (step.toList.map fun c =>
      if c == '~' then "~0" else if c == '/' then "~1" else c.toString))

/-- The names of the primitive types, in the order failures list them. -/
def typeOrder : List String := ["array", "boolean", "integer", "null", "number", "object", "string"]

/-- Whether a value is of a named primitive type; integral numbers are integers. -/
def hasType (v : Json) (name : String) : Bool :=
  match name, v with
  | "array", arr _ => true
  | "boolean", bool _ => true
  | "integer", int _ => true
  | "integer", float x => x == x.floor && !x.isInf
  | "null", null => true
  | "number", int _ => true
  | "number", float _ => true
  | "object", obj _ => true
  | "string", str _ => true
  | _, _ => false

/-- How a failing value is quoted: compact, with sorted keys. -/
def quoted (v : Json) : String := compact (canonical v)

/-- Whether two documents are the same value. -/
def sameValue (a b : Json) : Bool := compact (canonical a) == compact (canonical b)

/-- The failure of a `type` keyword, if the value has none of its types. -/
def typeViolation (v : Json) (spec : Json) : Option String :=
  match spec with
  | str t => if hasType v t then none else some (quoted v ++ " is not of type " ++ quote t)
  | arr ts =>
    let names := ts.filterMap getStr?
    if names.any (hasType v) then none
    else
      let listed := typeOrder.filter names.contains
      some (quoted v ++ " is not of types " ++ ", ".intercalate (listed.map quote))
  | _ => none

/-- The schema a local reference points to. -/
def resolve (root : Json) (ref : String) : Option Json :=
  if ref.startsWith "#/definitions/" then
    (root.field? "definitions").bind (·.field? (ref.drop 14).toString)
  else none

/-- The failures of a value against a schema, found with at most `fuel` nested checks. -/
def violations (root : Json) : Nat → Json → Json → List String → List Violation
  | 0, _, _, _ => []
  | fuel + 1, schema, v, path =>
    match schema with
    | obj keywords =>
      match schema.field? "$ref" with
      | some (str ref) => match resolve root ref with
        | some target => violations root fuel target v path
        | none => []
      | _ =>
        let known := match schema.field? "properties" with
          | some (obj props) => props
          | _ => []
        let closed := match schema.field? "additionalProperties" with
          | some (bool false) => true
          | _ => false
        (sortFields keywords).flatMap fun (keyword, spec) =>
          match keyword, v with
          | "type", _ => match typeViolation v spec with
            | some m => [⟨path, m⟩]
            | none => []
          | "enum", _ => match spec with
            | arr options =>
              if options.any (sameValue v) then []
              else [⟨path, quoted v ++ " is not one of " ++ compact spec⟩]
            | _ => []
          | "required", obj present => match spec with
            | arr names => names.filterMap fun n => match n with
              | str name => if present.any (·.1 == name) then none
                else some ⟨path, quote name ++ " is a required property"⟩
              | _ => none
            | _ => []
          | "properties", obj _ =>
            if closed then []
            else known.flatMap fun (name, sub) => match v.field? name with
              | some x => violations root fuel sub x (path ++ [name])
              | none => []
          | "additionalProperties", obj members =>
            if !closed then []
            else
              let members := sortFields members
              let inner := members.flatMap fun (name, x) =>
                match known.find? (·.1 == name) with
                | some (_, sub) => violations root fuel sub x (path ++ [name])
                | none => []
              let unexpected := (members.filter fun (name, _) => !known.any (·.1 == name)).map (·.1)
              if unexpected.isEmpty then inner
              else inner ++ [⟨path, "Additional properties are not allowed (" ++
                ", ".intercalate (unexpected.map fun n => "'" ++ n ++ "'") ++
                (if unexpected.length == 1 then " was" else " were") ++ " unexpected)"⟩]
          | "items", arr items =>
            (items.zipIdx).flatMap fun (x, i) => violations root fuel spec x (path ++ [toString i])
          | "oneOf", _ => match spec with
            | arr options =>
              let passing := (options.filter fun o => (violations root fuel o v path).isEmpty).length
              if passing == 1 then []
              else if passing == 0 then
                [⟨path, quoted v ++ " is not valid under any of the schemas listed in the 'oneOf' keyword"⟩]
              else
                [⟨path, quoted v ++ " is valid under more than one of the schemas listed in the 'oneOf' keyword"⟩]
            | _ => []
          | _, _ => []
    | _ => []

/-- The failures of a document against a schema that is its own root. -/
def check (schema v : Json) : List Violation :=
  violations schema 10000 schema v []

end Json

end DataQuality
