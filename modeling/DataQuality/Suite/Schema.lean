import DataQuality.Suite.Spec

/-!
# The schema of suite files

The JSON Schema (draft 07) that suite documents must satisfy before they are read.  A suite is
an object with `checks` and an optional `name`, and nothing else; a check has a description, a
level, constraints and an optional `stop_on_failure`, and nothing else.  A constraint is one of
the specification kinds (exactly one must fit: its `kind` tells them apart) with an optional
`filter` and `hint`.  Each kind lists its members, sorted by name, and requires all of them.
-/

namespace DataQuality

open Json

/-- The kind of value a member of a constraint specification holds. -/
inductive MemberType where
  | text
  | texts
  | number
  | bound
  | dataClass

/-- The members of each kind of constraint specification, kind by kind in declaration order. -/
def ConstraintSpec.signatures : List (String × List (String × MemberType)) :=
  let column := ("column", MemberType.text)
  let columns := ("columns", MemberType.texts)
  let bound := ("assertion", MemberType.bound)
  let pair := [("first", MemberType.text), ("second", MemberType.text), bound]
  [("has_size", [bound]), ("is_complete", [column]), ("has_completeness", [column, bound]),
    ("is_unique", [column]), ("is_primary_key", [columns]), ("has_uniqueness", [columns, bound]),
    ("has_distinctness", [columns, bound]), ("has_unique_value_ratio", [columns, bound]),
    ("has_number_of_distinct_values", [column, bound]),
    ("has_histogram_bin_ratio", [column, ("bin", .text), bound]), ("has_entropy", [column, bound]),
    ("has_mutual_information", pair),
    ("has_approx_quantile", [column, ("quantile", .number), bound]),
    ("has_approx_count_distinct", [column, bound]), ("has_min", [column, bound]),
    ("has_max", [column, bound]), ("has_mean", [column, bound]), ("has_sum", [column, bound]),
    ("has_standard_deviation", [column, bound]), ("has_min_length", [column, bound]),
    ("has_max_length", [column, bound]), ("has_correlation", pair),
    ("satisfies", [("predicate", .text), ("name", .text), bound]),
    ("has_pattern", [column, ("pattern", .text), bound]), ("contains_email", [column, bound]),
    ("contains_url", [column, bound]), ("is_non_negative", [column]), ("is_positive", [column]),
    ("is_contained_in", [column, ("allowed", .texts)]),
    ("is_contained_in_range", [column, ("lower", .number), ("upper", .number)]),
    ("has_data_type", [column, ("data_type", .dataClass), bound])]

namespace SuiteSchema

/-- A reference to a definition. -/
def ref (name : String) : Json := obj [("$ref", str ("#/definitions/" ++ name))]

/-- The schema of a double. -/
def double : Json := obj [("type", str "number"), ("format", str "double")]

/-- The schema of a text. -/
def text : Json := obj [("type", str "string")]

/-- The schema of a list of texts. -/
def texts : Json := obj [("type", str "array"), ("items", text)]

/-- The schema of a text or nothing, with an optional description. -/
def optionalText (description : Option String) : Json :=
  obj ((description.map fun d => [("description", str d)]).getD [] ++
    [("default", null), ("type", arr [str "string", str "null"])])

/-- Texts in ascending order. -/
def sorted (xs : List String) : List String := xs.mergeSort fun a b => compare a b != .gt

/-- Members in ascending order of name. -/
def sortedMembers (xs : List (String × Json)) : List (String × Json) :=
  xs.mergeSort fun a b => compare a.1 b.1 != .gt

/-- The schema of a member type. -/
def memberSchema : MemberType → Json
  | .text => text
  | .texts => texts
  | .number => double
  | .bound => ref "AssertionConfig"
  | .dataClass => ref "DataTypeConfig"

/-- The schema of one kind of specification. -/
def variant (kind : String) (members : List (String × MemberType)) : Json :=
  let props := sortedMembers (("kind", obj [("type", str "string"), ("enum", arr [str kind])]) ::
    members.map fun (n, t) => (n, memberSchema t))
  obj [("type", str "object"), ("required", arr (props.map (str ·.1))), ("properties", obj props)]

/-- The schema of one form of bound. -/
def boundVariant (key : String) (body : Json) : Json :=
  obj [("type", str "object"), ("required", arr [str key]), ("properties", obj [(key, body)]),
    ("additionalProperties", bool false)]

/-- The schema of bounds. -/
def assertionConfig : Json :=
  obj [("oneOf", arr ([ "equals", "at_least", "at_most", "greater_than", "less_than"].map
      (fun k => boundVariant k double) ++
    [boundVariant "between" (obj [("type", str "object"), ("required", arr [str "max", str "min"]),
      ("properties", obj [("max", double), ("min", double)])])]))]

/-- The schema of checks. -/
def checkConfig : Json :=
  obj [("type", str "object"),
    ("required", arr [str "constraints", str "description", str "level"]),
    ("properties", obj [
      ("constraints", obj [("type", str "array"), ("items", ref "ConstraintConfig")]),
      ("description", text), ("level", ref "CheckLevel"),
      ("stop_on_failure", obj [("default", bool false), ("type", str "boolean")])]),
    ("additionalProperties", bool false)]

/-- The schema of levels. -/
def checkLevel : Json :=
  obj [("description", str "Severity a check escalates to when one of its constraints fails."),
    ("type", str "string"), ("enum", arr [str "warning", str "error"])]

/-- The schema of declared constraints. -/
def constraintConfig : Json :=
  obj [("type", str "object"),
    ("oneOf", arr (ConstraintSpec.signatures.map fun (k, ms) => variant k ms)),
    ("properties", obj [("filter", optionalText (some "Row filter the constraint's analyzers apply.")),
      ("hint", optionalText none)])]

/-- The schema of cell classes. -/
def dataTypeConfig : Json :=
  obj [("type", str "string"), ("enum", arr (DataClass.all.map (str ·.key)))]

end SuiteSchema

open SuiteSchema in
/-- The schema of suite documents. -/
def suiteSchema : Json :=
  obj [("$schema", str "http://json-schema.org/draft-07/schema#"), ("title", str "SuiteConfig"),
    ("description", str "Declarative list of checks, loaded from TOML or JSON."),
    ("type", str "object"), ("required", arr [str "checks"]),
    ("properties", obj [("checks", obj [("type", str "array"), ("items", ref "CheckConfig")]),
      ("name", optionalText none)]),
    ("additionalProperties", bool false),
    ("definitions", obj [("AssertionConfig", assertionConfig), ("CheckConfig", checkConfig),
      ("CheckLevel", checkLevel), ("ConstraintConfig", constraintConfig),
      ("DataTypeConfig", dataTypeConfig)])]

end DataQuality
