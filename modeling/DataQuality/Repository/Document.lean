import DataQuality.Repository.Entry
import DataQuality.Run.Context
import DataQuality.Digest.Sha256
import DataQuality.Json.Print
import DataQuality.Json.Form.Read
import DataQuality.Analysis.Decode

/-!
# Stored entries as documents

An entry is written as `{key, metrics, states}`, the metrics as analyzer-metric records and the
aggregates as descriptor-state records, both in key order.  A directory repository keeps each
entry in a file of its own, as the pretty document `{format_version, entry}`; the file is named
by the SHA-256 digest, in hex, of the compact document of the key, so that each key has one
file.  Reading a file gives back the entry, or the reason it does not read: text that is not
JSON, a document that is not an entry, or a format version other than `"1"`.
-/

namespace DataQuality

open Json

/-- The format version written into every stored entry. -/
def formatVersion : String := "1"

/-- An aggregate with its descriptor, as a record. -/
def stateRecord (d : Descriptor) (s : Aggregate) : Json :=
  obj [("descriptor", d.toJson), ("state", s.toJson)]

/-- Reads a list of descriptor-state records. -/
def stateRecordsFromJson : Decoder (List (Descriptor × Aggregate)) :=
  asList fun v => do return (← get v "descriptor" Descriptor.fromJson, ← get v "state" Aggregate.fromJson)

namespace Entry

/-- The document of an entry. -/
def toJson (e : Entry) : Json :=
  obj [("key", e.key.toJson), ("metrics", metricRecords e.metrics),
    ("states", arr (e.states.map fun (d, s) => stateRecord d s))]

/-- Reads an entry; records under the same key keep the last. -/
def fromJson : Decoder Entry := fun v => do
  return {
    key := ← get v "key" ResultKey.fromJson
    metrics := Ordered.ofList (← getOr v "metrics" metricRecordsFromJson [])
    states := Ordered.ofList (← getOr v "states" stateRecordsFromJson []) }

/-- The stored document of an entry: the format version, then the entry. -/
def stored (e : Entry) : Json :=
  obj [("format_version", str formatVersion), ("entry", e.toJson)]

/-- The form of a stored entry: the format version and the entry, its metrics and aggregates
as records. -/
def storedForm : Form :=
  let key := Form.record "ResultKey" [("dataset_date", .integer .i64, .required),
    ("tags", .dictionary .text, .defaulted)]
  let metricRecord := Form.record "MetricRecord" [("analyzer", Form.analyzer, .required),
    ("metric", Form.metric, .required)]
  let stateRecord := Form.record "StateRecord" [("descriptor", Form.descriptor, .required),
    ("state", Form.aggregate, .required)]
  .record "StoredEntry" [("format_version", .text, .required),
    ("entry", .record "RepositoryEntry" [("key", key, .required),
      ("metrics", .list metricRecord, .defaulted), ("states", .list stateRecord, .defaulted)],
      .required)]

/-- Reads the format version and the entry of a stored document. -/
def readVersioned (text : String) : Except ParseError (String × Entry) := do
  let doc ← storedForm.readText text
  let positionless := fun (cause : String) => (⟨cause, 0, 0⟩ : ParseError)
  let version ← (get doc "format_version" asString).mapError positionless
  let entry ← (get doc "entry" fromJson).mapError positionless
  return (version, entry)

/-- Reads the text of a stored entry found at a path: a text that is not a stored entry is
refused at its first fault, and an entry of another format version is refused after it is
read. -/
def readStored (path text : String) : Except RepositoryError Entry :=
  match readVersioned text with
  | .ok (version, entry) =>
    if version != formatVersion then .error (.unsupportedFormat path version) else .ok entry
  | .error e => .error (.json e)

end Entry

/-- The name of the file that holds the entry of a key. -/
def ResultKey.fileName (k : ResultKey) : String :=
  Digest.hexText (Digest.sha256 (Json.compact k.toJson).toUTF8) ++ ".json"

end DataQuality
