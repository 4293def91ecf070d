import DataQuality.Suite.Validate
import DataQuality.Toml.Parse
import DataQuality.Json.Parse
import DataQuality.Files.Basic

/-!
# Suite files

A suite file is TOML or JSON, told apart by its extension in any case (`.toml`, `.json`); any
other extension, or none, is refused.  The text is read as a generic document (a TOML float that
is not finite becomes `null`, as a generic document has no such numbers) and then as a suite.
-/

namespace DataQuality

open Json

mutual
/-- A document with every number that is not finite replaced by `null`. -/
def Json.finiteOnly : Json → Json
  | .float x => if x.isNaN || x.isInf then .null else .float x
  | .arr items => .arr (finiteItems items)
  | .obj fields => .obj (finiteFields fields)
  | v => v

/-- Items with every number that is not finite replaced by `null`. -/
def finiteItems : List Json → List Json
  | [] => []
  | v :: rest => v.finiteOnly :: finiteItems rest

/-- Members with every number that is not finite replaced by `null`. -/
def finiteFields : List (String × Json) → List (String × Json)
  | [] => []
  | (k, v) :: rest => (k, v.finiteOnly) :: finiteFields rest
end

/-- Reads the text of a suite file of a given extension. -/
def readSuiteText (extension text : String) : Except SuiteError SuiteConfig := do
  let doc ← match extension.toList.map Char.toLower |> String.ofList with
    | "toml" => match Toml.parse text with
      | .ok parsed => pure parsed.document.finiteOnly
      | .error e => throw (.toml e)
    | "json" => match Json.parse text with
      | .ok doc => pure doc
      | .error e => throw (.json e)
    | other => throw (.unsupportedFormat other)
  parseSuite doc

section

variable {m : Type → Type} [Monad m]

/-- Loads the suite file at a path. -/
def loadSuite (fs : FileSystem m) (path : String) : m (Except SuiteError SuiteConfig) := do
  match ← fs.readText path with
  | .error e => return .error (.io e)
  | .ok text => return readSuiteText ((Path.extension? path).getD "") text

end

end DataQuality
