import DataQuality.Toml.Parse
import DataQuality.Repository.Directory
import DataQuality.Decimal.Layout

/-!
# Settings

The settings file gives `verify` and `history` their defaults: the directory of runs, the
number of partitions (zero for one a thread), and the directory of a metrics repository.  It is
TOML; a setting left out keeps its default, and keys that are not settings are ignored.

A setting of the wrong kind is refused with the kind found and the kind expected, the key, and
the span of the value: `invalid type: string "many", expected usize`.  A negative number of
partitions is an invalid value rather than an invalid type.

A settings file that does not exist is created with the defaults, written as a whole.
-/

namespace DataQuality.Cli

open Json

/-- The defaults of the commands. -/
structure Settings where
  runDir : String
  partitions : Nat
  repository : Option String
  deriving Inhabited

/-- The settings used when the settings file says nothing. -/
def Settings.defaults : Settings := ⟨"runs", 0, none⟩

/-- A text as a TOML basic string. -/
def tomlString (s : String) : String :=
  "\"" ++ String.join (s.toList.map fun c => match c with
    | '"' => "\\\""
    | '\\' => "\\\\"
    | '\n' => "\\n"
    | '\t' => "\\t"
    | '\r' => "\\r"
    | c => c.toString) ++ "\""

/-- Settings as a TOML document, one line a setting; an absent repository is left out. -/
def Settings.toToml (s : Settings) : String :=
  "run_dir = " ++ tomlString s.runDir ++ "\npartitions = " ++ toString s.partitions ++ "\n" ++
    (s.repository.map fun r => "repository = " ++ tomlString r ++ "\n").getD ""

/-- A value as a refusal names what it found. -/
def unexpectedValue : Json → String
  | .null => "unit value"
  | .bool b => "boolean \x60" ++ toString b ++ "\x60"
  | .int n => "integer \x60" ++ toString n ++ "\x60"
  | .float x =>
    let text := Decimal.plain x
    let text := if (x.isNaN || x.isInf) || text.contains '.' then text else text ++ ".0"
    "floating point \x60" ++ text ++ "\x60"
  | .str s => "string " ++ Text.quoted s
  | .arr _ => "sequence"
  | .obj _ => "map"

/-- The refusal of a value of the wrong kind. -/
def invalidType (v : Json) (expected : String) : String :=
  "invalid type: " ++ unexpectedValue v ++ ", expected " ++ expected

/-- Reads a path setting. -/
def readPath (v : Json) : Except String String :=
  match v with
  | .str s => .ok s
  | _ => .error (invalidType v "path string")

/-- Reads a count setting. -/
def readPartitions (v : Json) : Except String Nat :=
  match v with
  | .int n => if n < 0 then .error ("invalid value: integer \x60" ++ toString n ++ "\x60, expected usize")
    else .ok n.toNat
  | _ => .error (invalidType v "usize")

/-- Settings with one member of the document applied. -/
def Settings.apply (s : Settings) : String × Json → Except String Settings
  | ("run_dir", v) => do return { s with runDir := ← readPath v }
  | ("partitions", v) => do return { s with partitions := ← readPartitions v }
  | ("repository", v) => do return { s with repository := some (← readPath v) }
  | _ => .ok s

/-- Applies the members of the document in order; a refusal names the key of the member. -/
def applyMembers (s : Settings) : List (String × Json) → Except (String × String) Settings
  | [] => .ok s
  | (k, v) :: rest =>
    match s.apply (k, v) with
    | .ok s => applyMembers s rest
    | .error message => .error (k, message)

/-- Reads settings from the text of a settings file. -/
def Settings.read (text : String) : Except Toml.TomlError Settings := do
  let parsed ← Toml.parse text
  let members := (parsed.document.getObj?).getD []
  match applyMembers Settings.defaults members with
  | .ok s => return s
  | .error (key, message) =>
    throw ⟨message, some text, [key], parsed.spans.lookup [key]⟩

/-- Why the settings could not be had. -/
inductive SettingsError where
  /-- The settings file could not be read. -/
  | io (e : IoError)
  /-- The settings file is not valid settings. -/
  | toml (e : Toml.TomlError)
  /-- The settings file could not be created. -/
  | write (e : RepositoryError)
  deriving Inhabited

section

variable {m : Type → Type} [Monad m]

/-- The settings in a file, or the defaults after writing them to the file when it is
missing. -/
def loadSettings (fs : FileSystem m) (path : String) : m (Except SettingsError Settings) := do
  if ← fs.pathExists path then
    match ← fs.readText path with
    | .error e => return .error (.io e)
    | .ok text => return (Settings.read text).mapError .toml
  else
    match ← writeAtomic fs path Settings.defaults.toToml with
    | .error e => return .error (.write e)
    | .ok () => return .ok Settings.defaults

end

end DataQuality.Cli
