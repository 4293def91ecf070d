/-!
# Files

The few file operations the library needs, in any monad: read and write a whole text file,
append to one, create a directory with its parents, list a directory, and ask whether a path
names something.  A refusal is an operating-system error: the kind of refusal, its code and
its description.

Paths are texts of `/`-separated parts.  `Path.parent?` and `Path.extension?` follow the usual
rules: the parent of a bare name is the empty path, and the extension of a name is what
follows its last dot, unless the dot starts the name.
-/

namespace DataQuality

/-- Why the operating system refused a file operation. -/
inductive IoError where
  /-- The path names nothing. -/
  | notFound
  /-- Something already exists at the path. -/
  | alreadyExists
  /-- A part of the path that should be a directory is a file. -/
  | notADirectory
  /-- The path names a directory where a file was expected. -/
  | isADirectory
  /-- A refusal of another kind, with its error number, the name of its kind and its
  description. -/
  | other (code : Nat) (kind description : String)
  deriving BEq, DecidableEq, Inhabited, Repr

namespace IoError

/-- The error number of a refusal. -/
def code : IoError → Nat
  | .notFound => 2
  | .alreadyExists => 17
  | .notADirectory => 20
  | .isADirectory => 21
  | .other code _ _ => code

/-- The name of the kind of a refusal. -/
def kindName : IoError → String
  | .notFound => "NotFound"
  | .alreadyExists => "AlreadyExists"
  | .notADirectory => "NotADirectory"
  | .isADirectory => "IsADirectory"
  | .other _ kind _ => kind

/-- The description of a refusal. -/
def description : IoError → String
  | .notFound => "No such file or directory"
  | .alreadyExists => "File exists"
  | .notADirectory => "Not a directory"
  | .isADirectory => "Is a directory"
  | .other _ _ description => description

/-- A refusal as a sentence: `No such file or directory (os error 2)`. -/
def message (e : IoError) : String :=
  e.description ++ " (os error " ++ toString e.code ++ ")"

end IoError

/-- The file operations of a monad `m`. -/
structure FileSystem (m : Type → Type) where
  /-- The text of a file. -/
  readText : String → m (Except IoError String)
  /-- Replaces the text of a file, creating it when missing; its directory must exist. -/
  writeText : String → String → m (Except IoError Unit)
  /-- Adds text at the end of a file, creating it when missing. -/
  appendText : String → String → m (Except IoError Unit)
  /-- Creates a directory and every missing directory above it. -/
  createDirAll : String → m (Except IoError Unit)
  /-- The names of the entries of a directory, in order of name. -/
  readDir : String → m (Except IoError (List String))
  /-- Whether the path names a file or a directory. -/
  pathExists : String → m Bool

namespace Path

/-- The parts of a path, without empty parts and `.` parts. -/
def parts (path : String) : List String :=
  ((path.toList.splitOn '/').map String.ofList).filter fun p => p != "" && p != "."

/-- A path followed by a name below it; an absolute name stands alone. -/
def join (base name : String) : String :=
  if name.startsWith "/" || base.isEmpty then name
  else if base.endsWith "/" then base ++ name
  else base ++ "/" ++ name

/-- The last part of a path, unless the path has none or ends in `..`. -/
def fileName? (path : String) : Option String :=
  match (parts path).getLast? with
  | some ".." => none
  | name => name

/-- The path above the last part: empty for a bare name, `.` for a name in `./`, none for
the root or the empty path.  A path that is only `.` has the empty path above it. -/
def parent? (path : String) : Option String :=
  let here := path == "." || path.startsWith "./"
  match parts path, path.startsWith "/", here with
  | [], _, true => some ""
  | [], _, false => none
  | ps, true, _ => some ("/" ++ "/".intercalate ps.dropLast)
  | ps, false, true => some ("/".intercalate ("." :: ps.dropLast))
  | ps, false, false => some ("/".intercalate ps.dropLast)

/-- What follows the last dot of a name, unless that dot starts it. -/
def extension? (path : String) : Option String :=
  match fileName? path with
  | none => none
  | some name =>
    match ((name.toList.splitOn '.').map String.ofList).reverse with
    | [_] => none
    | last :: before => if ".".intercalate before.reverse == "" then none else some last
    | [] => none

end Path

end DataQuality
