import DataQuality.Files.Basic

/-!
# Disks in memory

A disk held as a value: every directory and file under a root, by the parts of its path.  The
root is always a directory.  The operations refuse as an operating system does: a missing
directory on the way is `notFound`, a file on the way is `notADirectory`, a directory where a
file is wanted is `isADirectory`, and creating what exists is `alreadyExists`.  Creating a
directory with its parents succeeds when the directory is already there.

A disk kept in the state of a monad gives that monad its file operations.
-/

namespace DataQuality

/-- What a path names. -/
inductive Node where
  | dir
  | file (text : String)
  deriving Inhabited, BEq

/-- Directories and files by the parts of their paths below the root. -/
structure Disk where
  nodes : List (List String × Node) := []
  deriving Inhabited

namespace Disk

/-- What a path names, if anything; the root is a directory. -/
def node? (d : Disk) (parts : List String) : Option Node :=
  if parts.isEmpty then some .dir else (d.nodes.find? (·.1 == parts)).map (·.2)

/-- Whether a path names a directory. -/
def isDir (d : Disk) (parts : List String) : Bool := d.node? parts == some .dir

/-- The disk with a path naming a node, in place of what it named. -/
def put (d : Disk) (parts : List String) (n : Node) : Disk :=
  if d.nodes.any (·.1 == parts) then
    ⟨d.nodes.map fun (p, old) => if p == parts then (p, n) else (p, old)⟩
  else ⟨d.nodes ++ [(parts, n)]⟩

/-- The disk without a path and everything below it. -/
def removeAll (d : Disk) (parts : List String) : Disk :=
  ⟨d.nodes.filter fun (p, _) => !(parts.isPrefixOf p)⟩

/-- Checks that every directory on the way to a path is there. -/
def reach (d : Disk) (parts : List String) : Except IoError Unit :=
  let above := parts.dropLast
  (List.range above.length).forM fun i =>
    match d.node? (above.take (i + 1)) with
    | some .dir => .ok ()
    | some (.file _) => .error .notADirectory
    | none => .error .notFound

/-- The text of a file. -/
def readText (d : Disk) (parts : List String) : Except IoError String := do
  d.reach parts
  match d.node? parts with
  | some (.file t) => return t
  | some .dir => throw .isADirectory
  | none => throw .notFound

/-- Writes a file, or adds to its end, creating it when missing. -/
def writeWith (combine : String → String) (d : Disk) (parts : List String) :
    Except IoError Disk := do
  d.reach parts
  match d.node? parts with
  | some .dir => throw .isADirectory
  | some (.file t) => return d.put parts (.file (combine t))
  | none => return d.put parts (.file (combine ""))

/-- Creates one directory below an existing one. -/
def makeDir (d : Disk) (parts : List String) : Except IoError Disk := do
  d.reach parts
  match d.node? parts with
  | some _ => throw .alreadyExists
  | none => return d.put parts .dir

/-- Creates a directory and the missing ones above it, looking at most `fuel` levels up. -/
def createDirAllWith (d : Disk) : Nat → List String → Except IoError Disk
  | _, [] => .ok d
  | 0, parts => d.makeDir parts
  | fuel + 1, parts =>
    match d.makeDir parts with
    | .ok d' => .ok d'
    | .error .notFound => do
      let d' ← d.createDirAllWith fuel parts.dropLast
      match d'.makeDir parts with
      | .ok d'' => .ok d''
      | .error e => if d'.isDir parts then .ok d' else .error e
    | .error e => if d.isDir parts then .ok d else .error e

/-- Creates a directory and every missing directory above it. -/
def createDirAll (d : Disk) (parts : List String) : Except IoError Disk :=
  d.createDirAllWith parts.length parts

/-- The names of the entries of a directory, in order of name. -/
def readDir (d : Disk) (parts : List String) : Except IoError (List String) := do
  d.reach parts
  match d.node? parts with
  | some .dir =>
    let names := d.nodes.filterMap fun (p, _) =>
      if p.length == parts.length + 1 && parts.isPrefixOf p then p.getLast? else none
    return names.mergeSort fun a b => compare a b != .gt
  | some (.file _) => throw .notADirectory
  | none => throw .notFound

/-- Every file with its path and text, in order of path. -/
def files (d : Disk) : List (String × String) :=
  let all := d.nodes.filterMap fun (p, n) => match n with
    | .file t => some ("/".intercalate p, t)
    | .dir => none
  all.mergeSort fun a b => compare a.1 b.1 != .gt

/-- The file operations on a disk that a monad keeps, read by `load` and replaced by
`store`. -/
def fileSystem {m : Type → Type} [Monad m] (load : m Disk) (store : Disk → m Unit) :
    FileSystem m :=
  let change := fun (f : Disk → Except IoError Disk) => do
    match f (← load) with
    | .ok d => store d; return .ok ()
    | .error e => return .error e
  { readText := fun path => do return (← load).readText (Path.parts path)
    writeText := fun path text => change (·.writeWith (fun _ => text) (Path.parts path))
    appendText := fun path text => change (·.writeWith (· ++ text) (Path.parts path))
    createDirAll := fun path => change (·.createDirAll (Path.parts path))
    readDir := fun path => do return (← load).readDir (Path.parts path)
    pathExists := fun path => do return ((← load).node? (Path.parts path)).isSome }

end Disk

end DataQuality
