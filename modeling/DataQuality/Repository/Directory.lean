import DataQuality.Repository.Document
import DataQuality.Files.Basic

/-!
# Repositories in a directory

A repository that keeps each entry in a file of a directory, named after its key.  Saving
writes the stored document of the entry in place of the file; loading reads the file of the
key, when there is one, and gives nothing when the entry in it has another key.  Loading a
range reads every `.json` file of the directory, in order of name, and fails at the first one
that does not read; the entries the query selects come back in key order.

Files are written as a whole: the directory above is created first, and a path with no
directory above it is refused.
-/

namespace DataQuality

section

variable {m : Type → Type} [Monad m]

/-- Writes a whole file after creating its directory; a bare name is refused. -/
def writeAtomic (fs : FileSystem m) (path text : String) : m (Except RepositoryError Unit) := do
  match Path.parent? path, Path.fileName? path with
  | some dir, some _ =>
    if dir.isEmpty then return .error (.invalid "invalid path for atomic write")
    match ← fs.createDirAll dir with
    | .error e => return .error (.io e)
    | .ok () => return (← fs.writeText path text).mapError .io
  | _, _ => return .error (.invalid "invalid path for atomic write")

/-- The entry stored at a path, if it reads. -/
def readEntryFile (fs : FileSystem m) (path : String) : m (Except RepositoryError Entry) := do
  match ← fs.readText path with
  | .error e => return .error (.io e)
  | .ok text => return Entry.readStored path text

/-- The entries a query selects among the `.json` files of some names in a directory, read in
order; the first that does not read fails the whole. -/
def readEntries (fs : FileSystem m) (root : String) (q : RangeQuery) :
    List String → m (Except RepositoryError (List Entry))
  | [] => return .ok []
  | name :: rest => do
    if Path.extension? name != some "json" then readEntries fs root q rest
    else
      match ← readEntryFile fs (Path.join root name) with
      | .error e => return .error e
      | .ok e =>
        match ← readEntries fs root q rest with
        | .error err => return .error err
        | .ok es => return .ok (if q.matches e.key then q.project e :: es else es)

/-- The repository kept in a directory. -/
def directoryRepository (fs : FileSystem m) (root : String) : Repository m where
  save e := writeAtomic fs (Path.join root e.key.fileName) (Json.pretty e.stored)
  load k := do
    let path := Path.join root k.fileName
    if !(← fs.pathExists path) then return .ok none
    return (← readEntryFile fs path).map fun e => if compare e.key k == .eq then some e else none
  loadRange q := do
    match ← fs.readDir root with
    | .error e => return .error (.io e)
    | .ok names =>
      return (← readEntries fs root q names).map fun es =>
        es.mergeSort fun a b => compare a.key b.key != .gt

/-- Opens the repository kept in a directory, creating the directory when missing. -/
def openDirectoryRepository (fs : FileSystem m) (root : String) :
    m (Except RepositoryError (Repository m)) := do
  match ← fs.createDirAll root with
  | .error e => return .error (.io e)
  | .ok () => return .ok (directoryRepository fs root)

end

end DataQuality
