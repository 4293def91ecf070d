import DataQuality.Cli.Program
import Std.Time.DateTime.Timestamp

/-!
# The command line

`main` runs `Cli.execute` against the machine: its files, its clock and its random source.
Paths are read from the current directory, and the empty path names nothing; a run identifier is a random UUID of version 4.
All the program prints comes from `execute`; this layer only hands it over and exits with
the code.
-/

namespace DataQuality.Disk

/-- The name a refusal's error number has as a kind. -/
def kindOfCode : Nat → String
  | 1 | 13 => "PermissionDenied"
  | 28 => "StorageFull"
  | 30 => "ReadOnlyFilesystem"
  | 36 => "InvalidFilename"
  | 39 => "DirectoryNotEmpty"
  | 40 => "FilesystemLoop"
  | _ => "Uncategorized"

/-- A refusal of the machine as a refusal of the library, by its error number, which some
operations give negated. -/
def refusal (e : IO.Error) : IoError :=
  let other (code : UInt32) (details : String) : IoError :=
    match (if code.toNat < Nat.pow 2 31 then code.toNat else Nat.pow 2 32 - code.toNat) with
    | 2 => .notFound
    | 17 => .alreadyExists
    | 20 => .notADirectory
    | 21 => .isADirectory
    | n => .other n (kindOfCode n) details
  match e with
  | .alreadyExists _ code details | .noFileOrDirectory _ code details
  | .inappropriateType _ code details | .permissionDenied _ code details
  | .invalidArgument _ code details | .resourceExhausted _ code details
  | .noSuchThing _ code details | .interrupted _ code details => other code details
  | .otherError code details | .resourceBusy code details | .resourceVanished code details
  | .unsupportedOperation code details | .hardwareFault code details
  | .unsatisfiedConstraints code details | .illegalOperation code details
  | .protocolError code details | .timeExpired code details => other code details
  | .unexpectedEof => .other 0 "UnexpectedEof" "failed to fill whole buffer"
  | .userError message => .other 0 "InvalidData" message

/-- Runs a file operation, keeping its refusal. -/
def attempt {α : Type} (act : IO α) : IO (Except IoError α) := do
  try return .ok (← act) catch e => return .error (refusal e)

/-- Whether a path names a directory of the machine. -/
def isDirectory (path : String) : IO Bool := do
  if path.isEmpty then return false
  ((← IO.currentDir) / path).isDir

/-- Creates a directory and the missing ones above it, looking at most `fuel` levels up: a
directory that is there already, or that appears meanwhile, is no refusal. -/
def createTree (path : String) : Nat → IO (Except IoError Unit)
  | 0 => attempt (IO.FS.createDir path)
  | fuel + 1 => do
    if path.isEmpty then return .ok ()
    let settle (r : Except IoError Unit) : IO (Except IoError Unit) := do
      match r with
      | .error e => if ← isDirectory path then return .ok () else return .error e
      | .ok () => return .ok ()
    match ← attempt (IO.FS.createDir path) with
    | .error .notFound =>
      match ← createTree ((Path.parent? path).getD "") fuel with
      | .error e => return .error e
      | .ok () => settle (← attempt (IO.FS.createDir path))
    | r => settle r

/-- The files of the machine. -/
def machine : FileSystem IO where
  readText path := attempt (IO.FS.readFile path)
  writeText path text := attempt (IO.FS.writeFile path text)
  appendText path text := attempt do
    let handle ← IO.FS.Handle.mk path .append
    handle.putStr text
  createDirAll path := createTree path ((Path.parts path).length + 1)
  readDir path := do
    if path.isEmpty then return .error .notFound
    let entries ← attempt ((← IO.currentDir) / path).readDir
    return entries.map fun es => (es.toList.map (·.fileName)).mergeSort (· ≤ ·)
  pathExists path := do
    if path.isEmpty then return false
    ((← IO.currentDir) / path).pathExists

end DataQuality.Disk

namespace DataQuality

/-- Two hexadecimal digits of a byte. -/
def hexByte (b : UInt8) : String :=
  let digit (n : Nat) : Char := "0123456789abcdef".toList.getD n '0'
  String.ofList [digit (b.toNat / 16), digit (b.toNat % 16)]

/-- A random UUID of version 4, in its usual text. -/
def freshUuid : IO String := do
  let bytes := (← IO.getRandomBytes 16).toList
  let bytes := bytes.set 6 ((bytes.getD 6 0 &&& 0x0f) ||| 0x40)
  let bytes := bytes.set 8 ((bytes.getD 8 0 &&& 0x3f) ||| 0x80)
  let hex := bytes.map hexByte
  return "-".intercalate [String.join (hex.take 4), String.join ((hex.drop 4).take 2),
    String.join ((hex.drop 6).take 2), String.join ((hex.drop 8).take 2),
    String.join (hex.drop 10)]

/-- The machine as a host of the program. -/
def machineHost (threads : Nat) : Cli.Host IO where
  files := Disk.machine
  now := return (← Std.Time.Timestamp.now).toMillisecondsSinceUnixEpoch.val
  freshId := freshUuid
  threads := threads

end DataQuality

/-- Runs the command line and exits with its code.  A scan asked to use one partition a
thread uses four. -/
def main (args : List String) : IO UInt32 := do
  let console ← DataQuality.Cli.execute (DataQuality.machineHost 4) args
  IO.print console.stdout
  IO.eprint console.stderr
  (← IO.getStdout).flush
  (← IO.getStderr).flush
  return console.exit.toUInt32
