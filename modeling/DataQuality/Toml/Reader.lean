import DataQuality.Toml.Error

/-!
# Reading bytes of TOML text

TOML text is read byte by byte by small readers that either give a result and move on, or
fail.  A failure says where reading stood, and is either *recoverable*, so that an enclosing
choice may try something else from where it started, or *final*, once the text has been
recognized far enough that nothing else can be meant.

On its way out a failure gathers contexts: what was being read (`invalid array`) and what was
expected where it stopped (`` expected `]` ``); some failures also carry a cause
(`value is out of range`).  Its message is the first thing being read, then everything that was
expected, then the cause, one per line.

A reader that checks what another one read (a range check, a conversion) fails at the place
where the other one started, so that the message points at the start of the offending text.
-/

namespace DataQuality.Toml

/-- What a failure passed through on its way out. -/
inductive Context where
  /-- The kind of thing being read. -/
  | label (what : String)
  /-- Something that would have been accepted where reading stopped. -/
  | expected (what : String)

/-- A failure to read: whether it is final, the byte offset where reading stood, the contexts
it passed through (innermost first), and its cause. -/
structure Failure where
  final : Bool := false
  offset : Nat
  contexts : Array Context := #[]
  cause : Option String := none

/-- The message of a failure: the first thing being read, what was expected, and the cause. -/
def Failure.message (f : Failure) : String :=
  let label := f.contexts.toList.findSome? fun
    | .label w => some w
    | .expected _ => none
  let expected := f.contexts.toList.filterMap fun
    | .expected w => some w
    | .label _ => none
  let parts := (label.map ("invalid " ++ ·)).toList ++
    (if expected.isEmpty then [] else ["expected " ++ ", ".intercalate expected]) ++ f.cause.toList
  "\n".intercalate parts

/-- A character as something expected: in backquotes, a line feed as `newline`. -/
def expectedChar (c : Char) : String :=
  if c == '\n' then "newline" else "\x60" ++ c.toString ++ "\x60"

/-- A word as something expected, in backquotes. -/
def expectedText (s : String) : String := "\x60" ++ s ++ "\x60"

/-- A reader of TOML bytes: it sees the whole text and moves a byte offset into it. -/
abbrev Reader := ReaderT ByteArray (StateT Nat (Except Failure))

namespace Reader

variable {α β : Type}

/-- The offset reading stands at. -/
def offset : Reader Nat := get

/-- Moves to an offset. -/
def moveTo (n : Nat) : Reader Unit := set n

/-- The byte at the offset, if any. -/
def current : Reader (Option UInt8) := do
  return (← read)[← get]?

/-- The byte after the one at the offset, if any. -/
def following : Reader (Option UInt8) := do
  return (← read)[(← get) + 1]?

/-- The bytes left to read. -/
def remaining : Reader Nat := do
  return (← read).size - (← get)

/-- A recoverable failure where reading stands. -/
def reject : Reader α := do
  throw { offset := ← get }

/-- A recoverable failure at an offset, with a cause. -/
def rejectAt (n : Nat) (cause : Option String) : Reader α :=
  throw { offset := n, cause }

/-- Makes every failure of a reader final. -/
def commit (r : Reader α) : Reader α :=
  tryCatch r fun f => throw { f with final := true }

/-- Adds a context to the failures of a reader. -/
def within (c : Context) (r : Reader α) : Reader α :=
  tryCatch r fun f => throw { f with contexts := f.contexts.push c }

/-- Names what a reader reads, for its failures. -/
def labelled (what : String) (r : Reader α) : Reader α := within (.label what) r

/-- Says what a reader expects, for its failures. -/
def expecting (what : String) (r : Reader α) : Reader α := within (.expected what) r

/-- Reads something if it can, or nothing, staying put, on a recoverable failure. -/
def optional (r : Reader α) : Reader (Option α) :=
  tryCatch (some <$> r) fun f => if f.final then throw f else pure none

/-- The first reader, or, on its recoverable failure, the second from the same place. -/
def orElse (r s : Reader α) : Reader α :=
  tryCatch r fun f => if f.final then throw f else s

/-- Whether a reader succeeds here; it reads nothing either way. -/
def lookingAt (r : Reader α) : Reader Bool := do
  let start ← offset
  let ok ← optional r
  moveTo start
  return ok.isSome

/-- Reads one byte that passes a test. -/
def byteWith (p : UInt8 → Bool) : Reader UInt8 := do
  match ← current with
  | some b => if p b then do moveTo ((← offset) + 1); return b else reject
  | none => reject

/-- Reads one byte, whatever it is. -/
def anyByte : Reader UInt8 := byteWith fun _ => true

/-- Reads a given byte. -/
def byte (b : UInt8) : Reader Unit := discard (byteWith (· == b))

/-- Reads given bytes, or fails without moving. -/
def word (w : String) : Reader Unit := do
  let bytes ← read
  let start ← offset
  let ws := w.toUTF8
  if (bytes.extract start (start + ws.size)) == ws then moveTo (start + ws.size) else reject

/-- How many bytes from an offset pass a test, counting up to `limit`. -/
def countFrom (bytes : ByteArray) (p : UInt8 → Bool) (start : Nat) : Nat → Nat → Nat
  | 0, n => n
  | fuel + 1, n =>
    match bytes[start + n]? with
    | some b => if p b then countFrom bytes p start fuel (n + 1) else n
    | none => n

/-- Reads between `least` and `most` bytes that pass a test, as many as there are; fails
without moving when there are fewer than `least`.  Gives the offset where they start. -/
def bytesWhile (least most : Nat) (p : UInt8 → Bool) : Reader Nat := do
  let start ← offset
  let n := countFrom (← read) p start most 0
  if n < least then reject else do
    moveTo (start + n)
    return start

/-- Reads any number of bytes that pass a test. -/
def skipWhile (p : UInt8 → Bool) : Reader Unit := do
  discard (bytesWhile 0 ((← remaining) + 1) p)

/-- Reads at least one byte that passes a test. -/
def skipWhile1 (p : UInt8 → Bool) : Reader Unit := do
  discard (bytesWhile 1 ((← remaining) + 1) p)

/-- Succeeds at the end of the text only. -/
def atEnd : Reader Unit := do
  if (← current).isSome then reject else pure ()

/-- The text between two offsets. -/
def textBetween (start stop : Nat) : Reader String := do
  return (String.fromUTF8? ((← read).extract start stop)).getD ""

/-- Runs a reader and gives what it read, as text, with its result. -/
def withText (r : Reader α) : Reader (α × String) := do
  let start ← offset
  let a ← r
  return (a, ← textBetween start (← offset))

/-- Checks what a reader gave; on a refusal, fails recoverably where the reader started, with
the refusal's cause. -/
def checked (r : Reader α) (f : α → Except (Option String) β) : Reader β := do
  let start ← offset
  let a ← r
  match f a with
  | .ok b => pure b
  | .error cause => rejectAt start cause

/-- Reads something repeatedly while it reads, at most `fuel` times; a final failure stops
everything. -/
def repeatSkip (r : Reader Unit) : Nat → Reader Unit
  | 0 => pure ()
  | fuel + 1 => do
    let start ← offset
    match ← optional r with
    | some () => if (← offset) == start then pure () else repeatSkip r fuel
    | none => pure ()

/-- Reads something repeatedly while it reads, gathering the results, at most `fuel` times. -/
def repeatCollect (r : Reader α) (acc : Array α) : Nat → Reader (Array α)
  | 0 => pure acc
  | fuel + 1 => do
    let start ← offset
    match ← optional r with
    | some a => if (← offset) == start then pure (acc.push a) else repeatCollect r (acc.push a) fuel
    | none => pure acc

/-- Items after the first, each after a separator; a recoverable failure of the separator or of
the item after it ends the list where the separator started. -/
def moreSeparated (item : Reader α) (sep : Reader Unit) (acc : Array α) : Nat → Reader (Array α)
  | 0 => pure acc
  | fuel + 1 => do
    let start ← offset
    let next ← optional (do sep; item)
    match next with
    | some a =>
      if (← offset) == start then pure (acc.push a) else moreSeparated item sep (acc.push a) fuel
    | none => do
      moveTo start
      pure acc

/-- One item or more, separated. -/
def separated1 (item : Reader α) (sep : Reader Unit) : Reader (Array α) := do
  let first ← item
  moreSeparated item sep #[first] ((← remaining) + 1)

/-- Any number of items, separated. -/
def separated0 (item : Reader α) (sep : Reader Unit) : Reader (Array α) := do
  match ← optional item with
  | none => pure #[]
  | some first => moreSeparated item sep #[first] ((← remaining) + 1)

end Reader

end DataQuality.Toml
