import DataQuality.Pattern.Parse
import DataQuality.Pattern.Translate
import DataQuality.Pattern.Size
import DataQuality.Pattern.Program

/-!
# Regular expressions: matching

A pattern is read, given its meaning, checked against the size limit, and compiled into a
program (see `Program`).  The program runs over the text once, keeping every live way in order
of preference (a thread list): a thread that accepts cuts off the threads after it, and threads
before it may still go on to a preferred match.  This finds the leftmost match, and among
matches starting there the one that a backtracking search trying alternatives in order would
find first; the groups record where that match passed.
-/

namespace DataQuality.Pattern

open DataQuality.Unicode

/-- A compiled pattern. -/
structure Regex where
  source : String
  program : Program
  deriving Inhabited

/-- The refusal of a pattern whose automaton would be too large. -/
def sizeLimitMessage : String :=
  "Compiled regex exceeds size limit of " ++ toString sizeLimit ++ " bytes."

/-- Compiles a pattern.  A pattern that does not read or has no meaning is refused with its
fault rendered; one whose automaton would be too large, with the size limit. -/
def Regex.compile (pattern : String) : Except String Regex :=
  match parsePattern pattern >>= translate with
  | .error f => .error (f.render pattern)
  | .ok h =>
    if withinSizeLimit h then .ok ⟨pattern, Program.ofHir h⟩
    else .error sizeLimitMessage

/-- A live way through the program: where it stands and the positions it recorded. -/
structure Thread where
  pc : Nat
  slots : Array (Option Nat)

/-- Whether a character is an ASCII word character: a letter, a digit or an underscore. -/
def isAsciiWord (c : Char) : Bool := c.isAlphanum || c == '_'

/-- Whether the character before a position passes a test (never at the start). -/
def testBefore (test : Char → Bool) (text : Array Char) (pos : Nat) : Bool :=
  pos != 0 && (text[pos - 1]?.map test).getD false

/-- Whether the character at a position passes a test (never at the end). -/
def testAfter (test : Char → Bool) (text : Array Char) (pos : Nat) : Bool :=
  (text[pos]?.map test).getD false

/-- Whether a zero-width assertion holds at a position of the text. -/
def Look.holds (text : Array Char) (pos : Nat) : Look → Bool
  | .start => pos == 0
  | .finish => pos == text.size
  | .startLF => pos == 0 || text[pos - 1]? == some '\n'
  | .endLF => pos == text.size || text[pos]? == some '\n'
  | .startCRLF =>
    pos == 0 || text[pos - 1]? == some '\n' ||
      (text[pos - 1]? == some '\r' && text[pos]? != some '\n')
  | .endCRLF =>
    pos == text.size || text[pos]? == some '\r' ||
      (text[pos]? == some '\n' && (pos == 0 || text[pos - 1]? != some '\r'))
  | .wordAscii => testBefore isAsciiWord text pos != testAfter isAsciiWord text pos
  | .wordAsciiNegate => testBefore isAsciiWord text pos == testAfter isAsciiWord text pos
  | .wordUnicode => testBefore Text.isWord text pos != testAfter Text.isWord text pos
  | .wordUnicodeNegate => testBefore Text.isWord text pos == testAfter Text.isWord text pos
  | .wordStartAscii => !testBefore isAsciiWord text pos && testAfter isAsciiWord text pos
  | .wordEndAscii => testBefore isAsciiWord text pos && !testAfter isAsciiWord text pos
  | .wordStartUnicode => !testBefore Text.isWord text pos && testAfter Text.isWord text pos
  | .wordEndUnicode => testBefore Text.isWord text pos && !testAfter Text.isWord text pos
  | .wordStartHalfAscii => !testBefore isAsciiWord text pos
  | .wordEndHalfAscii => !testAfter isAsciiWord text pos
  | .wordStartHalfUnicode => !testBefore Text.isWord text pos
  | .wordEndHalfUnicode => !testAfter Text.isWord text pos

/-- A thread list being built for one position: the threads in order of preference and the
instructions already reached. -/
structure Threads where
  list : Array Thread
  seen : Array Bool

/-- An empty thread list for a program of `size` instructions. -/
def Threads.empty (size : Nat) : Threads := ⟨#[], Array.replicate size false⟩

/-- Adds a thread at `pc` and follows its passes, splits, records and assertions, so that the
list holds only threads waiting on a character test or accepting.  Each step is reached at most
once per position, so `fuel` at the program size suffices. -/
def Threads.add (prog : Array Step) (text : Array Char) (pos : Nat) :
    Nat → Threads → Nat → Array (Option Nat) → Threads
  | 0, ts, _, _ => ts
  | fuel + 1, ts, pc, slots =>
    if ts.seen[pc]?.getD true then ts
    else
      let ts := { ts with seen := ts.seen.set! pc true }
      match prog[pc]? with
      | some (.pass t) => Threads.add prog text pos fuel ts t slots
      | some (.split ways) =>
        ways.foldl (fun ts w => Threads.add prog text pos fuel ts w slots) ts
      | some (.splitLazy ways) =>
        ways.foldr (fun w ts => Threads.add prog text pos fuel ts w slots) ts
      | some (.save k t) => Threads.add prog text pos fuel ts t (slots.set! k (some pos))
      | some (.look l t) =>
        if l.holds text pos then Threads.add prog text pos fuel ts t slots else ts
      | some (.test _ _) | some .accept => { ts with list := ts.list.push ⟨pc, slots⟩ }
      | some .fail | none => ts

/-- Runs the threads of one position in order: a test that passes moves its thread to the next
position; an accepting thread records its match and cuts off the threads after it. -/
def stepThreads (prog : Array Step) (text : Array Char) (pos : Nat) :
    List Thread → Threads → Option (Array (Option Nat)) → Threads × Option (Array (Option Nat))
  | [], next, found => (next, found)
  | t :: rest, next, found =>
    match prog[t.pc]? with
    | some .accept => (next, some t.slots)
    | some (.test set target) =>
      match text[pos]? with
      | some c =>
        if set.has c then
          let next := Threads.add prog text (pos + 1) (prog.size + 1) next target t.slots
          stepThreads prog text pos rest next found
        else stepThreads prog text pos rest next found
      | none => stepThreads prog text pos rest next found
    | _ => stepThreads prog text pos rest next found

/-- Runs the program from position `pos` to the end of the text, starting a new thread at each
position until a match is found, and returns the recorded positions of the preferred match. -/
def runFrom (prog : Array Step) (begin : Nat) (text : Array Char) (slotCount : Nat) :
    Nat → Nat → Threads → Option (Array (Option Nat)) → Option (Array (Option Nat))
  | 0, _, _, found => found
  | fuel + 1, pos, current, found =>
    let current :=
      if found.isNone then
        Threads.add prog text pos (prog.size + 1) current begin (Array.replicate slotCount none)
      else current
    if current.list.isEmpty && found.isSome then found
    else
      let (next, found) := stepThreads prog text pos current.list.toList (Threads.empty prog.size) found
      if pos ≥ text.size then found
      else runFrom prog begin text slotCount fuel (pos + 1) next found

/-- The match of the regex in a text at or after a position: the recorded positions of each
group, in characters, group 0 being the whole match. -/
def Regex.capturesFrom (r : Regex) (text : Array Char) (start : Nat) : Option (Array (Option Nat)) :=
  runFrom r.program.steps r.program.start text r.program.slots (text.size - start + 2) start
    (Threads.empty r.program.steps.size) none

/-- The span of a group in a match. -/
def groupSpan (slots : Array (Option Nat)) (k : Nat) : Option (Nat × Nat) :=
  match slots[2 * k]?, slots[2 * k + 1]? with
  | some (some a), some (some b) => some (a, b)
  | _, _ => none

/-- The text of a group in a match. -/
def groupText (text : Array Char) (slots : Array (Option Nat)) (k : Nat) : Option String :=
  (groupSpan slots k).map fun (a, b) => String.ofList ((text.toList.drop a).take (b - a))

/-- The leftmost match of the regex in a text, with its groups. -/
def Regex.captures (r : Regex) (text : String) : Option (Array (Option Nat)) :=
  r.capturesFrom text.toList.toArray 0

/-- Whether the regex matches somewhere in the text. -/
def Regex.isMatch (r : Regex) (text : String) : Bool :=
  (r.captures text).isSome

/-- The span of the match of the regex at or after a position. -/
def Regex.findFrom (r : Regex) (chars : Array Char) (start : Nat) : Option (Nat × Nat) :=
  if start > chars.size then none else (r.capturesFrom chars start).bind (groupSpan · 0)

/-- The spans of successive non-overlapping matches, each search starting where the last match
ended.  An empty match right where the last match ended is passed over: the search is made
again one character further, and what it finds is taken. -/
def Regex.findAll (r : Regex) (text : String) : List (Nat × Nat) :=
  let chars := text.toList.toArray
  go chars (2 * chars.size + 2) 0 none
where
  go (chars : Array Char) : Nat → Nat → Option Nat → List (Nat × Nat)
    | 0, _, _ => []
    | fuel + 1, start, lastEnd =>
      let found := match r.findFrom chars start with
        | some (a, b) => if a == b && lastEnd == some b then r.findFrom chars (start + 1) else some (a, b)
        | none => none
      match found with
      | some (a, b) => (a, b) :: go chars fuel b (some b)
      | none => []

end DataQuality.Pattern
