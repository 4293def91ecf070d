import DataQuality.Pattern.Hir
import DataQuality.Text.Word

/-!
# Regular expressions: the matching program

The meaning of a pattern is compiled into a program of steps over characters: test a character
against a set, take one of several ways in order of preference, record a position, check an
assertion, accept.  Each construct compiles to a piece with one way in and one way out, laid out
the way a Thompson construction lays it out, so that the order of preference among the ways is
that of a backtracking search trying alternatives left to right and greedy repetitions first.

A repetition `x*` of something that can match the empty text is compiled as `(x+)?`, which keeps
that order of preference right.
-/

namespace DataQuality.Pattern

open DataQuality.Unicode

/-- One step of a program. -/
inductive Step where
  /-- Go on without reading. -/
  | pass (next : Nat)
  /-- Read one character of the set. -/
  | test (set : CodeSet) (next : Nat)
  /-- Go on if the assertion holds here. -/
  | look (l : Look) (next : Nat)
  /-- Take one of the ways, the first preferred. -/
  | split (ways : Array Nat)
  /-- Take one of the ways, the last preferred. -/
  | splitLazy (ways : Array Nat)
  /-- Record the position in a slot and go on. -/
  | save (slot : Nat) (next : Nat)
  | accept
  | fail
  deriving Inhabited

/-- A piece of program: where it starts and the step whose way out is still open. -/
structure Piece where
  start : Nat
  stop : Nat

/-- Building a program: the steps so far. -/
abbrev Build := StateM (Array Step)

/-- Adds a step and gives its place. -/
def addStep (s : Step) : Build Nat :=
  modifyGet fun steps => (steps.size, steps.push s)

/-- Points the open way out of a step at a target; a split gains a way. -/
def connect (src target : Nat) : Build Unit :=
  modify fun steps =>
    steps.modify src fun
      | .pass _ => .pass target
      | .test s _ => .test s target
      | .look l _ => .look l target
      | .split ways => .split (ways.push target)
      | .splitLazy ways => .splitLazy (ways.push target)
      | .save k _ => .save k target
      | s => s

/-- A piece that reads nothing. -/
def emptyPiece : Build Piece := do
  let i ← addStep (.pass 0)
  return ⟨i, i⟩

/-- A piece of one step. -/
def onePiece (s : Step) : Build Piece := do
  let i ← addStep s
  return ⟨i, i⟩

/-- The pieces in sequence. -/
def chain : List Piece → Build Piece
  | [] => emptyPiece
  | p :: rest => do
    let stop ← rest.foldlM (fun stop q => do connect stop q.start; pure q.stop) p.stop
    return ⟨p.start, stop⟩

/-- The characters of a literal's UTF-8 bytes. -/
def literalChars (bs : List Nat) : List Nat :=
  go bs
where
  go : List Nat → List Nat
    | [] => []
    | a :: rest =>
      if a < 0x80 then a :: go rest
      else if a < 0xE0 then
        match rest with
        | b :: rest => ((a - 0xC0) * 64 + (b - 0x80)) :: go rest
        | [] => []
      else if a < 0xF0 then
        match rest with
        | b :: c :: rest => ((a - 0xE0) * 4096 + (b - 0x80) * 64 + (c - 0x80)) :: go rest
        | _ => []
      else
        match rest with
        | b :: c :: d :: rest =>
          ((a - 0xF0) * 262144 + (b - 0x80) * 4096 + (c - 0x80) * 64 + (d - 0x80)) :: go rest
        | _ => []

/-- A split step that prefers its first way, or its last when lazy. -/
def splitStep (greedy : Bool) : Step :=
  if greedy then .split #[] else .splitLazy #[]

/-- `n` copies of a piece in sequence. -/
def compileCopies (piece : Build Piece) : Nat → Build (List Piece)
  | 0 => pure []
  | n + 1 => do
    let p ← piece
    return p :: (← compileCopies piece n)

/-- Optional copies after `prev`, each entered by a split that may skip to `exit`. -/
def compileOptional (piece : Build Piece) (greedy : Bool) (exit prev : Nat) : Nat → Build Nat
  | 0 => pure prev
  | n + 1 => do
    let split ← addStep (splitStep greedy)
    let p ← piece
    connect prev split
    connect split p.start
    connect split exit
    compileOptional piece greedy exit p.stop n

/-- The piece of a repetition of `min` to `max` rounds of a piece; `consuming` says that
every match of the piece reads something. -/
def compileRepetition (piece : Build Piece) (consuming : Bool) (min : Nat) (max : Option Nat)
    (greedy : Bool) : Build Piece :=
  match min, max with
  | 0, some 1 => do
    let split ← addStep (splitStep greedy)
    let p ← piece
    let stop ← addStep (.pass 0)
    connect split p.start
    connect split stop
    connect p.stop stop
    return ⟨split, stop⟩
  | n, none =>
    if n == 0 then do
      if consuming then
        let split ← addStep (splitStep greedy)
        let p ← piece
        connect split p.start
        connect p.stop split
        return ⟨split, split⟩
      else
        let p ← piece
        let plus ← addStep (splitStep greedy)
        connect p.stop plus
        connect plus p.start
        let question ← addStep (splitStep greedy)
        let stop ← addStep (.pass 0)
        connect question p.start
        connect question stop
        connect plus stop
        return ⟨question, stop⟩
    else if n == 1 then do
      let p ← piece
      let split ← addStep (splitStep greedy)
      connect p.stop split
      connect split p.start
      return ⟨p.start, split⟩
    else do
      let front ← chain (← compileCopies piece (n - 1))
      let last ← piece
      let split ← addStep (splitStep greedy)
      connect front.stop last.start
      connect last.stop split
      connect split last.start
      return ⟨front.start, split⟩
  | n, some m => do
    let front ← chain (← compileCopies piece n)
    if n == m then return front
    let exit ← addStep (.pass 0)
    let prev ← compileOptional piece greedy exit front.stop (m - n)
    connect prev exit
    return ⟨front.start, exit⟩

mutual
/-- The piece of a pattern. -/
def compileHir : Hir → Build Piece
  | .empty => emptyPiece
  | .literal bs => do
    let pieces ← (literalChars bs).mapM fun c => onePiece (.test (CodeSet.range c c) 0)
    chain pieces
  | .cls c => onePiece (.test c.set 0)
  | .look l => onePiece (.look l 0)
  | .repetition min max greedy sub =>
    compileRepetition (compileHir sub) (0 < sub.minLen.getD 0) min max greedy
  | .capture index _ sub => do
    let first ← addStep (.save (2 * index) 0)
    let inner ← compileHir sub
    let last ← addStep (.save (2 * index + 1) 0)
    connect first inner.start
    connect inner.stop last
    return ⟨first, last⟩
  | .concat subs => do chain (← compileList subs)
  | .alternation subs => do
    match ← compileList subs with
    | [] => onePiece .fail
    | [p] => return p
    | pieces =>
      let split ← addStep (.split #[])
      let stop ← addStep (.pass 0)
      for p in pieces do
        connect split p.start
        connect p.stop stop
      return ⟨split, stop⟩

/-- The pieces of some patterns, in order. -/
def compileList : List Hir → Build (List Piece)
  | [] => pure []
  | h :: rest => do
    let p ← compileHir h
    return p :: (← compileList rest)

end

/-- A compiled program: its steps, where it starts, and the number of capture slots. -/
structure Program where
  steps : Array Step
  start : Nat
  slots : Nat
  deriving Inhabited

/-- The number of capture groups of a pattern, the whole match included. -/
def Hir.groupCount : Hir → Nat
  | .capture i _ sub => Nat.max (i + 1) sub.groupCount
  | .repetition _ _ _ sub => sub.groupCount
  | .concat subs => subs.attach.foldl (fun n ⟨h, _⟩ => Nat.max n h.groupCount) 1
  | .alternation subs => subs.attach.foldl (fun n ⟨h, _⟩ => Nat.max n h.groupCount) 1
  | _ => 1

/-- Compiles a pattern: the whole match is group 0, followed by accepting. -/
def Program.ofHir (h : Hir) : Program :=
  let build : Build Nat := do
    let p ← compileHir (.capture 0 none h)
    let acc ← addStep .accept
    connect p.stop acc
    return p.start
  let (start, steps) := build.run #[]
  { steps, start, slots := 2 * h.groupCount }

end DataQuality.Pattern
