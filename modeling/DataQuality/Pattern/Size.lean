import DataQuality.Pattern.Utf8

/-!
# Regular expressions: the size of the compiled automaton

A pattern is refused when the byte automaton compiled from it would take more than
`sizeLimit` bytes.  Two automata are built: a forward one, with the capture groups and a
leading lazy any-byte loop unless every match starts at the start of the text, and a reverse
one, without groups, reading each concatenation back to front and with the loop unless every
match ends at the end of the text.  Either may break the limit.

The size of an automaton under construction is `stateBytes` per state, `transitionBytes` per
transition of a multi-range state, and `alternateBytes` for each way added to a union; it only
grows, so the limit is broken as soon as a step takes it over.  This module counts it while
laying out the automaton step for step, in the same order, since the state numbers decide which
pieces of a character class are shared:

* forward, a non-ASCII class is compiled as a minimal automaton of its byte sequences, sharing
  every equal finished node that a table of `forwardSlots` slots still remembers;
* in reverse, each byte sequence is laid out from the end of the class backwards, sharing an
  equal suffix that a table of `reverseSlots` slots still remembers.

Both tables keep one entry per slot, the slot given by an FNV-1a hash, and forget everything at
the next class.
-/

namespace DataQuality.Pattern

open DataQuality.Unicode

/-- The most bytes an automaton may take. -/
def sizeLimit : Nat := 10485760

/-- The bytes of one state. -/
def stateBytes : Nat := 32

/-- The bytes of one transition of a multi-range state. -/
def transitionBytes : Nat := 8

/-- The bytes of one way of a union. -/
def alternateBytes : Nat := 4

/-- The slots of the table of finished nodes (forward). -/
def forwardSlots : Nat := 10000

/-- The slots of the table of shared suffixes (reverse). -/
def reverseSlots : Nat := 1000

/-- The FNV-1a offset basis. -/
def fnvBasis : UInt64 := 14695981039346656037

/-- One FNV-1a step: mixes a number into the hash. -/
def fnvStep (h : UInt64) (x : Nat) : UInt64 := (h ^^^ x.toUInt64) * 1099511628211

/-- The hash of a finished node: its transitions' ranges and targets in order. -/
def nodeHash (transitions : Array (Nat × Nat × Nat)) : Nat :=
  (transitions.foldl (fun h (a, b, t) => fnvStep (fnvStep (fnvStep h a) b) t) fnvBasis).toNat

/-- The hash of a suffix: the state it leads to and its first byte range. -/
def suffixHash (target a b : Nat) : Nat :=
  (fnvStep (fnvStep (fnvStep fnvBasis target) a) b).toNat

/-- A slot of a sharing table: the class it was filled for, its key and the shared state.  A
slot filled for an earlier class counts as empty. -/
structure Slot (κ : Type) where
  round : Nat
  key : κ
  state : Nat
  deriving Inhabited

/-- The state a slot shares for a key in the current class, if any. -/
def Slot.lookup {κ : Type} [BEq κ] (round : Nat) (key : κ) : Option (Slot κ) → Option Nat
  | some e => if e.round == round && e.key == key then some e.state else none
  | none => none

/-- A node of the class automaton not finished yet: its transitions so far, and the range of
its last transition, whose target is not known yet. -/
structure OpenNode where
  transitions : Array (Nat × Nat × Nat)
  last : Option (Nat × Nat)
  deriving Inhabited

/-- Closes the last transition of a node on a target. -/
def OpenNode.freeze (n : OpenNode) (target : Nat) : OpenNode :=
  match n.last with
  | some (a, b) => ⟨n.transitions.push (a, b, target), none⟩
  | none => n

/-- An automaton under construction, as far as its size goes. -/
structure Layout where
  /-- For each state, whether it is a union, which grows at each way added. -/
  unions : Array Bool := #[]
  /-- The bytes held by the states' contents. -/
  contents : Nat := 0
  /-- The number of the current class; each class starts a new round of the tables. -/
  round : Nat := 0
  /-- The finished nodes of the current class, by slot (forward). -/
  finished : Array (Slot (Array (Nat × Nat × Nat))) := Array.replicate forwardSlots default
  /-- The open nodes of the current class, the root first (forward). -/
  open_ : Array OpenNode := #[]
  /-- The shared suffixes of the current class, by slot (reverse). -/
  suffixes : Array (Slot (Nat × Nat × Nat)) := Array.replicate reverseSlots default

/-- The size of the automaton so far. -/
def Layout.size (l : Layout) : Nat :=
  l.unions.size * stateBytes + l.contents

/-- Laying out an automaton; it stops once the size breaks the limit. -/
abbrev LayoutM := StateT Layout (Except Unit)

/-- Stops if the size breaks the limit. -/
def checkSize : LayoutM Unit := do
  if (← get).size > sizeLimit then throw ()

/-- Adds a state holding `contents` bytes; gives its number. -/
def addState (union : Bool) (contents : Nat) : LayoutM Nat := do
  let id ← modifyGet fun l =>
    (l.unions.size, { l with unions := l.unions.push union, contents := l.contents + contents })
  checkSize
  return id

/-- Adds a state with no contents. -/
def addPlain : LayoutM Nat := addState false 0

/-- Adds a union with no ways yet. -/
def addUnion : LayoutM Nat := addState true 0

/-- Points the open way out of a state somewhere; a union gains a way. -/
def link (src : Nat) : LayoutM Unit := do
  if (← get).unions.getD src false then
    modify fun l => { l with contents := l.contents + alternateBytes }
    checkSize

/-- The two ends of a piece of the automaton. -/
structure Ends where
  start : Nat
  stop : Nat

/-- A piece of one state. -/
def singleState : LayoutM Ends := do
  let i ← addPlain
  return ⟨i, i⟩

/-- Links a piece after another. -/
def follow (first second : Ends) : LayoutM Ends := do
  link first.stop
  return ⟨first.start, second.stop⟩

/-- A multi-range state after a plain state for its target. -/
def rangesState (count : Nat) : LayoutM Ends := do
  let target ← addPlain
  let start ← addState false (count * transitionBytes)
  return ⟨start, target⟩

/-- Finishes a node of a class automaton: an equal node the table remembers, or a new state. -/
def finishNode (transitions : Array (Nat × Nat × Nat)) : LayoutM Nat := do
  let slot := nodeHash transitions % forwardSlots
  let l ← get
  match Slot.lookup l.round transitions l.finished[slot]? with
  | some id => return id
  | none =>
    let id ← addState false (transitions.size * transitionBytes)
    modify fun l => { l with finished := l.finished.set! slot ⟨l.round, transitions, id⟩ }
    return id

/-- Finishes the open nodes deeper than `depth`, the deepest first, each the target of the
last transition of the one above; `fuel` bounds the nodes. -/
def finishBelow (depth : Nat) : Nat → Nat → LayoutM Nat
  | 0, next => pure next
  | fuel + 1, next => do
    if depth + 1 < (← get).open_.size then
      let node ← modifyGet fun l => (l.open_.back!.freeze next, { l with open_ := l.open_.pop })
      finishBelow depth fuel (← finishNode node.transitions)
    else pure next

/-- Closes the last transition of the deepest open node on a target. -/
def freezeLast (target : Nat) : LayoutM Unit :=
  modify fun l => { l with open_ := l.open_.modify (l.open_.size - 1) (·.freeze target) }

/-- Finishes the open nodes deeper than `depth` towards the class's target. -/
def finishFrom (target depth : Nat) : LayoutM Unit := do
  let next ← finishBelow depth (← get).open_.size target
  freezeLast next

/-- How many leading ranges of a sequence, from the `i`-th on, are the last transitions of the
open nodes; `fuel` bounds the count. -/
def sharedDepth (nodes : Array OpenNode) (seq : Array (Nat × Nat)) : Nat → Nat → Nat
  | 0, i => i
  | fuel + 1, i =>
    match nodes[i]?, seq[i]? with
    | some n, some r => if n.last == some r then sharedDepth nodes seq fuel (i + 1) else i
    | _, _ => i

/-- Adds a byte sequence to a class automaton: the nodes below the shared part are finished,
and the rest of the sequence opens new nodes. -/
def addSequence (target : Nat) (seq : Array (Nat × Nat)) : LayoutM Unit := do
  let depth := sharedDepth (← get).open_ seq seq.size 0
  finishFrom target depth
  let rest := seq.toList.drop depth
  match rest with
  | [] => pure ()
  | r :: more =>
    modify fun l =>
      let nodes := l.open_.modify (l.open_.size - 1) fun n => { n with last := some r }
      { l with open_ := nodes ++ (more.map fun q => (⟨#[], some q⟩ : OpenNode)).toArray }

/-- A non-ASCII class read forward: a target, then the minimal automaton of its sequences, its
nodes finished deepest first and shared through the table. -/
def forwardClass (ranges : Array (Nat × Nat)) : LayoutM Ends := do
  let target ← addPlain
  modify fun l => { l with round := l.round + 1, open_ := #[⟨#[], none⟩] }
  for (lo, hi) in ranges do
    for seq in utf8Sequences lo hi do
      addSequence target seq
  finishFrom target 0
  let root ← modifyGet fun l => (l.open_.back!, { l with open_ := l.open_.pop })
  let start ← finishNode root.transitions
  return ⟨start, target⟩

/-- A non-ASCII class read backwards: a union of the sequences, each laid out from the shared
end backwards, reusing a remembered state for an equal suffix. -/
def reverseClass (ranges : Array (Nat × Nat)) : LayoutM Ends := do
  let union ← addUnion
  let stop ← addPlain
  modify fun l => { l with round := l.round + 1 }
  for (lo, hi) in ranges do
    for seq in utf8Sequences lo hi do
      let mut stateAfter := stop
      for (a, b) in seq do
        let key := (stateAfter, a, b)
        let slot := suffixHash stateAfter a b % reverseSlots
        let l ← get
        match Slot.lookup l.round key l.suffixes[slot]? with
        | some id => stateAfter := id
        | none =>
          let id ← addPlain
          modify fun l => { l with suffixes := l.suffixes.set! slot ⟨l.round, key, id⟩ }
          stateAfter := id
      link union
  return ⟨union, stop⟩

/-- The piece of a class. -/
def classPiece (reverse : Bool) : Class → LayoutM Ends
  | .bytes s => rangesState s.ranges.size
  | .unicode s =>
    if s.isAscii then rangesState s.ranges.size
    else if reverse then reverseClass s.ranges
    else forwardClass s.ranges

/-- The union where a repetition chooses to go on or stop, greedy or lazy alike. -/
def splitState : LayoutM Nat := addUnion

/-- Lays out `n` more copies after a piece. -/
def layCopiesAfter (piece : LayoutM Ends) (acc : Ends) : Nat → LayoutM Ends
  | 0 => pure acc
  | n + 1 => do
    let next ← piece
    layCopiesAfter piece (← follow acc next) n

/-- Lays out `n` copies of a piece in sequence. -/
def layCopies (piece : LayoutM Ends) : Nat → LayoutM Ends
  | 0 => singleState
  | n + 1 => do
    let first ← piece
    layCopiesAfter piece first n

/-- Lays out the optional copies of a bounded repetition, each entered by a union that may skip
to `exit`; gives the stop of the last. -/
def layOptional (piece : LayoutM Ends) (prev : Nat) : Nat → LayoutM Nat
  | 0 => pure prev
  | n + 1 => do
    let union ← splitState
    let p ← piece
    link prev
    link union
    link union
    layOptional piece p.stop n

/-- Lays out a repetition of `min` to `max` rounds of a piece; `consuming` says that every
match of the piece takes a byte. -/
def layRepetition (piece : LayoutM Ends) (consuming : Bool) (min : Nat) (max : Option Nat) :
    LayoutM Ends :=
  match min, max with
  | 0, some 1 => do
    let union ← splitState
    let p ← piece
    let stop ← addPlain
    link union
    link union
    link p.stop
    return ⟨union, stop⟩
  | n, none =>
    if n == 0 then do
      if consuming then
        let union ← splitState
        let p ← piece
        link union
        link p.stop
        return ⟨union, union⟩
      else
        let p ← piece
        let plus ← splitState
        link p.stop
        link plus
        let question ← splitState
        let stop ← addPlain
        link question
        link question
        link plus
        return ⟨question, stop⟩
    else if n == 1 then do
      let p ← piece
      let union ← splitState
      link p.stop
      link union
      return ⟨p.start, union⟩
    else do
      let front ← layCopies piece (n - 1)
      let last ← piece
      let union ← splitState
      link front.stop
      link last.stop
      link union
      return ⟨front.start, union⟩
  | n, some m => do
    let front ← layCopies piece n
    if n == m then return front
    let exit ← addPlain
    let prev ← layOptional piece front.stop (m - n)
    link prev
    return ⟨front.start, exit⟩

mutual
/-- Lays out a pattern; `reverse` reads it back to front and leaves out the groups. -/
def layHir (reverse : Bool) : Hir → LayoutM Ends
  | .empty => singleState
  | .literal bs => do
    match (if reverse then bs.reverse else bs) with
    | [] => singleState
    | _ :: rest =>
      let first ← singleState
      rest.foldlM (fun acc _ => do follow acc (← singleState)) first
  | .cls c => classPiece reverse c
  | .look _ => singleState
  | .repetition min max _ sub =>
    layRepetition (layHir reverse sub) (0 < sub.minLen.getD 0) min max
  | .capture _ _ sub => do
    if reverse then layHir reverse sub
    else
      let first ← addPlain
      let inner ← layHir reverse sub
      let last ← addPlain
      link first
      link inner.stop
      return ⟨first, last⟩
  | .concat subs => do
    if reverse then
      match ← layConcatBack reverse subs with
      | some p => return p
      | none => singleState
    else layConcat reverse subs
  | .alternation subs => layAlternation reverse subs

/-- Lays out the branches of an alternation: a failing state for none, the branch itself for
one, and otherwise a union of them after the first two. -/
def layAlternation (reverse : Bool) : List Hir → LayoutM Ends
  | [] => singleState
  | h :: rest => do
    let first ← layHir reverse h
    layAlternationAfter reverse first rest

/-- Lays out the branches after the first. -/
def layAlternationAfter (reverse : Bool) (first : Ends) : List Hir → LayoutM Ends
  | [] => pure first
  | h :: rest => do
    let second ← layHir reverse h
    let union ← addUnion
    let stop ← addPlain
    link union
    link first.stop
    link union
    link second.stop
    layBranches reverse union rest
    return ⟨union, stop⟩

/-- Lays out the parts of a concatenation in the given order, each linked after the one
before. -/
def layConcat (reverse : Bool) : List Hir → LayoutM Ends
  | [] => singleState
  | h :: rest => do
    let first ← layHir reverse h
    layConcatAfter reverse first rest

/-- Lays out the parts of a concatenation back to front, each linked after the one laid out
before it; nothing for no parts. -/
def layConcatBack (reverse : Bool) : List Hir → LayoutM (Option Ends)
  | [] => pure none
  | h :: rest => do
    let later ← layConcatBack reverse rest
    let p ← layHir reverse h
    match later with
    | none => return some p
    | some acc => return some (← follow acc p)

/-- Lays out parts after a piece, each linked after the one before. -/
def layConcatAfter (reverse : Bool) (acc : Ends) : List Hir → LayoutM Ends
  | [] => pure acc
  | h :: rest => do
    let next ← layHir reverse h
    layConcatAfter reverse (← follow acc next) rest

/-- Lays out the branches after the second, each a way of the union and linked to its end. -/
def layBranches (reverse : Bool) (union : Nat) : List Hir → LayoutM Unit
  | [] => pure ()
  | h :: rest => do
    let p ← layHir reverse h
    link union
    link p.stop
    layBranches reverse union rest

end

/-- Lays out a whole automaton: the leading lazy any-byte loop unless `anchored`, the pattern
(as group 0 when forward), and the accepting state. -/
def layAutomaton (reverse anchored : Bool) (h : Hir) : LayoutM Unit := do
  let loop ← if anchored then singleState
    else layRepetition (classPiece reverse (.bytes (CodeSet.range 0 255))) true 0 none
  let body ← layHir reverse (if reverse then h else .capture 0 none h)
  discard addPlain
  link body.stop
  link loop.stop

/-- Whether an automaton laid out this way stays within the limit. -/
def fitsLimit (reverse anchored : Bool) (h : Hir) : Bool :=
  match (layAutomaton reverse anchored h).run {} with
  | .ok _ => true
  | .error _ => false

/-- Whether both automata of a pattern stay within the limit. -/
def withinSizeLimit (h : Hir) : Bool :=
  fitsLimit false (h.leadsWith .start) h && fitsLimit true (h.endsWith .finish) h

end DataQuality.Pattern
