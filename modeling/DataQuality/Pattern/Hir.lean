import DataQuality.Unicode.CodeSet

/-!
# Regular expressions: meaning

The meaning of a pattern, with the syntax gone: literal byte strings, classes of characters or
bytes, zero-width assertions, repetitions, captures, concatenations and alternations.  Flags
have been applied and escapes resolved.

The constructors simplify as they build, and the compiled size of a pattern depends on the
simplified form:

* a concatenation drops empty parts, flattens nested concatenations and joins adjacent literals;
* an alternation flattens nested alternations, becomes one class when every branch is a single
  character or a class, and pulls a prefix shared by all branches out in front;
* a class of one character is that character's literal, and an empty class never matches;
* a repetition of something that only matches the empty text repeats at most once, `{0}` is the
  empty pattern and `{1}` the thing itself.
-/

namespace DataQuality.Pattern

open DataQuality.Unicode

/-- The zero-width assertions, resolved against the flags. -/
inductive Look where
  /-- The start of the text. -/
  | start
  /-- The end of the text. -/
  | finish
  /-- The start of a line, lines ending at line feeds. -/
  | startLF
  /-- The end of a line, lines ending at line feeds. -/
  | endLF
  /-- The start of a line, lines ending at line feeds or carriage returns. -/
  | startCRLF
  /-- The end of a line, lines ending at line feeds or carriage returns. -/
  | endCRLF
  | wordAscii
  | wordAsciiNegate
  | wordUnicode
  | wordUnicodeNegate
  | wordStartAscii
  | wordEndAscii
  | wordStartUnicode
  | wordEndUnicode
  | wordStartHalfAscii
  | wordEndHalfAscii
  | wordStartHalfUnicode
  | wordEndHalfUnicode
  deriving Repr, BEq, Inhabited

/-- A class: of Unicode characters, or of bytes (where Unicode is switched off). -/
inductive Class where
  | unicode (s : CodeSet)
  | bytes (s : CodeSet)
  deriving BEq, Inhabited

/-- The number of bytes of a code point in UTF-8. -/
def utf8Length (n : Nat) : Nat :=
  if n < 0x80 then 1 else if n < 0x800 then 2 else if n < 0x10000 then 3 else 4

/-- The UTF-8 bytes of a code point. -/
def utf8Bytes (n : Nat) : List Nat :=
  if n < 0x80 then [n]
  else if n < 0x800 then [0xC0 + n / 64, 0x80 + n % 64]
  else if n < 0x10000 then [0xE0 + n / 4096, 0x80 + n / 64 % 64, 0x80 + n % 64]
  else [0xF0 + n / 262144, 0x80 + n / 4096 % 64, 0x80 + n / 64 % 64, 0x80 + n % 64]

namespace Class

/-- The set of a class. -/
def set : Class → CodeSet
  | .unicode s => s
  | .bytes s => s

/-- Whether a class is empty. -/
def isEmpty (c : Class) : Bool := c.set.isEmpty

/-- The literal of a class that holds one character or byte. -/
def literal? : Class → Option (List Nat)
  | .unicode s => match s.ranges.toList with
    | [(lo, hi)] => if lo == hi then some (utf8Bytes lo) else none
    | _ => none
  | .bytes s => match s.ranges.toList with
    | [(lo, hi)] => if lo == hi then some [lo] else none
    | _ => none

/-- The fewest bytes a match of a class takes, if it can match. -/
def minLen : Class → Option Nat
  | .unicode s => s.ranges[0]?.map fun r => utf8Length r.1
  | .bytes s => if s.isEmpty then none else some 1

/-- The most bytes a match of a class takes, if it can match. -/
def maxLen : Class → Option Nat
  | .unicode s => s.ranges.back?.map fun r => utf8Length r.2
  | .bytes s => if s.isEmpty then none else some 1

end Class

/-- The meaning of a pattern. -/
inductive Hir where
  | empty
  /-- A string of bytes, the UTF-8 encoding of characters. -/
  | literal (bytes : List Nat)
  | cls (c : Class)
  | look (l : Look)
  /-- `min` to `max` rounds (no bound when `none`), greedy or lazy. -/
  | repetition (min : Nat) (max : Option Nat) (greedy : Bool) (sub : Hir)
  | capture (index : Nat) (name : Option String) (sub : Hir)
  | concat (subs : List Hir)
  | alternation (subs : List Hir)
  deriving BEq, Inhabited

namespace Hir

/-- The pattern that never matches: the empty class. -/
def fail : Hir := .cls (.bytes CodeSet.empty)

/-- The sum of some lengths, if all are known. -/
def sumLens : List (Option Nat) → Option Nat
  | [] => some 0
  | x :: rest => match x, sumLens rest with
    | some a, some b => some (a + b)
    | _, _ => none

/-- The least of some lengths, if all are known. -/
def minLens : List (Option Nat) → Option Nat
  | [] => none
  | [x] => x
  | x :: rest => match x, minLens rest with
    | some a, some b => some (Nat.min a b)
    | _, _ => none

/-- The greatest of some lengths, if all are known. -/
def maxLens : List (Option Nat) → Option Nat
  | [] => none
  | [x] => x
  | x :: rest => match x, maxLens rest with
    | some a, some b => some (Nat.max a b)
    | _, _ => none

mutual
/-- The fewest bytes a match takes, if the pattern can match. -/
def minLen : Hir → Option Nat
  | .empty => some 0
  | .literal bs => some bs.length
  | .cls c => c.minLen
  | .look _ => some 0
  | .repetition min _ _ sub => sub.minLen.map (· * min)
  | .capture _ _ sub => sub.minLen
  | .concat subs => sumLens (minLenList subs)
  | .alternation subs => minLens (minLenList subs)

/-- The fewest bytes of each of some patterns. -/
def minLenList : List Hir → List (Option Nat)
  | [] => []
  | h :: rest => h.minLen :: minLenList rest
end

mutual
/-- The most bytes a match takes, if that is bounded. -/
def maxLen : Hir → Option Nat
  | .empty => some 0
  | .literal bs => some bs.length
  | .cls c => c.maxLen
  | .look _ => some 0
  | .repetition _ max _ sub => max.bind fun m => sub.maxLen.map (· * m)
  | .capture _ _ sub => sub.maxLen
  | .concat subs => sumLens (maxLenList subs)
  | .alternation subs => maxLens (maxLenList subs)

/-- The most bytes of each of some patterns. -/
def maxLenList : List Hir → List (Option Nat)
  | [] => []
  | h :: rest => h.maxLen :: maxLenList rest
end

mutual
/-- Whether every match must start with the assertion `l`, before any byte. -/
def leadsWith (l : Look) : Hir → Bool
  | .look k => k == l
  | .repetition min _ _ sub => min > 0 && sub.leadsWith l
  | .capture _ _ sub => sub.leadsWith l
  | .concat subs => leadsWithList l subs
  | .alternation subs => allLeadWith l subs
  | _ => false

/-- Whether a concatenation leads with `l`: one of its parts does before the first part that can
take a byte. -/
def leadsWithList (l : Look) : List Hir → Bool
  | [] => false
  | h :: rest => h.leadsWith l || (h.maxLen == some 0 && leadsWithList l rest)

/-- Whether every branch of an alternation leads with `l`. -/
def allLeadWith (l : Look) : List Hir → Bool
  | [] => false
  | [h] => h.leadsWith l
  | h :: rest => h.leadsWith l && allLeadWith l rest
end

mutual
/-- Whether every match must end with the assertion `l`, after every byte. -/
def endsWith (l : Look) : Hir → Bool
  | .look k => k == l
  | .repetition min _ _ sub => min > 0 && sub.endsWith l
  | .capture _ _ sub => sub.endsWith l
  | .concat subs => endsWithList l subs
  | .alternation subs => allEndWith l subs
  | _ => false

/-- Whether a concatenation ends with `l`: one of its parts does after the last part that can
take a byte. -/
def endsWithList (l : Look) : List Hir → Bool
  | [] => false
  | h :: rest => endsWithList l rest || (rest.all (·.maxLen == some 0) && h.endsWith l)

/-- Whether every branch of an alternation ends with `l`. -/
def allEndWith (l : Look) : List Hir → Bool
  | [] => false
  | [h] => h.endsWith l
  | h :: rest => h.endsWith l && allEndWith l rest
end

/-- A literal; the empty string is the empty pattern. -/
def mkLiteral (bs : List Nat) : Hir :=
  if bs.isEmpty then .empty else .literal bs

/-- A class; an empty one never matches and one of a single character is its literal. -/
def mkClass (c : Class) : Hir :=
  if c.isEmpty then fail
  else match c.literal? with
    | some bs => mkLiteral bs
    | none => .cls c

/-- A repetition, simplified. -/
def mkRepetition (min : Nat) (max : Option Nat) (greedy : Bool) (sub : Hir) : Hir :=
  let (min, max) :=
    if sub.maxLen == some 0 then (Nat.min min 1, some ((max.map (Nat.min · 1)).getD 1))
    else (min, max)
  if min == 0 && max == some 0 then .empty
  else if min == 1 && max == some 1 then sub
  else .repetition min max greedy sub

/-- The parts of a concatenation whose nested concatenations are already flattened, empty
parts dropped and adjacent literals joined; `pending` is the literal being joined. -/
def joinLiterals (pending : List Nat) : List Hir → List Hir
  | [] => if pending.isEmpty then [] else [.literal pending]
  | .literal bs :: rest => joinLiterals (pending ++ bs) rest
  | .empty :: rest => joinLiterals pending rest
  | h :: rest =>
    if pending.isEmpty then h :: joinLiterals [] rest
    else .literal pending :: h :: joinLiterals [] rest

/-- The parts of a concatenation: the parts of nested concatenations take their place (one
level suffices, as every concatenation is built flat), then literals are joined. -/
def concatParts (subs : List Hir) : List Hir :=
  joinLiterals [] (subs.flatMap fun h => match h with
    | .concat xs => xs
    | h => [h])

/-- A concatenation, simplified. -/
def mkConcat (subs : List Hir) : Hir :=
  match concatParts subs with
  | [] => .empty
  | [h] => h
  | parts => .concat parts

/-- The characters of branches that are each a single character's literal. -/
def singletonChars : List Hir → Option (List Nat)
  | [] => some []
  | .literal bs :: rest =>
    match bs with
    | [b] => if b < 0x80 then (singletonChars rest).map (b :: ·) else none
    | _ =>
      let decoded := utf8Decode bs
      match decoded with
      | some c => (singletonChars rest).map (c :: ·)
      | none => none
  | _ => none
where
  /-- The code point of the UTF-8 encoding of exactly one character. -/
  utf8Decode (bs : List Nat) : Option Nat :=
    match bs with
    | [a, b] =>
      let n := (a - 0xC0) * 64 + (b - 0x80)
      if 0xC2 ≤ a && a < 0xE0 && utf8Bytes n == bs then some n else none
    | [a, b, c] =>
      let n := (a - 0xE0) * 4096 + (b - 0x80) * 64 + (c - 0x80)
      if 0xE0 ≤ a && a < 0xF0 && utf8Bytes n == bs && !(0xD800 ≤ n && n ≤ 0xDFFF) then some n
      else none
    | [a, b, c, d] =>
      let n := (a - 0xF0) * 262144 + (b - 0x80) * 4096 + (c - 0x80) * 64 + (d - 0x80)
      if 0xF0 ≤ a && a < 0xF5 && utf8Bytes n == bs && n < 0x110000 then some n else none
    | _ => none

/-- The bytes of branches that are each a one-byte literal. -/
def singletonBytes : List Hir → Option (List Nat)
  | [] => some []
  | .literal [b] :: rest => (singletonBytes rest).map (b :: ·)
  | _ => none

/-- The union of branches that are all classes, as a Unicode class; byte classes take part only
when they are ASCII. -/
def classChars : List Hir → Option CodeSet
  | [] => some CodeSet.empty
  | .cls (.unicode s) :: rest => (classChars rest).map s.union
  | .cls (.bytes s) :: rest => if s.isAscii then (classChars rest).map s.union else none
  | _ => none

/-- The union of branches that are all classes, as a byte class; Unicode classes take part only
when they are ASCII. -/
def classBytes : List Hir → Option CodeSet
  | [] => some CodeSet.empty
  | .cls (.bytes s) :: rest => (classBytes rest).map s.union
  | .cls (.unicode s) :: rest => if s.isAscii then (classBytes rest).map s.union else none
  | _ => none

/-- The parts of the branches of an alternation, nested alternations flattened. -/
def alternationParts : List Hir → List Hir
  | [] => []
  | .alternation subs :: rest => subs ++ alternationParts rest
  | h :: rest => h :: alternationParts rest

/-- The longest common prefix of two lists of parts. -/
def commonPrefix : List Hir → List Hir → List Hir
  | a :: as, b :: bs => if a == b then a :: commonPrefix as bs else []
  | _, _ => []

/-- The parts of branches that are all concatenations. -/
def concatBranches : List Hir → Option (List (List Hir))
  | [] => some []
  | .concat xs :: rest => (concatBranches rest).map (xs :: ·)
  | _ => none

end Hir

/-- An alternation, simplified. -/
def Hir.mkAlternation (subs : List Hir) : Hir :=
  let parts := Hir.alternationParts subs
  match parts with
  | [] => Hir.fail
  | [h] => h
  | _ =>
    match Hir.singletonChars parts with
    | some cs => Hir.mkClass (.unicode (CodeSet.ofRanges (cs.map fun c => (c, c))))
    | none =>
    match Hir.singletonBytes parts with
    | some bs => Hir.mkClass (.bytes (CodeSet.ofRanges (bs.map fun b => (b, b))))
    | none =>
    match Hir.classChars parts with
    | some s => Hir.mkClass (.unicode s)
    | none =>
    match Hir.classBytes parts with
    | some s => Hir.mkClass (.bytes s)
    | none =>
    match Hir.concatBranches parts with
    | some (first :: rest) =>
      let shared := rest.foldl Hir.commonPrefix first
      if shared.isEmpty then .alternation parts
      else
        let suffixes := (first :: rest).map fun xs => Hir.mkConcat (xs.drop shared.length)
        Hir.mkConcat (shared ++ [mkAlternationFlat suffixes])
    | _ => .alternation parts
where
  /-- The alternation of the suffixes left after a shared prefix, simplified once more; their
  first parts differ, so no prefix is shared again. -/
  mkAlternationFlat (suffixes : List Hir) : Hir :=
    let parts := Hir.alternationParts suffixes
    match parts with
    | [] => Hir.fail
    | [h] => h
    | _ =>
      match Hir.singletonChars parts with
      | some cs => Hir.mkClass (.unicode (CodeSet.ofRanges (cs.map fun c => (c, c))))
      | none =>
      match Hir.singletonBytes parts with
      | some bs => Hir.mkClass (.bytes (CodeSet.ofRanges (bs.map fun b => (b, b))))
      | none =>
      match Hir.classChars parts with
      | some s => Hir.mkClass (.unicode s)
      | none =>
      match Hir.classBytes parts with
      | some s => Hir.mkClass (.bytes s)
      | none => .alternation parts

end DataQuality.Pattern
