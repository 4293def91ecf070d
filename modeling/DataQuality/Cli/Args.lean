import DataQuality.Cli.Grammar
import DataQuality.Text.Blank
import DataQuality.Text.Similarity
import DataQuality.Decimal.Read

/-!
# Reading a command line

`parseArgs` reads the words of a command line, without the program's name, into what to run,
or into a text to print: a help page or the version on standard output (exit code 0), or a
usage error on standard error (exit code 2).

Words are read from left to right.  The program's own options come first, up to the name of a
command; the rest belong to the command.  An option takes its value from `--name=value` or
from the next word, unless that word looks like an option.  An option that takes one value,
and a switch, may be given once; `--tag` and `--aggregate-date` repeat.  The first problem met
stops reading: an unknown option, a missing or malformed value, a repeated option, a stray
word.  After the last word, a missing value, a missing command, and then missing required
options are reported.  A bare command line prints the program's help as an error.

A usage error reads `error: <what>`, then tips, then a usage line, then a pointer to
`--help`.  An unknown name that is similar enough to a known one (`Text.similarNames`) earns a
tip naming the most similar.  The usage line of an error names the options already given when
there are any, else it is the usage line of help.
-/

namespace DataQuality.Cli

/-- The options of `verify`. -/
structure VerifyArgs where
  data : String
  suite : String
  schema : Option String
  runDir : Option String
  partitions : Option Nat
  repository : Option String
  datasetDate : Option Int
  tags : List (String × String)
  aggregateDates : List Int
  saveStates : Bool
  saveResults : Bool
  reuseResults : Bool
  strict : Bool
  deriving Inhabited

/-- The options of `history`. -/
structure HistoryArgs where
  repository : Option String
  after : Option Int
  before : Option Int
  tags : List (String × String)
  deriving Inhabited

/-- A command to run. -/
inductive Command where
  | verify (args : VerifyArgs)
  | history (args : HistoryArgs)
  | suiteSchema
  deriving Inhabited

/-- A command with the settings file to use, if one was named. -/
structure Invocation where
  config : Option String
  command : Command
  deriving Inhabited

/-- What a command line gives: an invocation, a text for standard output, or a usage error
for standard error. -/
inductive Reading where
  | run (i : Invocation)
  | display (text : String)
  | refuse (text : String)
  deriving Inhabited

/-- A value read for an option. -/
inductive Given where
  | switch
  | path (p : String)
  | integer (n : Int)
  | count (n : Nat)
  | tag (name value : String)
  deriving Inhabited

/-- The options given to one command, by long name in order of first mention, with their
values in order. -/
abbrev Matched := List (String × List Given)

/-- Whether an option was given. -/
def Matched.has (m : Matched) (long : String) : Bool := m.any (·.1 == long)

/-- Adds a value for an option. -/
def Matched.add (m : Matched) (long : String) (g : Given) : Matched :=
  if m.has long then m.map fun (n, gs) => if n == long then (n, gs ++ [g]) else (n, gs)
  else m ++ [(long, [g])]

/-- The values given for an option. -/
def Matched.values (m : Matched) (long : String) : List Given :=
  ((m.find? (·.1 == long)).map (·.2)).getD []

/-- The long names of the options given. -/
def Matched.names (m : Matched) : List String := m.map (·.1)

/-- A usage error: the message, tips, and a usage line if one is shown. -/
def refusal (message : String) (tips : List String) (usage : Option String) : Reading :=
  let tipText := if tips.isEmpty then "" else "\n" ++ String.join (tips.map ("\n  tip: " ++ ·))
  let usageText := (usage.map ("\n\nUsage: " ++ ·)).getD ""
  .refuse ("error: " ++ message ++ tipText ++ usageText ++ "\n\nFor more information, try '--help'.\n")

/-- A text in single quotes. -/
def quote (s : String) : String := "'" ++ s ++ "'"

/-- Why the value of an option was refused. -/
inductive ValueProblem where
  /-- The option has no value. -/
  | missing
  /-- The value does not read, with the reason. -/
  | invalid (reason : String)

/-- The digits of a number after an optional sign, or the reason there are none. -/
def digitsOf (signed : Bool) (cs : List Char) : Except String (Bool × List Char) :=
  let (negative, digits) := match cs with
    | '+' :: rest => (false, rest)
    | '-' :: rest => if signed then (true, rest) else (false, cs)
    | _ => (false, cs)
  if cs.isEmpty then .error "cannot parse integer from empty string"
  else if digits.isEmpty || !digits.all Char.isDigit then .error "invalid digit found in string"
  else .ok (negative, digits)

/-- Reads a decimal signed 64-bit integer, with an optional sign. -/
def readInteger (text : String) : Except String Int := do
  let (negative, digits) ← digitsOf true text.toList
  let magnitude : Int := Decimal.digitsValue digits
  let n := if negative then -magnitude else magnitude
  if n > Decimal.int64Max then throw "number too large to fit in target type"
  if n < Decimal.int64Min then throw "number too small to fit in target type"
  return n

/-- Reads a decimal unsigned 64-bit count, with an optional plus sign. -/
def readCount (text : String) : Except String Nat := do
  let (_, digits) ← digitsOf false text.toList
  let n := Decimal.digitsValue digits
  if n ≥ Nat.pow 2 64 then throw "number too large to fit in target type"
  return n

/-- Reads a tag: a name before the first `=` and a value after it, both trimmed; the name
must not be blank. -/
def readTag (raw : String) : Except String (String × String) :=
  match raw.splitOn "=" with
  | name :: value :: more =>
    if (Text.trim name).isEmpty then .error ("expected KEY=VALUE, got " ++ quote raw)
    else .ok (Text.trim name, Text.trim ("=".intercalate (value :: more)))
  | _ => .error ("expected KEY=VALUE, got " ++ quote raw)

/-- Reads the value of an option of some kind. -/
def readValue (kind : ValueKind) (raw : String) : Except ValueProblem Given :=
  let invalid := fun (r : Except String Given) => r.mapError ValueProblem.invalid
  match kind with
  | .path => if raw.isEmpty then .error .missing else .ok (.path raw)
  | .integer => invalid ((readInteger raw).map Given.integer)
  | .count => invalid ((readCount raw).map Given.count)
  | .tag => invalid ((readTag raw).map fun (n, v) => Given.tag n v)

/-- The error of an option given without a value. -/
def missingValue (o : OptionSpec) : Reading :=
  refusal ("a value is required for " ++ quote o.display ++ " but none was supplied") [] none

/-- The error of an option given twice. -/
def givenTwice (c : CommandSpec) (o : OptionSpec) : Reading :=
  refusal ("the argument " ++ quote o.display ++ " cannot be used multiple times") [] (some c.helpUsage)

/-- Records the value of an option, refusing a second value of an option given once. -/
def accept (c : CommandSpec) (matched : Matched) (o : OptionSpec) (raw : String) :
    Except Reading Matched :=
  match o.action with
  | .value _ kind repeats =>
    if !repeats && matched.has o.long then .error (givenTwice c o)
    else match readValue kind raw with
      | .ok g => .ok (matched.add o.long g)
      | .error .missing => .error (missingValue o)
      | .error (.invalid reason) =>
        .error (refusal ("invalid value " ++ quote raw ++ " for " ++ quote o.display ++ ": " ++ reason)
          [] none)
  | _ => .ok matched

/-- The error of an unknown long option, with a tip naming the most similar option of the
command, or else the most similar option of a command named later on the line. -/
def unknownLong (c : CommandSpec) (matched : Matched) (name : String) (later : List String) :
    Reading :=
  let message := "unexpected argument " ++ quote ("--" ++ name) ++ " found"
  match (Text.similarNames name (c.options.map (·.long))).getLast? with
  | some s =>
    let given := if matched.has s then matched.names else matched.names ++ [s]
    refusal message ["a similar argument exists: " ++ quote ("--" ++ s)] (some (c.usageFor given))
  | none =>
    let hits := c.subcommandNames.filterMap fun sub => do
      let sc ← commandNamed? sub
      let s ← (Text.similarNames name (sc.options.map (·.long))).getLast?
      let place ← later.idxOf? sub
      pure (place, sub ++ " --" ++ s)
    let best := hits.foldl (fun (acc : Option (Nat × String)) h => match acc with
      | some b => if h.1 < b.1 then some h else acc
      | none => some h) none
    let tips := (best.map fun (_, hint) => [quote hint ++ " exists"]).getD []
    refusal message tips (some (c.usageFor matched.names))

/-- The error of a word that is not an option where none is expected. -/
def strayWord (c : CommandSpec) (trailing : Bool) (word : String) : Reading :=
  if c.subcommands.isEmpty then
    refusal ("unexpected argument " ++ quote word ++ " found") [] (some c.helpUsage)
  else if trailing && c.subcommandNames.contains word then
    refusal "unexpected argument '--' found"
      ["subcommand " ++ quote word ++ " exists; to use it, remove the '--' before it"]
      (some c.helpUsage)
  else
    let tips := match Text.similarNames word c.subcommandNames with
      | [] => []
      | [s] => ["a similar subcommand exists: " ++ quote s]
      | many => ["some similar subcommands exist: " ++ ", ".intercalate (many.map quote)]
    refusal ("unrecognized subcommand " ++ quote word) tips (some c.helpUsage)

/-- The help page asked for by `help` followed by command names. -/
def helpFor (c : CommandSpec) : List String → Reading
  | [] => .display c.helpText
  | w :: rest =>
    if c.subcommandNames.contains w then
      if w == "help" then
        match rest with
        | [] => .display helpCommandText
        | v :: _ => refusal ("unrecognized subcommand " ++ quote v) []
            (some (programName ++ " help [COMMAND]..."))
      else match commandNamed? w with
        | some sc => helpFor sc rest
        | none => .display c.helpText
    else refusal ("unrecognized subcommand " ++ quote w) [] (some c.helpUsage)

/-- The name of a long option and its value, when written as `--name=value`. -/
def splitLong (body : String) : String × Option String :=
  match body.splitOn "=" with
  | name :: value :: more => (name, some ("=".intercalate (value :: more)))
  | _ => (body, none)

/-- The error of a value attached to a switch. -/
def switchWithValue (c : CommandSpec) (matched : Matched) (o : OptionSpec) (v : String) : Reading :=
  let optional := matched.names.filter fun n => !(c.required.any (·.long == n))
  refusal ("unexpected value " ++ quote v ++ " for " ++ quote o.display ++
    " found; no more were expected") [] (some (c.givenUsage (optional ++ [o.long])))

/-- Reads the words given to one command: the options given, and the name of a subcommand
with the words after it, when one is met.  `pending` is an option still waiting for its
value; `trailing` tells that `--` was met. -/
def readLevel (c : CommandSpec) (matched : Matched) (pending : Option OptionSpec) (trailing : Bool) :
    List String → Except Reading (Matched × Option (String × List String))
  | [] =>
    match pending with
    | some o => .error (missingValue o)
    | none => .ok (matched, none)
  | w :: rest =>
    if trailing then .error (strayWord c true w)
    else if pending.isNone && c.subcommandNames.contains w then
      if w == "help" then .error (helpFor c rest) else .ok (matched, some (w, rest))
    else if w == "--" then readLevel c matched pending true rest
    else if w.startsWith "--" then
      let (name, attached) := splitLong (w.drop 2).toString
      match c.findLong? name, pending with
      | none, _ => .error (unknownLong c matched name rest)
      | some _, some p => .error (missingValue p)
      | some o, none =>
        match o.action, attached with
        | .help, _ => .error (.display c.helpText)
        | .version, _ => .error (.display versionText)
        | .switch, some v => .error (switchWithValue c matched o v)
        | .switch, none =>
          if matched.has o.long then .error (givenTwice c o)
          else readLevel c (matched.add o.long .switch) none false rest
        | .value .., some v =>
          match accept c matched o v with
          | .ok matched => readLevel c matched none false rest
          | .error r => .error r
        | .value .., none => readLevel c matched (some o) false rest
    else if w.startsWith "-" && w.length > 1 then
      let flag := (w.toList.drop 1).headD '-'
      match c.findShort? flag, pending with
      | some _, some p => .error (missingValue p)
      | some o, none =>
        match o.action with
        | .version => .error (.display versionText)
        | _ => .error (.display c.helpText)
      | none, _ =>
        .error (refusal ("unexpected argument " ++ quote ("-" ++ flag.toString) ++ " found") []
          (some c.helpUsage))
    else
      match pending with
      | some o =>
        match accept c matched o w with
        | .ok matched => readLevel c matched none false rest
        | .error r => .error r
      | none => .error (strayWord c false w)

/-- The last path given for an option. -/
def Matched.path? (m : Matched) (long : String) : Option String :=
  (m.values long).reverse.findSome? fun g => match g with
    | .path p => some p
    | _ => none

/-- The integers given for an option, in order. -/
def Matched.integers (m : Matched) (long : String) : List Int :=
  (m.values long).filterMap fun g => match g with
    | .integer n => some n
    | _ => none

/-- The last count given for an option. -/
def Matched.count? (m : Matched) (long : String) : Option Nat :=
  (m.values long).reverse.findSome? fun g => match g with
    | .count n => some n
    | _ => none

/-- The tags given, in order. -/
def Matched.tags (m : Matched) : List (String × String) :=
  (m.values "tag").filterMap fun g => match g with
    | .tag n v => some (n, v)
    | _ => none

/-- The command named `name` with the options given to it. -/
def commandOf (name : String) (m : Matched) : Command :=
  match name with
  | "verify" => .verify
      ⟨(m.path? "data").getD "", (m.path? "suite").getD "", m.path? "schema", m.path? "run-dir",
        m.count? "partitions", m.path? "repository", (m.integers "dataset-date").getLast?,
        m.tags, m.integers "aggregate-date", m.has "save-states", m.has "save-results",
        m.has "reuse-results", m.has "strict"⟩
  | "history" => .history
      ⟨m.path? "repository", (m.integers "after").getLast?, (m.integers "before").getLast?, m.tags⟩
  | _ => .suiteSchema

/-- Reads a command line, without the program's name. -/
def parseArgs (words : List String) : Reading :=
  match readLevel programCommand [] none false words with
  | .error r => r
  | .ok (root, none) =>
    if root.isEmpty then .refuse programCommand.helpText
    else refusal ("'" ++ programName ++ "' requires a subcommand but one was not provided\n  [subcommands: " ++
      ", ".intercalate programCommand.subcommandNames ++ "]") [] (some programCommand.helpUsage)
  | .ok (root, some (name, rest)) =>
    match commandNamed? name with
    | none => .refuse programCommand.helpText
    | some sc =>
      match readLevel sc [] none false rest with
      | .error r => r
      | .ok (matched, _) =>
        let missing := sc.required.filter fun o => !matched.has o.long
        if !missing.isEmpty then
          refusal ("the following required arguments were not provided:" ++
              String.join (missing.map fun o => "\n  " ++ o.display)) []
            (some (sc.givenUsage (matched.names ++ missing.map (·.long))))
        else
          let config := (matched.path? "config").orElse fun _ => root.path? "config"
          .run ⟨config, commandOf name matched⟩

end DataQuality.Cli
