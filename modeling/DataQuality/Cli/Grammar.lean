/-!
# The command-line grammar

The commands of `dataproof`, the options each one takes, and the texts made from them: usage
lines and help pages.

An option has a long name, perhaps a one-letter name, and an action: it takes a value (read
as a path, an integer, a count or a tag, once or repeatedly), it is a switch, or it asks for
help or the version.  Every command knows `--config` and `--help`; the program itself also
knows `--version`.

Help lists commands and options in display order.  Each option has a display rank, the rank
of its place among the options and commands of its command; the settings option keeps its
rank 0 in every command.  Options of equal rank go in order of key: the lower-cased short name
followed by `0` for a lower-case and `1` for an upper-case letter, else the long name.  The
built-in help and version options rank after all others.

An option's help stands beside it, aligned two spaces after the longest option, unless some
option's help would run past a width of 100 while the options take more than 40 percent of
it; then every help goes on the line below, indented by 10.
-/

namespace DataQuality.Cli

/-- How the value of an option is read. -/
inductive ValueKind where
  /-- A path: any text but the empty one. -/
  | path
  /-- A signed 64-bit integer. -/
  | integer
  /-- An unsigned 64-bit count. -/
  | count
  /-- A tag `KEY=VALUE`. -/
  | tag
  deriving BEq, Inhabited

/-- What an option does. -/
inductive Action where
  /-- Takes a value with a name, read as `kind`; repeatable or given at most once. -/
  | value (name : String) (kind : ValueKind) (repeats : Bool)
  /-- A switch, given at most once. -/
  | switch
  /-- Prints the help of the command. -/
  | help
  /-- Prints the version of the program. -/
  | version
  deriving BEq, Inhabited

/-- An option of a command. -/
structure OptionSpec where
  long : String
  short : Option Char
  action : Action
  required : Bool
  help : String
  rank : Nat
  deriving Inhabited

/-- A command: its name as usage writes it (with the program's name), what it does, its
options in order of definition, and its subcommands with what each does and its rank. -/
structure CommandSpec where
  name : String
  about : String
  options : List OptionSpec
  subcommands : List (String × String × Nat)
  deriving Inhabited

namespace OptionSpec

/-- Whether an option takes a value. -/
def takesValue (o : OptionSpec) : Bool :=
  match o.action with
  | .value .. => true
  | _ => false

/-- Whether an option may be given more than once. -/
def repeats (o : OptionSpec) : Bool :=
  match o.action with
  | .value _ _ r => r
  | _ => false

/-- An option as usage and errors write it: `--name <VALUE>` or `--name`. -/
def display (o : OptionSpec) : String :=
  match o.action with
  | .value name _ _ => "--" ++ o.long ++ " <" ++ name ++ ">"
  | _ => "--" ++ o.long

/-- The key that orders options of equal rank. -/
def sortKey (o : OptionSpec) : String :=
  match o.short with
  | some c => c.toLower.toString ++ (if c.isLower then "0" else "1")
  | none => o.long

/-- Whether an option comes before another in help. -/
def before (a b : OptionSpec) : Bool :=
  a.rank < b.rank || (a.rank == b.rank && a.sortKey ≤ b.sortKey)

end OptionSpec

/-- The rank of the options and commands that help lists last. -/
def lastRank : Nat := 999

/-- The settings option, known to every command. -/
def configOption : OptionSpec :=
  ⟨"config", none, .value "CONFIG" .path false, false,
    "Settings file; created with defaults when missing", 0⟩

/-- The help option, known to every command. -/
def helpOption : OptionSpec := ⟨"help", some 'h', .help, false, "Print help", lastRank⟩

/-- The version option of the program. -/
def versionOption : OptionSpec := ⟨"version", some 'V', .version, false, "Print version", lastRank⟩

/-- An option taking one value. -/
def valued (long name : String) (kind : ValueKind) (help : String) (rank : Nat) : OptionSpec :=
  ⟨long, none, .value name kind false, false, help, rank⟩

/-- A switch. -/
def switchOption (long help : String) (rank : Nat) : OptionSpec :=
  ⟨long, none, .switch, false, help, rank⟩

/-- The name of the program. -/
def programName : String := "dataproof"

/-- The version line of the program. -/
def versionText : String := programName ++ " 0.1.0\n"

/-- The `verify` command. -/
def verifyCommand : CommandSpec where
  name := programName ++ " verify"
  about := "Verify a CSV dataset against a suite of checks"
  options :=
    [⟨"data", none, .value "DATA" .path false, true, "CSV file with a header row", 0⟩,
     ⟨"suite", none, .value "SUITE" .path false, true, "Suite file (.toml or .json)", 1⟩,
     valued "schema" "SCHEMA" .path "Optional JSON schema for the CSV; types are inferred otherwise" 2,
     valued "run-dir" "RUN_DIR" .path "Output directory for runs" 3,
     valued "partitions" "PARTITIONS" .count "Number of partitions to scan in parallel" 4,
     valued "repository" "REPOSITORY" .path "Metrics repository directory" 5,
     valued "dataset-date" "DATASET_DATE" .integer
       "Dataset date of this run, milliseconds since the epoch" 6,
     ⟨"tag", none, .value "TAGS" .tag true, false, "Tag of this run, as KEY=VALUE", 7⟩,
     ⟨"aggregate-date", none, .value "AGGREGATE_DATES" .integer true, false,
       "Aggregate with states stored for these dataset dates (same tags)", 8⟩,
     switchOption "save-states" "Save the final states under this run's key" 9,
     switchOption "save-results" "Save or append metrics under this run's key" 10,
     switchOption "reuse-results" "Reuse metrics already stored under this run's key" 11,
     switchOption "strict" "Exit with an error when the overall status is Error" 12,
     configOption, helpOption]
  subcommands := []

/-- The `history` command. -/
def historyCommand : CommandSpec where
  name := programName ++ " history"
  about := "Print stored repository entries as JSON"
  options :=
    [valued "repository" "REPOSITORY" .path "Metrics repository directory" 0,
     valued "after" "AFTER" .integer "Earliest dataset date, inclusive" 1,
     valued "before" "BEFORE" .integer "Latest dataset date, inclusive" 2,
     ⟨"tag", none, .value "TAGS" .tag true, false, "Required tag, as KEY=VALUE", 3⟩,
     configOption, helpOption]
  subcommands := []

/-- The `suite-schema` command. -/
def suiteSchemaCommand : CommandSpec where
  name := programName ++ " suite-schema"
  about := "Print the JSON Schema of suite files"
  options := [configOption, helpOption]
  subcommands := []

/-- The help line of the `help` command. -/
def helpCommandAbout : String := "Print this message or the help of the given subcommand(s)"

/-- The program with its commands. -/
def programCommand : CommandSpec where
  name := programName
  about := "Data quality verification"
  options := [configOption, helpOption, versionOption]
  subcommands :=
    [("verify", verifyCommand.about, 1), ("history", historyCommand.about, 2),
     ("suite-schema", suiteSchemaCommand.about, 3), ("help", helpCommandAbout, lastRank)]

/-- A command of the program by name; `help` stands for itself. -/
def commandNamed? : String → Option CommandSpec
  | "verify" => some verifyCommand
  | "history" => some historyCommand
  | "suite-schema" => some suiteSchemaCommand
  | _ => none

/-- Spaces. -/
def spaces (n : Nat) : String := String.ofList (List.replicate n ' ')

namespace CommandSpec

/-- The option of a command with a long name. -/
def findLong? (c : CommandSpec) (long : String) : Option OptionSpec :=
  c.options.find? (·.long == long)

/-- The option of a command with a short name. -/
def findShort? (c : CommandSpec) (short : Char) : Option OptionSpec :=
  c.options.find? (·.short == some short)

/-- The required options of a command. -/
def required (c : CommandSpec) : List OptionSpec := c.options.filter (·.required)

/-- The names of the subcommands, in order of definition. -/
def subcommandNames (c : CommandSpec) : List String := c.subcommands.map (·.1)

/-- Whether usage mentions `[OPTIONS]`: some option is neither required nor built in. -/
def hasOptionalOptions (c : CommandSpec) : Bool :=
  c.options.any fun o => !o.required && o.long != "help" && o.long != "version"

/-- The placeholder of the subcommand, when the command has subcommands. -/
def commandPlaceholder (c : CommandSpec) : String :=
  if c.subcommands.isEmpty then "" else " <COMMAND>"

/-- The usage line of help: the name, `[OPTIONS]`, the required options and the
subcommand placeholder. -/
def helpUsage (c : CommandSpec) : String :=
  c.name ++ (if c.hasOptionalOptions then " [OPTIONS]" else "") ++
    String.join (c.required.map (" " ++ ·.display)) ++ c.commandPlaceholder

/-- The usage line that names options given: the required options, then the given ones, each
once. -/
def givenUsage (c : CommandSpec) (given : List String) : String :=
  let named := c.required.map (·.long) ++ given
  let distinct := named.foldl (fun acc n => if acc.contains n then acc else acc ++ [n]) []
  c.name ++ String.join (distinct.filterMap fun n => (c.findLong? n).map (" " ++ ·.display)) ++
    c.commandPlaceholder

/-- The usage line of an error: the help usage when no option was given, else the usage
naming the given ones. -/
def usageFor (c : CommandSpec) (given : List String) : String :=
  if given.isEmpty then c.helpUsage else c.givenUsage given

/-- The options in the order help lists them. -/
def sortedOptions (c : CommandSpec) : List OptionSpec :=
  c.options.mergeSort OptionSpec.before

/-- The options section of help. -/
def optionLines (c : CommandSpec) : List String :=
  let options := c.sortedOptions
  let longest := options.foldl (fun m o => max m o.display.length) 2
  let taken := longest + 8
  let nextLine := taken ≤ 100 && taken > 40 &&
    options.any fun o => o.help.length > 100 - taken
  options.map fun o =>
    let short := match o.short with
      | some s => "-" ++ s.toString ++ ", "
      | none => "    "
    if nextLine then "  " ++ short ++ o.display ++ "\n" ++ spaces 10 ++ o.help
    else "  " ++ short ++ o.display ++ spaces (longest + 2 - o.display.length) ++ o.help

/-- The commands section of help. -/
def commandLines (c : CommandSpec) : List String :=
  let sorted := c.subcommands.mergeSort fun (a, _, r) (b, _, s) => r < s || (r == s && a ≤ b)
  let longest := sorted.foldl (fun m (n, _, _) => max m n.length) 2
  sorted.map fun (n, about, _) => "  " ++ n ++ spaces (longest + 2 - n.length) ++ about

/-- The help page of a command. -/
def helpText (c : CommandSpec) : String :=
  let commands := if c.subcommands.isEmpty then [] else ["Commands:\n" ++ "\n".intercalate c.commandLines]
  let sections := commands ++ ["Options:\n" ++ "\n".intercalate c.optionLines]
  c.about ++ "\n\nUsage: " ++ c.helpUsage ++ "\n\n" ++ "\n\n".intercalate sections ++ "\n"

end CommandSpec

/-- The help page of the `help` command. -/
def helpCommandText : String :=
  helpCommandAbout ++ "\n\nUsage: " ++ programName ++ " help [COMMAND]...\n\nArguments:\n" ++
    "  [COMMAND]...  Print help for the subcommand(s)\n"

end DataQuality.Cli
