import CommandDocs.CommandLine.Options
import CommandDocs.Corpus.Collection
import CommandDocs.Record.Merge

/-!
# Commands

The three commands of the program and the arguments they take.
-/

namespace CommandDocs

/-- The arguments of a generation run. -/
structure GenerateArguments where
  /-- The baseline. -/
  baseline : OptionValue
  /-- The directory of pages. -/
  pages : OptionValue
  /-- The corpus to write. -/
  output : OptionValue
  /-- The suffix of pages. -/
  suffix : OptionValue
  /-- How placeholders begin. -/
  placeholder : Text
  /-- The log file. -/
  log : Option OptionValue
  /-- Show the course of the run. -/
  verbose : Bool
  deriving DecidableEq

/-- The arguments that say where an index reads its records. -/
structure IndexArguments where
  /-- The command data. -/
  data : OptionValue
  /-- The baseline to turn to. -/
  baseline : Option OptionValue
  /-- Show the course of the run. -/
  verbose : Bool
  deriving DecidableEq

/-- A command with its arguments. -/
inductive Command where
  /-- Merge pages into a baseline. -/
  | generate (arguments : GenerateArguments)
  /-- Show the hover text of a name. -/
  | show (name : Text) (source : IndexArguments)
  /-- List the offers for a word. -/
  | complete (word : Text) (source : IndexArguments)
  deriving DecidableEq

namespace Command

/-- The grammar of a generation run. -/
def generateGrammar : Grammar :=
  { valued := ["--baseline", "--docs", "--output", "--suffix", "--placeholder-prefix", "--log"]
    flags := ["--verbose"]
    required := ["--baseline", "--docs", "--output"] }

/-- The grammar of a question to an index. -/
def indexGrammar (positional : Arity) : Grammar :=
  { valued := ["--data", "--baseline"]
    flags := ["--verbose"]
    required := ["--data"]
    positional }

/-- The value of an option, or else the given text. -/
def valueOr (given : Given) (option otherwise : Text) : OptionValue :=
  (given.value? option).getD (.text otherwise)

/-- The arguments of a generation run. -/
def generateArguments (given : Given) : GenerateArguments :=
  { baseline := valueOr given "--baseline" []
    pages := valueOr given "--docs" []
    output := valueOr given "--output" []
    suffix := valueOr given "--suffix" defaultSuffix
    placeholder := (valueOr given "--placeholder-prefix" defaultPlaceholder).shown
    log := given.value? "--log"
    verbose := given.hasFlag "--verbose" }

/-- The arguments of a question to an index. -/
def indexArguments (given : Given) : IndexArguments :=
  { data := valueOr given "--data" []
    baseline := given.value? "--baseline"
    verbose := given.hasFlag "--verbose" }

/-- A command by its name: its grammar, and the command that arguments make. -/
def named? (name : Text) : Option (Grammar × (Given → Command)) :=
  if name = ("generate" : Text) then
    some (generateGrammar, fun given => .generate (generateArguments given))
  else if name = ("show" : Text) then
    some (indexGrammar .required, fun given =>
      .show (given.positional.getD []) (indexArguments given))
  else if name = ("complete" : Text) then
    some (indexGrammar .optional, fun given =>
      .complete (given.positional.getD []) (indexArguments given))
  else none

/-- The arguments of a command that name files, each with its option. -/
def pathArguments : Command → List (Text × OptionValue)
  | .generate arguments =>
    ("--baseline", arguments.baseline) :: ("--docs", arguments.pages) ::
      ("--output", arguments.output) :: (arguments.log.map (("--log" : Text), ·)).toList
  | .show _ source | .complete _ source =>
    ("--data", source.data) :: (source.baseline.map (("--baseline" : Text), ·)).toList

/-- Read a command line. Before its name a command takes no option but the request
for help; unknown ones are refused once the rest has been read. -/
def readAfter (hasExtra : Bool) : List Text → Except Usage Command
  | [] => .error .misuse
  | argument :: rest =>
    if argument = ("--" : Text) then .error .misuse
    else match Grammar.classify? {} argument with
      | some .help => .error .help
      | some .unknown => readAfter true rest
      | some (.plain name) =>
        match named? name with
        | none => .error .misuse
        | some (grammar, make) => do
          let given ← grammar.read rest
          if hasExtra || given.hasExtra then .error .misuse else .ok (make given)
      | _ => .error .misuse

/-- Read a command line. -/
def read (arguments : List Text) : Except Usage Command := readAfter false arguments

end Command

end CommandDocs
