import CommandDocs.CommandLine.Command
import CommandDocs.Corpus.Generate
import CommandDocs.Corpus.Index

/-!
# The program

What the program does with a command line: the files it changes, what it prints and
its exit code. A failure with a report ends the program with that report; any other
failure escapes, and then nothing is printed.
-/

namespace CommandDocs

/-- The surroundings of a run that are not files. -/
structure Surroundings where
  /-- The directory of the program. -/
  program : Path
  /-- The home directory of the user. -/
  home : Path
  /-- The time at which events are stamped. -/
  clock : Instant

/-- How a run ends. -/
inductive Ending where
  /-- The command line was not carried out. -/
  | usage (reason : Usage)
  /-- The program ends with an exit code after printing lines on its two outputs. -/
  | exit (code : Nat) (output errors : List Text)
  /-- A failure escapes. -/
  | escape (failure : Failure)

namespace Program

/-- The roots of path arguments: relative paths begin in the working directory. -/
def rootsOf (env : Surroundings) (fs : FileSystem) : ArgumentRoots :=
  { program := env.program, home := env.home, base := ⟨.slash, fs.workingDirectory⟩ }

/-- The path that an option is given. -/
def pathOf (roots : ArgumentRoots) (option : Text) : OptionValue → Except Failure Path
  | .text raw => (Argument.toPath roots option raw).mapError Failure.argument
  | .nothing => .error (.noValue .path)

/-- Refuse a path for which the test does not hold. -/
def require (answer : Except FileError Bool) (fault : StartupFault) : Except Failure Unit := do
  if ← answer.mapError Failure.file then .ok () else .error (.startup fault)

/-- The files of a run, once it is known that they can be used. -/
structure CheckedPaths extends GeneratePaths where
  /-- The log file. -/
  log : Option Path

/-- Map the path arguments of a generation run and check what is there. -/
def checkPaths (roots : ArgumentRoots) (fs : FileSystem) (baseline pages output : OptionValue)
    (log : Option OptionValue) : Except Failure CheckedPaths := do
  let baseline ← pathOf roots "--baseline" baseline
  let pages ← pathOf roots "--docs" pages
  let output ← pathOf roots "--output" output
  let log ← log.mapM (pathOf roots "--log")
  require (fs.pathExists baseline) (.noBaseline baseline)
  require (fs.isFile baseline) (.baselineNotFile baseline)
  require (fs.pathExists pages) (.noPages pages)
  require (fs.isDirectory pages) (.pagesNotDirectory pages)
  require ((fs.isDirectory output).map (!·)) (.outputIsDirectory output)
  .ok { baseline, pages, output, log }

/-- A suffix with its dot, which may be left out on the command line. -/
def dotted : OptionValue → Except Failure Text
  | .text suffix =>
    let suffix := if suffix.startsWith "." then suffix else "." ++ suffix
    if suffix = ("." : Text) then .error (.startup .emptySuffix) else .ok suffix
  | .nothing => .error (.noValue .suffix)

/-- Open a log file: its directory is made and the file is there from then on. -/
def openLog (log : Option Path) : Run Unit := do
  match log with
  | none => pure ()
  | some path =>
    Run.ensureDirectories path.parent Failure.file
    Run.change fun fs => (fs.appendFile path []).mapError Failure.file
    modify fun s => { s with logFile := some { path } }

/-- Carry out a generation run; the answer is the lines to print. -/
def generate (env : Surroundings) (arguments : GenerateArguments) : Run (List Text) := do
  let suffix ← Run.ask fun _ => dotted arguments.suffix
  let paths ← Run.ask fun fs =>
    checkPaths (rootsOf env fs) fs arguments.baseline arguments.pages arguments.output arguments.log
  openLog paths.log
  let summary ← Generate.run paths.toGeneratePaths suffix (placeholderTest arguments.placeholder)
  pure summary.lines

/-- Make an index and have it read its records. -/
def openIndex (env : Surroundings) (source : IndexArguments) : Run CommandIndex := do
  let roots := rootsOf env (← get).files
  let data ← Run.ask fun _ => pathOf roots "--data" source.data
  let baseline ← Run.ask fun _ => source.baseline.mapM (pathOf roots "--baseline")
  let index : CommandIndex := { data, baseline }
  let attempt := index.load (← get).files
  attempt.events.forM Run.report
  match attempt.outcome with
  | .error failure => throw failure
  | .ok none => throw (.noCommandData data)
  | .ok (some _) => pure (index.after attempt)

/-- What a command prints when nothing fails: an exit code, lines and lines of
errors. -/
def perform (env : Surroundings) : Command → Run (Nat × List Text × List Text)
  | .generate arguments => do
    pure (0, ← generate env arguments, [])
  | .show name source => do
    match (← openIndex env source).hover name with
    | some text => pure (0, [text], [])
    | none => pure (1, [], [Report.error ("Unknown command: " ++ name)])
  | .complete word source => do
    pure (0, Report.completionRows ((← openIndex env source).complete word word), [])

/-- Does the command show the course of the run? -/
def isVerbose : Command → Bool
  | .generate arguments => arguments.verbose
  | .show _ source => source.verbose
  | .complete _ source => source.verbose

/-- The lines about events that are shown while a command runs: warnings and worse,
and with a verbose command all from the ordinary course on. -/
def shownEvents (verbose : Bool) (s : RunState) : List Text :=
  let least := if verbose then Level.info else Level.warning
  (s.events.filter (least ≤ ·.level)).filterMap fun e =>
    (LogFormat.compact (s.recordOf e)).toOption

/-- Run a command. -/
def runCommand (env : Surroundings) (fs : FileSystem) (command : Command) :
    Ending × FileSystem :=
  let (outcome, s) := (perform env command).run.run { files := fs, clock := env.clock }
  let events := shownEvents (isVerbose command) s
  let ending := match outcome with
    | .ok (code, output, errors) => .exit code output (events ++ errors)
    | .error failure =>
      if failure.isReported then .exit 1 [] (events ++ [Report.error failure.message])
      else .escape failure
  (ending, s.files)

/-- Run the program. -/
def run (env : Surroundings) (fs : FileSystem) (arguments : List Text) : Ending × FileSystem :=
  match Command.read arguments with
  | .error reason => (.usage reason, fs)
  | .ok command => runCommand env fs command

end Program

end CommandDocs
