import CommandDocs.Failure
import CommandDocs.Log.Format

/-!
# Runs

A run changes files and reports events. Both are kept in its state, so that a run
is a function; what it had done before it broke off stays done.
-/

namespace CommandDocs

/-- A file to which events are written. -/
structure LogFile where
  /-- Where the file is. -/
  path : Path
  /-- Has nothing been written yet in this run? -/
  isFresh : Bool := true

/-- What a run reads and changes. -/
structure RunState where
  /-- The files as they are now. -/
  files : FileSystem
  /-- The time at which events are stamped. -/
  clock : Instant
  /-- The events so far, in order. -/
  events : List LogEvent := []
  /-- Where events are written, if anywhere. -/
  logFile : Option LogFile := none

namespace RunState

/-- The record of an event. -/
def recordOf (s : RunState) (e : LogEvent) : LogRecord :=
  { message := e.message, level := e.level, time := .ok s.clock }

/-- The block that an event adds to a log file, with the newline behind it. -/
def blockOf (s : RunState) (log : LogFile) (e : LogEvent) : Bytes :=
  match LogFormat.block (s.recordOf e) with
  | .error _ => []
  | .ok block =>
    match Utf8.encode (LogFormat.separated log.isFresh block ++ "\n") with
    | .error _ => []
    | .ok bytes => bytes

/-- Note an event, also in the log file when it is urgent enough. -/
def note (s : RunState) (e : LogEvent) : RunState :=
  let noted := { s with events := s.events ++ [e] }
  match s.logFile with
  | none => noted
  | some log =>
    if e.level < Level.info then noted
    else
      let files := match s.files.appendFile log.path (s.blockOf log e) with
        | .ok files => files
        | .error _ => s.files
      { noted with files, logFile := some { log with isFresh := false } }

end RunState

/-- A computation that works on files, reports events and may fail. -/
abbrev Run := ExceptT Failure (StateM RunState)

namespace Run

/-- Report an event. -/
def report (e : LogEvent) : Run Unit := modify (·.note e)

/-- Ask about the files. -/
def ask {α : Type} (question : FileSystem → Except Failure α) : Run α := do
  match question (← get).files with
  | .ok answer => pure answer
  | .error failure => throw failure

/-- Change the files; a change that fails is none. -/
def change (action : FileSystem → Except Failure FileSystem) : Run Unit := do
  let files ← ask action
  modify fun s => { s with files }

/-- Make a directory and those above it. -/
def ensureDirectories (p : Path) (onError : FileError → Failure) : Run Unit := do
  let (outcome, files) := (← get).files.ensureDirectories p
  modify fun s => { s with files }
  match outcome with
  | .ok () => pure ()
  | .error e => throw (onError e)

end Run

end CommandDocs
