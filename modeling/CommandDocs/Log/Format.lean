import CommandDocs.Json.Display
import CommandDocs.Json.Reader
import CommandDocs.Log.Event
import CommandDocs.Log.Instant
import CommandDocs.Text.Blank

/-!
# Formatting log records

A log record is shown as one compact line, for a terminal, or as a block with one
line for each field, for a file. A message that is a JSON object supplies the
fields; any other is a field of its own.
-/

namespace CommandDocs

/-- The name under which the program logs. -/
def programName : Text := "lsfdocs"

/-- A message with its circumstances. -/
structure LogRecord where
  /-- The message. -/
  message : Text
  /-- How urgent it is. -/
  level : Level := Level.info
  /-- Where it comes from. -/
  logger : Text := programName
  /-- When it was written, as far as the clock could tell. -/
  time : Except TimeFault Instant
  /-- An error that belongs to it, as it is shown. -/
  error : Option Text := none

/-- Why a record is not formatted. -/
inductive LogFault where
  /-- The message looks like an object but reading it breaks off. -/
  | json (error : JsonError)
  /-- The time is not known as an instant. -/
  | time (fault : TimeFault)
  deriving DecidableEq

namespace LogFormat

/-- The fields that every record has, in order. -/
def standardKeys : List Text := ["ts_utc", "level", "logger"]

/-- The fields of the known events, in the order in which they are shown. -/
def eventKeys : Entries Text (List Text) :=
  [("run_start", ["baseline_file", "docs_dir", "output_file", "suffix"]),
    ("baseline_loaded", ["baseline_file", "count"]),
    ("docs_scanned", ["docs_dir", "found", "parsed", "skipped"]),
    ("document_skipped", ["document", "error"]),
    ("merge_complete", ["total", "enhanced", "fallback"]),
    ("output_written", ["output_file", "count"]),
    ("index_loaded", ["source", "data_file", "count"]),
    ("index_fallback", ["data_file", "reason"]),
    ("index_load_failed", ["data_file", "baseline_file", "error"])]

/-- The fields that come first, in order. -/
def preferredKeys (event : Text) : List Text := standardKeys ++ (eventKeys.find? event).getD []

/-- A field is shown when it is there and not null. -/
def isShown (fields : Entries Text Json) (key : Text) : Bool :=
  match fields.find? key with
  | none => false
  | some .null => false
  | some _ => true

/-- The fields to show: the preferred ones in their order, then all others sorted. -/
def orderedKeys (event : Text) (fields : Entries Text Json) : List Text :=
  let others := fields.keys.filter fun key => !(preferredKeys event).contains key
  (preferredKeys event).filter (isShown fields) ++ Text.sortOn id (others.filter (isShown fields))

/-- A value on one line: its newlines are shown by an escape. -/
def showValue (value : Json) : Text := Text.replaceEach (.scalar '\n') "\\n" value.display

/-- The fields of the message, when it is an object between braces. -/
def messageFields (message : Text) : Except LogFault (Option (Entries Text Json)) :=
  if message.startsWith "\x7b" && message.endsWith "\x7d" then
    match Json.read message with
    | .ok (.object members) => .ok (some members)
    | .ok _ => .ok none
    | .error .malformed => .ok none
    | .error e => .error (.json e)
  else .ok none

/-- The name under which an object gives the name of its event. -/
def eventKey : Text := "event"

/-- The event of a record and its fields. Fields of the message win over the
standard ones. -/
def fieldsOf (r : LogRecord) : Except LogFault (Text × Entries Text Json) := do
  let time ← r.time.mapError LogFault.time
  let standard : Entries Text Json :=
    [("ts_utc", .text time.toText), ("level", .text r.level.name), ("logger", .text r.logger)]
  match ← messageFields r.message with
  | none => .ok (r.logger, standard.put "message" (.text r.message))
  | some members =>
    let all := members.foldl (fun fields member => fields.put member.1 member.2) standard
    .ok (((all.find? eventKey).map Json.display).getD r.logger, all.filter (·.1 != eventKey))

/-- One field of a record with the given mark between key and value. -/
def showField (fields : Entries Text Json) (mark key : Text) : Text :=
  key ++ mark ++ showValue ((fields.find? key).getD .null)

/-- A record on one line: level, event, and the fields that are not standard. -/
def compact (r : LogRecord) : Except LogFault Text := do
  let (event, fields) ← fieldsOf r
  let keys := (orderedKeys event fields).filter fun key => !standardKeys.contains key
  let details := Text.join " " (keys.map (showField fields "="))
  .ok (Text.trimEnd (r.level.name ++ " " ++ event ++ " " ++ details))

/-- A record as a block of lines under a heading. -/
def block (r : LogRecord) : Except LogFault Text := do
  let (event, fields) ← fieldsOf r
  let error : List Text := match r.error with
    | none => []
    | some shown => ["traceback:", shown]
  let heading : Text := "=== " ++ event ++ " ==="
  let shown := (orderedKeys event fields).map (showField fields ": ")
  .ok (Text.join "\n" (heading :: shown ++ error))

/-- A block as it is written behind others: every block but the first follows an
empty line. -/
def separated (isFirst : Bool) (text : Text) : Text :=
  if isFirst then text else .scalar '\n' :: text

/-- Format records one after the other as blocks. -/
def blocks (isFirst : Bool) : List LogRecord → Except LogFault (List Text)
  | [] => .ok []
  | r :: rest => do
    let text ← block r
    let others ← blocks false rest
    .ok (separated isFirst text :: others)

/-- Format records one after the other as lines. -/
def compactLines (records : List LogRecord) : Except LogFault (List Text) :=
  records.mapM compact

end LogFormat

end CommandDocs
