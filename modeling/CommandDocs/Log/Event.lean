import CommandDocs.Json.Printer
import CommandDocs.Log.Value

/-!
# Log events

What a run reports while it goes on: the name of an event and its fields. The
message of an event is one line of compact JSON.
-/

namespace CommandDocs

/-- How urgent an event is; higher numbers are more urgent. -/
abbrev Level := Int

namespace Level

/-- Details for finding faults. -/
def debug : Level := 10

/-- The ordinary course of a run. -/
def info : Level := 20

/-- Something was passed over. -/
def warning : Level := 30

/-- Something failed. -/
def error : Level := 40

/-- Nothing works any more. -/
def critical : Level := 50

/-- The name of a level; a level between the named ones is shown by its number. -/
def name (level : Level) : Text :=
  if level = critical then "CRITICAL"
  else if level = error then "ERROR"
  else if level = warning then "WARNING"
  else if level = info then "INFO"
  else if level = debug then "DEBUG"
  else if level = 0 then "NOTSET"
  else "Level " ++ Text.ofInt level

end Level

/-- One event. -/
structure LogEvent where
  /-- What happened. -/
  name : Text
  /-- How urgent it is. -/
  level : Level := Level.info
  /-- The circumstances, under distinct names. -/
  fields : List (Text × LogValue) := []

/-- The message of an event. -/
def LogEvent.message (e : LogEvent) : Text :=
  Json.write Json.Layout.compact
    (.object (("event", .text e.name) :: e.fields.map fun field => (field.1, field.2.toJson)))

end CommandDocs
