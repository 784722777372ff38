import CommandDocs.Completion
import CommandDocs.Corpus.Collection
import CommandDocs.Corpus.Events
import CommandDocs.Hover

/-!
# Command index

A table of records by name, read from the command data when it is first asked for.
When the command data cannot be read the baseline takes its place. What an index
does is a function of its state and of the files at that moment; it returns its new
state and the events to report.
-/

namespace CommandDocs

/-- Where the records of an index come from. -/
inductive IndexSource where
  /-- From the command data of a generation run. -/
  | generated
  /-- From the baseline. -/
  | baseline
  deriving DecidableEq

/-- The name of a source. -/
def IndexSource.label : IndexSource → Text
  | generated => "generated"
  | baseline => "baseline"

/-- The records of an index under their names. -/
structure LoadedRecords where
  /-- Where they come from. -/
  source : IndexSource
  /-- Each name in the place of its first record, with its last record. -/
  records : Entries Text MergedRecord

/-- The records of a list under their names. -/
def LoadedRecords.ofRecords (source : IndexSource) (records : List MergedRecord) : LoadedRecords :=
  ⟨source, Entries.ofPairs (records.map fun r => (r.name, r))⟩

/-- An index. -/
structure CommandIndex where
  /-- The command data. -/
  data : Path
  /-- The baseline to turn to. -/
  baseline : Option Path := none
  /-- The records, once they have been read. -/
  loaded : Option LoadedRecords := none

/-- The outcome of an attempt to read records. -/
structure LoadAttempt where
  /-- The records, or nothing when no source could be read. -/
  outcome : Except Failure (Option LoadedRecords)
  /-- The events to report. -/
  events : List LogEvent

namespace CommandIndex

/-- Take records over and report it. -/
def store (source : IndexSource) (file : Path) (records : List MergedRecord)
    (earlier : List LogEvent) : LoadAttempt :=
  let loaded := LoadedRecords.ofRecords source records
  ⟨.ok (some loaded), earlier ++ [.indexLoaded source.label file loaded.records.length]⟩

/-- Read the baseline after the command data failed for the given reason. -/
def readBaseline (index : CommandIndex) (fs : FileSystem) (reason : Text) : LoadAttempt :=
  let fallback := LogEvent.indexFallback index.data reason
  match index.baseline with
  | none => ⟨.ok none, [fallback, .indexLoadFailed index.data none "no baseline configured"]⟩
  | some file =>
    match fs.readBaseline file with
    | .ok records =>
      store .baseline file (records.map BaselineRecord.withoutDocumentation) [fallback]
    | .error (.collection kind fault path) =>
      ⟨.ok none, [fallback, .indexLoadFailed index.data (some file) (fault.message kind path)]⟩
    | .error failure => ⟨.error failure, [fallback]⟩

/-- Read the command data, or else the baseline. -/
def readRecords (index : CommandIndex) (fs : FileSystem) : LoadAttempt :=
  match fs.pathExists index.data with
  | .error e => ⟨.error (.file e), []⟩
  | .ok false => index.readBaseline fs "generated command data not found"
  | .ok true =>
    match fs.readCommandData index.data with
    | .ok records => store .generated index.data records []
    | .error (.collection kind fault path) => index.readBaseline fs (fault.message kind path)
    | .error failure => ⟨.error failure, []⟩

/-- Have the records read, unless they have been. -/
def load (index : CommandIndex) (fs : FileSystem) : LoadAttempt :=
  match index.loaded with
  | some loaded => ⟨.ok (some loaded), []⟩
  | none => index.readRecords fs

/-- The index after an attempt to read records. An attempt that failed leaves no
trace. -/
def after (index : CommandIndex) (attempt : LoadAttempt) : CommandIndex :=
  match attempt.outcome with
  | .ok (some loaded) => { index with loaded := some loaded }
  | _ => index

/-- Forget the records, so that the next question reads them again. -/
def reset (index : CommandIndex) : CommandIndex := { index with loaded := none }

/-- The records at hand; none before they have been read. -/
def records (index : CommandIndex) : Entries Text MergedRecord :=
  match index.loaded with
  | some loaded => loaded.records
  | none => []

/-- The names of all commands. -/
def names (index : CommandIndex) : List Text := index.records.keys

/-- The number of commands. -/
def count (index : CommandIndex) : Nat := index.records.length

/-- The record of a command. -/
def lookup (index : CommandIndex) (name : Text) : Option MergedRecord := index.records.find? name

/-- Is there a command of this name? -/
def has (index : CommandIndex) (name : Text) : Bool := index.names.contains name

/-- The hover text for a word; the empty word has none. -/
def hover (index : CommandIndex) (word : Text) : Option Text :=
  if word.isEmpty then none else (index.lookup word).map MergedRecord.hover

/-- The offers for a word. -/
def complete (index : CommandIndex) (linePrefix word : Text) : List CompletionItem :=
  Completion.items index.records linePrefix word

end CommandIndex

/-- What can be asked of an index. -/
inductive IndexCall where
  /-- Have the records read. -/
  | load
  /-- Forget the records. -/
  | reset
  /-- The names of all commands. -/
  | names
  /-- The number of commands. -/
  | count
  /-- Is there a command of this name? -/
  | has (name : Text)
  /-- The record of a command. -/
  | lookup (name : Text)
  /-- The hover text for a word. -/
  | hover (word : Text)
  /-- The offers for a word behind a part of a line. -/
  | complete (linePrefix word : Text)
  deriving DecidableEq

/-- What an index answers. -/
inductive IndexReply where
  /-- Nothing to say. -/
  | done
  /-- Yes or no. -/
  | truth (value : Bool)
  /-- Names of commands. -/
  | names (value : List Text)
  /-- A number. -/
  | count (value : Nat)
  /-- A record, if there is one. -/
  | record (value : Option MergedRecord)
  /-- A text, if there is one. -/
  | text (value : Option Text)
  /-- Offers. -/
  | offers (value : List CompletionItem)

/-- What a call leads to. -/
structure IndexStep where
  /-- The answer, unless reading the records broke off. -/
  reply : Except Failure IndexReply
  /-- The index after the call. -/
  index : CommandIndex
  /-- The events to report. -/
  events : List LogEvent

namespace IndexCall

/-- Does the call need the records? No record is needed for what has a fixed answer:
the hover text of the empty word, and offers where none are wanted. -/
def needsRecords : IndexCall → Bool
  | reset => false
  | hover word => !word.isEmpty
  | complete linePrefix _ => Completion.isWanted linePrefix
  | _ => true

/-- The answer of an index that has done what it can to read its records. -/
def reply (index : CommandIndex) : IndexCall → IndexReply
  | load => .truth index.loaded.isSome
  | reset => .done
  | names => .names index.names
  | count => .count index.count
  | has name => .truth (index.has name)
  | lookup name => .record (index.lookup name)
  | hover word => .text (index.hover word)
  | complete linePrefix word => .offers (index.complete linePrefix word)

end IndexCall

/-- Call an index while the files are as given. -/
def CommandIndex.call (index : CommandIndex) (fs : FileSystem) (call : IndexCall) : IndexStep :=
  if call = .reset then ⟨.ok .done, index.reset, []⟩
  else if call.needsRecords then
    let attempt := index.load fs
    match attempt.outcome with
    | .error failure => ⟨.error failure, index, attempt.events⟩
    | .ok _ => ⟨.ok (call.reply (index.after attempt)), index.after attempt, attempt.events⟩
  else ⟨.ok (call.reply index), index, []⟩

end CommandDocs
