import CommandDocs.File.Argument
import CommandDocs.File.System
import CommandDocs.Json.Reader
import CommandDocs.Json.Writable
import CommandDocs.Record.Validation

/-!
# Failures

Every cause for which a run of the program can break off, and its report. Most
causes are faults of the input and are reported to the user; the rest escapes.
-/

namespace CommandDocs

/-- Why a file is not read as text. -/
inductive TextFault where
  /-- The file cannot be read. -/
  | file (error : FileError)
  /-- Its bytes are not UTF-8. -/
  | bytes (error : Utf8.DecodeError)
  deriving DecidableEq

/-- The report about a text that was not read. -/
def TextFault.message : TextFault → Text
  | file e => e.message
  | bytes e => e.message

/-- The two kinds of file that hold a collection of commands. -/
inductive CollectionKind where
  /-- The list kept by hand. -/
  | baseline
  /-- The list that a generation run writes. -/
  | commandData
  deriving DecidableEq

/-- What is wrong with a collection. -/
inductive CollectionFault where
  /-- The file is not read as text. -/
  | unreadable
  /-- The text is not JSON. -/
  | notJson
  /-- The JSON value is not an array. -/
  | notArray
  /-- The item at this position is not an object. -/
  | notObject (position : Nat)
  /-- The item at this position is not a record. -/
  | invalid (position : Nat) (error : Invalid)
  deriving DecidableEq

/-- Why a run does not start. -/
inductive StartupFault where
  /-- There is no baseline file. -/
  | noBaseline (path : Path)
  /-- The baseline is not a file. -/
  | baselineNotFile (path : Path)
  /-- There is no directory of pages. -/
  | noPages (path : Path)
  /-- The pages are not in a directory. -/
  | pagesNotDirectory (path : Path)
  /-- The output is a directory. -/
  | outputIsDirectory (path : Path)
  /-- The suffix of pages is empty. -/
  | emptySuffix
  /-- The directory of pages cannot be listed. -/
  | unlistable (path : Path)
  deriving DecidableEq

/-- The report about a run that does not start. -/
def StartupFault.message : StartupFault → Text
  | noBaseline p => "--baseline does not exist: " ++ p.toText
  | baselineNotFile p => "--baseline must be a file: " ++ p.toText
  | noPages p => "--docs does not exist: " ++ p.toText
  | pagesNotDirectory p => "--docs must be a directory: " ++ p.toText
  | outputIsDirectory p => "--output must be a file path: " ++ p.toText
  | emptySuffix => "--suffix must not be empty."
  | unlistable p => "Failed to list documentation directory: " ++ p.toText

/-- What the value of an option is needed for. -/
inductive ValueUse where
  /-- To name a file. -/
  | path
  /-- To select the pages. -/
  | suffix
  deriving DecidableEq

/-- The report about an option that is given no value. -/
def ValueUse.message : ValueUse → Text
  | path => "normalize() argument 2 must be str, not list"
  | suffix => "'list' object has no attribute 'startswith'"

/-- Why a run breaks off. -/
inductive Failure where
  /-- An argument names no path. -/
  | argument (fault : ArgumentFault)
  /-- An option is given no value where one is needed. -/
  | noValue (use : ValueUse)
  /-- The run does not start. -/
  | startup (fault : StartupFault)
  /-- A collection of commands is not read. -/
  | collection (kind : CollectionKind) (fault : CollectionFault) (path : Path)
  /-- Neither the command data nor a baseline could be read. -/
  | noCommandData (path : Path)
  /-- A page is not read. -/
  | page (path : Path) (fault : TextFault)
  /-- The output is not written. -/
  | output (path : Path)
  /-- The reader of JSON broke off before it could tell whether the text is JSON, or its writer
  before it had the text. -/
  | json (error : JsonError)
  /-- A file operation failed that nobody expected to fail. -/
  | file (error : FileError)
  /-- What was to be written has no written form. -/
  | unwritable (cause : Unwritable)
  deriving DecidableEq

/-- The report about a collection; the position of an invalid item is told for a
baseline only. -/
def CollectionFault.message (fault : CollectionFault) (kind : CollectionKind) (path : Path) :
    Text :=
  let label : Text := match kind with
    | .baseline => "baseline"
    | .commandData => "command data"
  let title : Text := match kind with
    | .baseline => "Baseline"
    | .commandData => "Command data"
  let what : Text := match fault with
    | unreadable => "Failed to read " ++ label ++ " file"
    | notJson => "Invalid " ++ label ++ " JSON"
    | notArray => title ++ " JSON must be an array"
    | notObject i => title ++ " entry " ++ Text.ofNat i ++ " must be an object"
    | invalid i e =>
      match kind with
      | .baseline => "Baseline entry " ++ Text.ofNat i ++ " is invalid (" ++ e.message ++ ")"
      | .commandData => "Command data is invalid (" ++ e.message ++ ")"
  what ++ ": " ++ path.toText

/-- The report about an integer that is too long to be converted, with the number of its digits
if that is known. -/
def digitsMessage (count : Option Nat) : Text :=
  let number : Text := match count with
    | none => []
    | some n => ": value has " ++ Text.ofNat n ++ " digits"
  "Exceeds the limit (" ++ Text.ofNat Json.digitBound ++
    " digits) for integer string conversion" ++ number ++
    "; use sys.set_int_max_str_digits() to increase the limit"

namespace Failure

/-- The report about a failure; nesting without end has none. -/
def message : Failure → Text
  | argument fault => fault.message
  | noValue use => use.message
  | startup fault => fault.message
  | collection kind fault path => fault.message kind path
  | noCommandData path => "No command data could be loaded from " ++ path.toText
  | page path fault => "Failed to read document: " ++ path.toText ++ ": " ++ fault.message
  | output path => "Failed to write merged corpus: " ++ path.toText
  | json (.tooManyDigits count) => digitsMessage count
  | json _ => []
  | file e => e.message
  | unwritable cause => cause.message

/-- The failure behind an error of a file operation, which `report` tells. A path
that cannot be told to the system is never reported. -/
def ofFile (report : FileError → Failure) (e : FileError) : Failure :=
  if e.fault = .nul then .file e else report e

/-- The failure behind a text that was not read, which `report` tells in the same
way. -/
def ofText (report : TextFault → Failure) : TextFault → Failure
  | .file e => ofFile (fun e => report (.file e)) e
  | fault => report fault

/-- Is the failure reported to the user? All others escape. -/
def isReported : Failure → Bool
  | noValue _ | json _ | file _ | unwritable _ => false
  | _ => true

end Failure

end CommandDocs
