import CommandDocs.Failure
import CommandDocs.Text.Lines

/-!
# Collections

Reading the two kinds of collection from files, and finding and reading the pages
in a directory.
-/

namespace CommandDocs

namespace FileSystem

/-- The text of a file, its line ends unified. -/
def readText (fs : FileSystem) (p : Path) : Except TextFault Text := do
  let content ← (fs.readFile p).mapError TextFault.file
  let text ← (Utf8.decode content).mapError TextFault.bytes
  .ok text.unifyNewlines

/-- The items of a collection. Text that is not JSON is a fault of the collection;
a reader that breaks off is not. -/
def readItems (fs : FileSystem) (kind : CollectionKind) (p : Path) :
    Except Failure (List Json) := do
  match fs.readText p with
  | .error fault => throw (Failure.ofText (fun _ => .collection kind .unreadable p) fault)
  | .ok text =>
    match Json.read text with
    | .ok (.array items) => .ok items
    | .ok _ => throw (.collection kind .notArray p)
    | .error .malformed => throw (.collection kind .notJson p)
    | .error e => throw (.json e)

end FileSystem

/-- Read the items of a baseline, of which the first has the given position. -/
def baselineRecordsFrom (position : Nat) :
    List Json → Except CollectionFault (List BaselineRecord)
  | [] => .ok []
  | item :: items =>
    match item with
    | .object _ => do
      let first ← (BaselineRecord.ofJson item).mapError (CollectionFault.invalid position)
      let rest ← baselineRecordsFrom (position + 1) items
      .ok (first :: rest)
    | _ => .error (.notObject position)

/-- Read the items of command data, of which the first has the given position. -/
def mergedRecordsFrom (position : Nat) : List Json → Except CollectionFault (List MergedRecord)
  | [] => .ok []
  | item :: items => do
    let first ← (MergedRecord.ofJson item).mapError (CollectionFault.invalid position)
    let rest ← mergedRecordsFrom (position + 1) items
    .ok (first :: rest)

namespace FileSystem

/-- Read a baseline file. -/
def readBaseline (fs : FileSystem) (p : Path) : Except Failure (List BaselineRecord) := do
  let items ← fs.readItems .baseline p
  (baselineRecordsFrom 0 items).mapError (Failure.collection .baseline · p)

/-- Read a file of command data. -/
def readCommandData (fs : FileSystem) (p : Path) : Except Failure (List MergedRecord) := do
  let items ← fs.readItems .commandData p
  (mergedRecordsFrom 0 items).mapError (Failure.collection .commandData · p)

/-- The pages in a directory, by the code points of their names: the files that bear
the suffix. -/
def listPages (fs : FileSystem) (directory : Path) (suffix : Text) :
    Except Failure (List Path) := do
  let entries ← (fs.listDirectory directory).mapError
    (Failure.ofFile fun _ => .startup (.unlistable directory))
  let pages ← (fs.filesAmong (entries.filter (·.suffix == suffix))).mapError Failure.file
  .ok (Text.sortOn Path.name pages)

/-- Read one page. -/
def readPage (fs : FileSystem) (p : Path) : Except Failure Text :=
  (fs.readText p).mapError (Failure.ofText (Failure.page p))

end FileSystem

/-- The suffix of pages. -/
def defaultSuffix : Text := ".md"

end CommandDocs
