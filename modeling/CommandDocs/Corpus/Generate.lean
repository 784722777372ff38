import CommandDocs.Corpus.Collection
import CommandDocs.Corpus.Events
import CommandDocs.Corpus.Run
import CommandDocs.Json.Printer
import CommandDocs.Record.Merge
import CommandDocs.Report

/-!
# Generation runs

A generation run reads the baseline, then every page of a directory, merges the two
and writes the merged corpus. A page that cannot be read is passed over; any other
fault ends the run.
-/

namespace CommandDocs

/-- The files of a generation run. -/
structure GeneratePaths where
  /-- The baseline to read. -/
  baseline : Path
  /-- The directory of pages. -/
  pages : Path
  /-- The corpus to write. -/
  output : Path

/-- What a directory of pages holds. -/
structure Scan where
  /-- What each readable page says, under the name of its command. -/
  pages : Entries Text Page.Extraction
  /-- File names of the pages that could not be read. -/
  skipped : List Text

namespace Generate

/-- Read pages one after the other. -/
def readPages : List Path → Run (List (Text × Page.Extraction) × List Text)
  | [] => pure ([], [])
  | p :: rest => do
    match (← get).files.readPage p with
    | .ok text =>
      let (pages, skipped) ← readPages rest
      pure ((p.stem, Page.extract text) :: pages, skipped)
    | .error failure =>
      Run.report (.pageSkipped p failure.message)
      let (pages, skipped) ← readPages rest
      pure (pages, p.name :: skipped)

/-- Read all pages of a directory. -/
def scan (directory : Path) (suffix : Text) : Run Scan := do
  let found ← Run.ask (·.listPages directory suffix)
  let (pairs, skipped) ← readPages found
  let pages := Entries.ofPairs pairs
  Run.report (.pagesScanned directory found.length pages.length skipped.length)
  pure { pages, skipped }

/-- Merge the baseline with the pages. -/
def merge (isPlaceholder : PlaceholderTest) (baselines : List BaselineRecord)
    (pages : Entries Text Page.Extraction) : Run MergedCorpus := do
  let corpus := mergeCorpus isPlaceholder baselines pages
  Run.report (.mergeComplete corpus.records.length corpus.enhanced corpus.fallback)
  pure corpus

/-- The text of a file that holds these objects. -/
def payloadText (payloads : List Json) : Except JsonError Text := do
  Json.checkDigits (.array payloads)
  .ok (Json.write Json.Layout.indented (.array payloads) ++ "\n")

/-- Write a corpus. The directories are made before its text, and the file is emptied before
the text is encoded. -/
def writeCorpus (output : Path) (records : List MergedRecord) : Run Unit := do
  let failure := Failure.ofFile fun _ => .output output
  let payloads ← Run.ask fun _ =>
    (records.mapM MergedRecord.payload).mapError Failure.unwritable
  Run.ensureDirectories output.parent failure
  let text ← Run.ask fun _ => (payloadText payloads).mapError Failure.json
  Run.change fun fs => (fs.writeFile output []).mapError failure
  let bytes ← Run.ask fun _ =>
    (Utf8.encode text).mapError fun e => Failure.unwritable (.surrogates e)
  Run.change fun fs => (fs.writeFile output bytes).mapError failure

/-- The whole run. -/
def run (paths : GeneratePaths) (suffix : Text) (isPlaceholder : PlaceholderTest) :
    Run Report.RunSummary := do
  Run.report (.runStart paths.baseline paths.pages paths.output suffix)
  let baselines ← Run.ask (·.readBaseline paths.baseline)
  Run.report (.baselineLoaded paths.baseline baselines.length)
  let found ← scan paths.pages suffix
  let corpus ← merge isPlaceholder baselines found.pages
  writeCorpus paths.output corpus.records
  Run.report (.outputWritten paths.output corpus.records.length)
  let (withSyntax, withExample) := coverage corpus.records
  pure
    { output := paths.output.toText
      total := corpus.records.length
      enhanced := corpus.enhanced
      fallback := corpus.fallback
      withSyntax
      withExample
      skipped := found.skipped }

end Generate

end CommandDocs
