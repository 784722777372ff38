import CommandDocs.Log.Event

/-!
# Events of runs

The events that generation runs and command indexes report, with the names and
order of their fields.
-/

namespace CommandDocs.LogEvent

/-- A count as the value of a field. -/
def count (n : Nat) : LogValue := .int n

/-- A generation run begins. -/
def runStart (baseline pages output : Path) (suffix : Text) : LogEvent :=
  { name := "run_start"
    fields := [("baseline_file", .path baseline), ("docs_dir", .path pages),
      ("output_file", .path output), ("suffix", .text suffix)] }

/-- The baseline was read. -/
def baselineLoaded (baseline : Path) (records : Nat) : LogEvent :=
  { name := "baseline_loaded"
    fields := [("baseline_file", .path baseline), ("count", count records)] }

/-- A page was passed over. -/
def pageSkipped (page : Path) (reason : Text) : LogEvent :=
  { name := "document_skipped"
    level := Level.warning
    fields := [("document", .path page), ("error", .text reason)] }

/-- All pages were looked at. -/
def pagesScanned (directory : Path) (found parsed skipped : Nat) : LogEvent :=
  { name := "docs_scanned"
    fields := [("docs_dir", .path directory), ("found", count found), ("parsed", count parsed),
      ("skipped", count skipped)] }

/-- Every command was merged. -/
def mergeComplete (total enhanced fallback : Nat) : LogEvent :=
  { name := "merge_complete"
    fields := [("total", count total), ("enhanced", count enhanced),
      ("fallback", count fallback)] }

/-- The merged corpus was written. -/
def outputWritten (output : Path) (records : Nat) : LogEvent :=
  { name := "output_written"
    fields := [("output_file", .path output), ("count", count records)] }

/-- An index read its records from a source. -/
def indexLoaded (source : Text) (file : Path) (records : Nat) : LogEvent :=
  { name := "index_loaded"
    fields := [("source", .text source), ("data_file", .path file), ("count", count records)] }

/-- An index turns to the baseline. -/
def indexFallback (data : Path) (reason : Text) : LogEvent :=
  { name := "index_fallback"
    level := Level.warning
    fields := [("data_file", .path data), ("reason", .text reason)] }

/-- An index found nothing to read; the baseline is named when there was one. -/
def indexLoadFailed (data : Path) (baseline : Option Path) (reason : Text) : LogEvent :=
  { name := "index_load_failed"
    level := Level.error
    fields := ("data_file", .path data) ::
      ((baseline.map fun p => (Text.ofString "baseline_file", LogValue.path p)).toList ++
        [(Text.ofString "error", LogValue.text reason)]) }

end CommandDocs.LogEvent
