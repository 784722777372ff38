import CommandDocs.Completion
import CommandDocs.Text.Basic

/-!
# Reports

The lines that the command line prints.
-/

namespace CommandDocs.Report

/-- A failure. -/
def error (message : Text) : Text := "ERROR: " ++ message

/-- Something that went wrong without stopping the run. -/
def warning (message : Text) : Text := "WARNING: " ++ message

/-- The outcome of a generation run. -/
structure RunSummary where
  /-- The file that was written, as it is shown. -/
  output : Text
  /-- How many records were written. -/
  total : Int
  /-- How many commands had a page. -/
  enhanced : Int
  /-- How many had none. -/
  fallback : Int
  /-- How many records list forms. -/
  withSyntax : Int
  /-- How many records have an example. -/
  withExample : Int
  /-- File names of the pages that could not be read. -/
  skipped : List Text

/-- The lines about a run: five counts, and a warning for every skipped page. -/
def RunSummary.lines (s : RunSummary) : List Text :=
  ["Wrote " ++ Text.ofInt s.total ++ " command entries to " ++ s.output,
    "Enhanced with documentation: " ++ Text.ofInt s.enhanced,
    "Using basic info (no documentation): " ++ Text.ofInt s.fallback,
    "Commands with syntax tables: " ++ Text.ofInt s.withSyntax,
    "Commands with examples: " ++ Text.ofInt s.withExample] ++
    s.skipped.map fun name => warning ("Skipped unreadable document: " ++ name)

/-- A text filled up with spaces to a width. -/
def padded (width : Nat) (t : Text) : Text :=
  t ++ List.replicate (width - t.length) (CodePoint.scalar ' ')

/-- Width of the longest label. -/
def labelWidth (items : List CompletionItem) : Nat :=
  items.foldl (fun width item => max width item.label.length) 0

/-- One line for each offer: the label, filled up to the longest one, two spaces
and the detail. -/
def completionRows (items : List CompletionItem) : List Text :=
  items.map fun item => padded (labelWidth items) item.label ++ "  " ++ item.detail

end CommandDocs.Report
