import CommandDocs.Page.Extraction
import CommandDocs.Record.Basic

/-!
# Merging

A baseline record and the page of its command become one merged record. The page
supplies the documentation, and its description replaces the one of the baseline
unless it only repeats the name. Without a page the documentation is made from the
baseline itself.
-/

namespace CommandDocs

/-- Tells whether the description, given first, of the named command is a mere
placeholder. -/
abbrev PlaceholderTest := Text → Text → Bool

/-- The placeholder of a command is the prefix, a colon, and its name. -/
def placeholderTest (opening : Text) : PlaceholderTest :=
  fun description name => description == opening ++ ": " ++ name

/-- The usual opening of placeholders. -/
def defaultPlaceholder : Text := "Lumerical command"

namespace BaselineRecord

/-- The page that stands in for a missing one. -/
def synthesizedPage (b : BaselineRecord) : Text :=
  "### " ++ b.name ++ "\n\n" ++ b.description ++ "\n\n**Usage:** `" ++ b.usage ++ "`"

/-- The record with room for documentation: further members that bear the name of
a documentation member give way to it. -/
def carried (b : BaselineRecord) : BaselineRecord :=
  { b with extras := b.extras.filter fun m => !MergedRecord.documentationNames.contains m.1 }

/-- The merged record of a command without any documentation. -/
def withoutDocumentation (b : BaselineRecord) : MergedRecord :=
  { b.carried with summary := b.description }

/-- The merged record of a command that has no page. -/
def withSynthesizedPage (b : BaselineRecord) : MergedRecord :=
  { b.carried with
    markdown := b.synthesizedPage
    summary := b.description
    rows := [⟨b.usage, b.description⟩] }

/-- The merged record of a command and its page. -/
def withPage (b : BaselineRecord) (isPlaceholder : PlaceholderTest) (page : Page.Extraction) :
    MergedRecord :=
  let keepsDescription := page.description.isEmpty || isPlaceholder page.description b.name
  { b.carried with
    description := if keepsDescription then b.description else page.description
    markdown := page.body
    summary := page.summary
    rows := page.rows
    exampleCode := page.exampleCode }

/-- Merge a command with its page, if there is one. -/
def merge (b : BaselineRecord) (isPlaceholder : PlaceholderTest) :
    Option Page.Extraction → MergedRecord
  | none => b.withSynthesizedPage
  | some page => b.withPage isPlaceholder page

end BaselineRecord

/-- A merged corpus and the number of its commands with and without a page. -/
structure MergedCorpus where
  /-- The merged records in the order of the baseline. -/
  records : List MergedRecord
  /-- How many commands had a page. -/
  enhanced : Nat
  /-- How many had none. -/
  fallback : Nat

/-- Merge every command with the page of its name. -/
def mergeCorpus (isPlaceholder : PlaceholderTest) (baselines : List BaselineRecord)
    (pages : Entries Text Page.Extraction) : MergedCorpus :=
  { records := baselines.map fun b => b.merge isPlaceholder (pages.find? b.name)
    enhanced := baselines.countP fun b => (pages.find? b.name).isSome
    fallback := baselines.countP fun b => (pages.find? b.name).isNone }

/-- How many records list forms and how many have an example. -/
def coverage (records : List MergedRecord) : Nat × Nat :=
  (records.countP (!·.rows.isEmpty), records.countP (!·.exampleCode.isEmpty))

end CommandDocs
