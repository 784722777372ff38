import CommandDocs.Record.Merge
import CommandDocs.Text.Basic
import CommandDocs.Text.Blank
import CommandDocs.Text.Lowercase

/-!
# Completion

The command names offered at the cursor, and how one offer is presented.
-/

namespace CommandDocs

/-- One offer. -/
structure CompletionItem where
  /-- The name of the command. -/
  label : Text
  /-- What is shown beside the name. -/
  detail : Text
  /-- What is inserted when the offer is taken. -/
  insertText : Text
  /-- A page about the command, for those that have one. -/
  documentation : Option Text
  deriving DecidableEq

namespace Completion

/-- Do command names make sense behind this part of a line? Not after the end of a
statement and not inside a comment. -/
def isWanted (linePrefix : Text) : Bool :=
  let line := linePrefix.trimEnd
  !line.endsWith ";" && !line.contains (CodePoint.scalar '#')

/-- Compare without regard to case whether the name begins with the word. -/
def matchesWord (word name : Text) : Bool := (Text.lower name).startsWith (Text.lower word)

/-- The page of an offer: summary and usage of a command whose page is known. -/
def page? (name : Text) (record : MergedRecord) : Option Text :=
  if record.markdown.isEmpty then none
  else
    let summary : Text := if record.summary.isEmpty then [] else record.summary ++ "\n\n"
    let usage : Text := if record.usage.isEmpty then [] else "Usage: `" ++ record.usage ++ "`"
    some ("**" ++ name ++ "**\n\n" ++ summary ++ usage)

/-- The first text that says something about the command. -/
def detail (record : MergedRecord) : Text :=
  if !record.summary.isEmpty then record.summary
  else if !record.description.isEmpty then record.description
  else defaultPlaceholder

/-- The offer for a name and its record, if one is known. -/
def item (name : Text) (record : Option MergedRecord) : CompletionItem :=
  { label := name
    detail := (record.map detail).getD defaultPlaceholder
    insertText := name ++ "();"
    documentation := record.bind (page? name) }

/-- The offers for a word, in the order of the table. -/
def items (records : Entries Text MergedRecord) (linePrefix word : Text) : List CompletionItem :=
  if isWanted linePrefix then
    (records.keys.filter (matchesWord word)).map fun name => item name (records.find? name)
  else []

end Completion

end CommandDocs
