import CommandDocs.Page.Description
import CommandDocs.Page.Example
import CommandDocs.Page.RelatedLinks
import CommandDocs.Page.SyntaxTable
import CommandDocs.Page.Title
import CommandDocs.Text.Lines

/-!
# Extraction

What a documentation page says about its command. Each zone is found by a
search of its own from where the zone before it ended, so a missing zone is
empty and does not disturb the later ones. Every text is a page; extraction
never fails.
-/

namespace CommandDocs.Page

/-- The content of a page by zones. -/
structure Extraction where
  /-- Text of the first heading. -/
  title : Text := []
  /-- First paragraph behind the title. -/
  description : Text := []
  /-- First sentence of the description, or the title. -/
  summary : Text := []
  /-- Forms on the syntax table. -/
  rows : List SyntaxRow := []
  /-- Code of the example. -/
  exampleCode : Text := []
  /-- The page without its related links. -/
  body : Text := []
  deriving DecidableEq

/-- Read a page. The table is searched from the end of the description, the
example from the end of the table or, without a table, of the description. -/
def extract (page : Text) : Extraction :=
  let lines := page.lines
  let title := findTitle lines 0
  let description := readDescription lines title.next
  let table := findTableBlock lines description.next
  let afterTable := if table.value.isSome then table.next else description.next
  { title := title.value
    description := description.value
    summary := summarize description.value title.value
    rows := syntaxRows (table.value.getD [])
    exampleCode := (findExample lines afterTable).value
    body := withoutRelatedLinks page }

end CommandDocs.Page
