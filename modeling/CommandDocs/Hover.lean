import CommandDocs.Page.Marker
import CommandDocs.Record.Basic
import CommandDocs.Text.Basic

/-!
# Hover text

The page shown for a command under the cursor. A record with a page shows it as it
is; for any other a short page is laid out from its members, each part only when
there is something to show.
-/

namespace CommandDocs.MergedRecord

/-- The language name behind the opening fence of an example. -/
def codeLanguage : Text := "matlab"

/-- A part of the page that is left out when its content is empty. -/
def hoverPart (content opening closing : Text) : Text :=
  if content.isEmpty then [] else opening ++ content ++ closing

/-- The label of a category; null and missing categories have none. -/
def categoryLabel (r : MergedRecord) : Text :=
  match r.category with
  | .named label => label
  | _ => []

/-- One line of the table of forms. -/
def hoverRow (row : SyntaxRow) : Text := "| `" ++ row.form ++ "` | " ++ row.description ++ " |\n"

/-- The table of forms, when there are any. -/
def hoverTable (rows : List SyntaxRow) : Text :=
  if rows.isEmpty then []
  else
    "\n**Syntax:**\n\n" ++ "| Syntax | Description |\n" ++ "|--------|-------------|\n" ++
      rows.flatMap hoverRow ++ "\n"

/-- The page for a command. -/
def hover (r : MergedRecord) : Text :=
  if r.markdown.isEmpty then
    "### " ++ r.name ++ "\n\n" ++
      hoverPart r.description [] "\n\n" ++
      hoverPart r.usage "**Usage:** `" "`\n\n" ++
      hoverPart r.categoryLabel "**Category:** " "\n" ++
      hoverTable r.rows ++
      hoverPart r.exampleCode ("**Example:**\n\n" ++ Page.codeFence ++ codeLanguage ++ "\n")
        ("\n" ++ Page.codeFence ++ "\n")
  else r.markdown

end CommandDocs.MergedRecord
