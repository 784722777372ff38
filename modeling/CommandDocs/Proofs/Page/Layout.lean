import CommandDocs.Page.Extraction
import CommandDocs.Proofs.Page.RelatedLinks
import CommandDocs.Proofs.Page.Zones

/-!
# Pages written zone by zone

A page layout lists the content of every zone, any of which may be absent. Written
out zone by zone, with a blank line behind each, it is a page from which extraction
reads the same content again. Five searches share one cursor; each is shown to hand
the cursor on to the first line behind its own zone.
-/

namespace CommandDocs.Page

/-- A heading line. -/
structure Heading where
  /-- How many number signs open the line. -/
  level : Nat
  /-- The text behind them. -/
  text : Text
  deriving DecidableEq

/-- A table with its two opening lines. -/
structure TableLayout where
  /-- The line that names the columns. -/
  header : Text
  /-- The line below the header. -/
  separator : Text
  /-- The forms, one on each further line. -/
  rows : List SyntaxRow
  deriving DecidableEq

/-- The content of a page, zone by zone. -/
structure Layout where
  /-- The first heading. -/
  title : Option Heading := none
  /-- The lines of the first paragraph, none when it is absent. -/
  description : List Text := []
  /-- The syntax table. -/
  table : Option TableLayout := none
  /-- The lines of code of the example. -/
  exampleCode : Option (List Text) := none
  /-- The lines behind the opening of the related links. -/
  links : Option (List Text) := none

/-- The line of a heading. -/
def Heading.line (h : Heading) : Text :=
  List.replicate h.level (CodePoint.scalar '#') ++ CodePoint.scalar ' ' :: h.text

/-- The line that opens the related links. -/
def linksOpening : Text := "**See Also**"

/-- The line of a table row. -/
def rowLine (row : SyntaxRow) : Text :=
  "| " ++ row.form ++ " | " ++ row.description ++ " |"

/-- The lines of a zone and the blank line behind it. An absent zone has no lines. -/
def zoneLines (zone : List Text) : List Text := if zone.isEmpty then [] else zone ++ [[]]

namespace Layout

/-- The heading, if there is one. -/
def titleZone (page : Layout) : List Text := (page.title.map Heading.line).toList

/-- The lines of the table. -/
def tableZone (page : Layout) : List Text :=
  match page.table with
  | none => []
  | some table => table.header :: table.separator :: table.rows.map rowLine

/-- The label, and the code between two fences. -/
def exampleZone (page : Layout) : List Text :=
  match page.exampleCode with
  | none => []
  | some code => exampleLabel :: codeFence :: (code ++ [codeFence])

/-- The opening and the lines behind it. -/
def linksZone (page : Layout) : List Text :=
  match page.links with
  | none => []
  | some more => linksOpening :: more

/-- The lines from the example on. -/
def afterTable (page : Layout) : List Text :=
  zoneLines page.exampleZone ++ zoneLines page.linksZone

/-- The lines from the table on. -/
def afterDescription (page : Layout) : List Text := zoneLines page.tableZone ++ page.afterTable

/-- The lines from the description on. -/
def afterTitle (page : Layout) : List Text :=
  zoneLines page.description ++ page.afterDescription

/-- All lines of the page in order. -/
def lines (page : Layout) : List Text := zoneLines page.titleZone ++ page.afterTitle

/-- The page as a text. -/
def toText (page : Layout) : Text := Text.join "\n" page.lines

/-- The page without its related links. -/
def withoutLinks (page : Layout) : Layout := { page with links := none }

/-- What the page says, read off its zones. -/
def content (page : Layout) : Extraction :=
  let title := (page.title.map Heading.text).getD []
  let description := Text.join " " page.description
  { title
    description
    summary := summarize description title
    rows := (page.table.map TableLayout.rows).getD []
    exampleCode := Text.trim (Text.join "\n" (page.exampleCode.getD []))
    body := if page.links.isSome then page.withoutLinks.toText.trim else page.toText }

end Layout

/-- A cell that a row can hold: trimmed, not empty, without bars and bold marks. -/
def IsPlainCell (cell : Text) : Prop :=
  cell.trim = cell ∧ cell ≠ [] ∧ cellBar ∉ cell ∧ Text.hasInfix boldMark cell = false

instance (cell : Text) : Decidable (IsPlainCell cell) :=
  inferInstanceAs (Decidable (cell.trim = cell ∧ cell ≠ [] ∧ cellBar ∉ cell ∧
    Text.hasInfix boldMark cell = false))

/-- A line of prose that ends no paragraph: trimmed, not empty, and not the first
line of a later zone. -/
def IsProseLine (line : Text) : Prop :=
  line.trim = line ∧ line ≠ [] ∧ line.startsWith [cellBar] = false ∧
    line.startsWith codeFence = false ∧ line.startsWith exampleLabel = false

instance (line : Text) : Decidable (IsProseLine line) :=
  inferInstanceAs (Decidable (line.trim = line ∧ line ≠ [] ∧ line.startsWith [cellBar] = false ∧
    line.startsWith codeFence = false ∧ line.startsWith exampleLabel = false))

/-- The layouts whose zones can be told apart on the written page. -/
structure Layout.IsReadable (page : Layout) : Prop where
  /-- No line is broken. -/
  unbroken : ∀ line ∈ page.lines, line.IsUnbroken
  /-- A title has a level and a trimmed text. -/
  title : ∀ h ∈ page.title, 1 ≤ h.level ∧ h.text.trim = h.text ∧ h.text ≠ []
  /-- The description is prose. -/
  description : ∀ line ∈ page.description, IsProseLine line
  /-- The two opening lines of a table begin with bars. -/
  table : ∀ t ∈ page.table, t.header.startsWith [cellBar] = true ∧
    t.separator.startsWith [cellBar] = true
  /-- The cells of a table are plain. -/
  cells : ∀ t ∈ page.table, ∀ row ∈ t.rows, IsPlainCell row.form ∧ IsPlainCell row.description
  /-- No line of code is a fence. -/
  code : ∀ code ∈ page.exampleCode, ∀ line ∈ code, isFence line = false
  /-- Without a title nothing looks like one. -/
  untitled : page.title = none → ∀ line ∈ page.lines, isHeading line = false
  /-- Without a description the related links do not come first. -/
  undescribed : page.description = [] →
    page.table.isSome = true ∨ page.exampleCode.isSome = true ∨ page.links = none
  /-- Without a table nothing behind the description looks like a row. -/
  untabled : page.table = none → ∀ line ∈ page.afterTable, isTableRow line = false
  /-- Without an example the related links hold none. -/
  unexampled : page.exampleCode = none → ¬HoldsExample page.linksZone
  /-- Related links open in no zone before theirs. -/
  linkless : ∀ line ∈ page.withoutLinks.lines, findRelatedLinks line = none

end CommandDocs.Page
