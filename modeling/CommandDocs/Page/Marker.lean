import CommandDocs.Text.Basic
import CommandDocs.Text.Blank

/-!
# Zone markers

A documentation page reads title, description, syntax table, example and
related links, in that order. This module names the marks by which a line
belongs to one of these zones. Blanks before a mark never matter.
-/

namespace CommandDocs.Page

/-- What a zone reader answers. -/
structure Reading (α : Type) where
  /-- The content of the zone, empty when the zone is missing. -/
  value : α
  /-- Index of the line at which the next reader starts. -/
  next : Nat
  deriving DecidableEq

/-- Three back-ticks open and close a block of code. -/
def codeFence : Text := "```"

/-- The label that announces the example. -/
def exampleLabel : Text := "**Example**"

/-- Two asterisks switch bold type on and off. -/
def boldMark : Text := "**"

/-- The bar that opens a table row and separates its cells. -/
def cellBar : CodePoint := '|'

/-- A heading line opens with a number sign. -/
def isHeading (line : Text) : Bool := line.trim.startsWith "#"

/-- A table row opens with a bar. -/
def isTableRow (line : Text) : Bool := line.trim.startsWith [cellBar]

/-- A fence line opens with a code fence; a language name may follow it. -/
def isFence (line : Text) : Bool := line.trim.startsWith codeFence

/-- The example label counts wherever it stands in its line. -/
def hasExampleLabel (line : Text) : Bool := Text.hasInfix exampleLabel line

/-- A paragraph of prose stops before a blank line and before the first line of
any later zone. -/
def endsParagraph (line : Text) : Bool :=
  line.isBlank || isTableRow line || isFence line || line.trim.startsWith exampleLabel

end CommandDocs.Page
