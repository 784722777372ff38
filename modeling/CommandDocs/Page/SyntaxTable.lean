import CommandDocs.Page.Marker

/-!
# Syntax tables

The first run of table rows on a page lists the forms of a command. Its first
two rows are the header and the separator; each further row with two usable
cells gives one form and what it does.
-/

namespace CommandDocs

/-- One form of a command. -/
structure SyntaxRow where
  /-- How the command is written. -/
  form : Text
  /-- What this form does. -/
  description : Text
  deriving DecidableEq

namespace Page

/-- Find the first run of table rows at or after `start`. Reading goes on behind
the run, or at `start` when no row is left. -/
def findTableBlock (lines : List Text) (start : Nat) : Reading (Option (List Text)) :=
  let rest := lines.drop start
  let before := rest.takeWhile (!isTableRow ·)
  match (rest.drop before.length).takeWhile isTableRow with
  | [] => ⟨none, start⟩
  | block => ⟨some block, start + before.length + block.length⟩

/-- The cells of a row that are not blank, without outer blanks. -/
def cells (line : Text) : List Text :=
  ((line.splitOn cellBar).filter (!·.isBlank)).map (·.trim)

/-- Remove each pair of asterisks, pairing them from the left. -/
def withoutPairedAsterisks : Text → Text
  | [] => []
  | .scalar '*' :: .scalar '*' :: rest => withoutPairedAsterisks rest
  | c :: rest => c :: withoutPairedAsterisks rest

/-- A cell without bold marks. -/
def plainCell (cell : Text) : Text := (withoutPairedAsterisks cell).trim

/-- The form on one data row; cells past the second are ignored, and a row with
fewer than two is no form. -/
def syntaxRow? (line : Text) : Option SyntaxRow :=
  match cells line with
  | form :: description :: _ => some ⟨plainCell form, plainCell description⟩
  | _ => none

/-- The forms on a block of table rows, without its header and separator. -/
def syntaxRows (block : List Text) : List SyntaxRow := (block.drop 2).filterMap syntaxRow?

end Page

end CommandDocs
