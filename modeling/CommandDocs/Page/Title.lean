import CommandDocs.Page.Marker

/-!
# Titles

The title is the text of the first heading, of whatever level.
-/

namespace CommandDocs.Page

/-- The text of a heading line without its number signs and outer blanks. -/
def headingText (line : Text) : Text :=
  (line.trim.dropStartWhile (· == CodePoint.scalar '#')).trim

/-- Find the first heading at or after `start`. Reading goes on behind it, or at
`start` when no heading is left. -/
def findTitle (lines : List Text) (start : Nat) : Reading Text :=
  let rest := lines.drop start
  let before := rest.takeWhile (!isHeading ·)
  match rest.drop before.length with
  | [] => ⟨[], start⟩
  | heading :: _ => ⟨headingText heading, start + before.length + 1⟩

end CommandDocs.Page
