import CommandDocs.Text.Basic
import CommandDocs.Text.Blank

/-!
# Related links

A page may end in a block of related links. The block opens with the phrase
"See Also" in bold, in a heading, or alone on its line; the phrase is compared
without regard to case. The body of a page is its text before the first such
opening.
-/

namespace CommandDocs.Page

/-- Spaces and tabs, the only blanks inside an opening. -/
def isSpaceOrTab (c : CodePoint) : Bool := c == .scalar ' ' || c == .scalar '\t'

/-- The spellings of each character of the phrase "See Also". The long s
U+017F is a lower case form of S. -/
def linksPhrase : List (List Char) :=
  [['S', 's', 'ſ'], ['E', 'e'], ['E', 'e'], [' '], ['A', 'a'], ['L', 'l'], ['S', 's', 'ſ'],
    ['O', 'o']]

/-- Read a sequence of characters, each in one of its spellings, and give what
follows it. -/
def dropSpelling : List (List Char) → Text → Option Text
  | [], rest => some rest
  | choices :: more, .scalar c :: rest => if c ∈ choices then dropSpelling more rest else none
  | _ :: _, _ => none

/-- Read blanks and then the phrase, and give what follows. -/
def dropPhrase (t : Text) : Option Text := dropSpelling linksPhrase (t.dropWhile isSpaceOrTab)

/-- Bold type, then the phrase. -/
def opensBold : Text → Bool
  | .scalar '*' :: .scalar '*' :: rest => (dropPhrase rest).isSome
  | _ => false

/-- A heading of level one to six, then the phrase. -/
def opensHeading (t : Text) : Bool :=
  let signs := (t.take 7).takeWhile (· == CodePoint.scalar '#')
  1 ≤ signs.length && signs.length ≤ 6 && (dropPhrase (t.drop signs.length)).isSome

/-- Nothing but an optional carriage return is left of the line. -/
def atLineEnd : Text → Bool
  | [] => true
  | [.scalar '\r'] => true
  | .scalar '\r' :: .scalar '\n' :: _ => true
  | c :: _ => c == .scalar '\n'

/-- The phrase fills the rest of the line, a colon behind it allowed. -/
def fillsLine (t : Text) : Bool :=
  match dropPhrase t with
  | none => false
  | some rest =>
    match rest.dropWhile isSpaceOrTab with
    | .scalar ':' :: behind => atLineEnd (behind.dropWhile isSpaceOrTab)
    | other => atLineEnd other

/-- Does a block of related links open at the beginning of the text? The third
form needs the beginning to be that of a line. -/
def opensLinks (atLineStart : Bool) (t : Text) : Bool :=
  opensBold t || opensHeading t || (atLineStart && fillsLine t)

/-- Position of the first opening in a text that begins at a line start or not. -/
def findOpening (atLineStart : Bool) : Text → Option Nat
  | [] => none
  | c :: rest =>
    if opensLinks atLineStart (c :: rest) then some 0
    else (findOpening (c == .scalar '\n') rest).map (· + 1)

/-- Position at which the block of related links opens. -/
def findRelatedLinks (t : Text) : Option Nat := findOpening true t

/-- The text before the related links, trimmed; a text without them as it is. -/
def withoutRelatedLinks (t : Text) : Text :=
  match findRelatedLinks t with
  | none => t
  | some i => Text.trim (t.take i)

end CommandDocs.Page
