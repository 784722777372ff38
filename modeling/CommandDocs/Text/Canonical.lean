import CommandDocs.Text.CanonicalTable
import CommandDocs.Text.CodePoint

/-!
# Canonical composition

Normalization form C: decompose every code point, put combining marks into
canonical order, and compose what has a primary composite. Two spellings of a
file name that look the same become one.
-/

namespace CommandDocs

namespace CodePoint

/-- The canonical combining class; zero for a starter. -/
def combiningClass (c : CodePoint) : Nat :=
  match CanonicalTable.combiningClasses.find? fun r => r.1 ≤ c.value && c.value ≤ r.2.1 with
  | none => 0
  | some r => r.2.2

/-- First code points of the four series of the Hangul syllables. -/
def hangulSyllable : Nat := 0xAC00

/-- First leading consonant. -/
def hangulLead : Nat := 0x1100

/-- First vowel. -/
def hangulVowel : Nat := 0x1161

/-- The code point before the first trailing consonant. -/
def hangulTrail : Nat := 0x11A7

/-- The full canonical decomposition. A Hangul syllable splits by division into
its lead, vowel and trail. -/
def decompose (c : CodePoint) : Text :=
  let n := c.value
  if hangulSyllable ≤ n && n < hangulSyllable + 11172 then
    let index := n - hangulSyllable
    let lead := ofValue (hangulLead + index / 588)
    let vowel := ofValue (hangulVowel + index % 588 / 28)
    if index % 28 = 0 then [lead, vowel] else [lead, vowel, ofValue (hangulTrail + index % 28)]
  else match CanonicalTable.decompositions.find? (·.1 == n) with
    | none => [c]
    | some entry => entry.2.map ofValue

/-- The primary composite of two code points. -/
def compose? (a b : CodePoint) : Option CodePoint :=
  let m := a.value
  let n := b.value
  if hangulLead ≤ m && m < hangulLead + 19 && hangulVowel ≤ n && n < hangulVowel + 21 then
    some (ofValue (hangulSyllable + ((m - hangulLead) * 21 + (n - hangulVowel)) * 28))
  else if hangulSyllable ≤ m && m < hangulSyllable + 11172 && (m - hangulSyllable) % 28 == 0 &&
      hangulTrail < n && n < hangulTrail + 28 then
    some (ofValue (m + (n - hangulTrail)))
  else
    (CanonicalTable.composites.find? fun entry => entry.1 == m && entry.2.1 == n).map
      fun entry => ofValue entry.2.2

end CodePoint

namespace Text

/-- Put a code point before an ordered text, moving it behind the marks of a
lower class. -/
def insertMark (c : CodePoint) : Text → Text
  | [] => [c]
  | d :: rest =>
    if d.combiningClass < c.combiningClass && d.combiningClass != 0 then d :: insertMark c rest
    else c :: d :: rest

/-- Canonical order: runs of marks are sorted by class, equal classes kept in
their order. -/
def orderMarks : Text → Text
  | [] => []
  | c :: rest => insertMark c (orderMarks rest)

/-- Compose an ordered text behind a starter and the marks held back after it,
which are given in reverse. A mark is blocked from the starter when one held
back has its class or a higher one; a starter is blocked by any. -/
def composeBehind (starter : CodePoint) (held : Text) : Text → Text
  | [] => starter :: held.reverse
  | c :: rest =>
    let isFree := match held with
      | [] => true
      | last :: _ => last.combiningClass < c.combiningClass
    match if isFree then starter.compose? c else none with
    | some composite => composeBehind composite held rest
    | none =>
      if c.combiningClass = 0 then starter :: held.reverse ++ composeBehind c [] rest
      else composeBehind starter (c :: held) rest

/-- Normalization form C. -/
def normalize (t : Text) : Text :=
  match orderMarks (t.flatMap CodePoint.decompose) with
  | [] => []
  | c :: rest => composeBehind c [] rest

end Text

end CommandDocs
