import CommandDocs.Text.CaseTable
import CommandDocs.Text.CodePoint

/-!
# Lower case

The full Unicode mapping to lower case. All but two code points map on their
own: the capital I with a dot becomes two code points, and a capital sigma has
its final form at the end of a word.
-/

namespace CommandDocs

namespace CodePoint

/-- Punctuation and marks inside a word that the search for its end skips. -/
def isCaseIgnorable (c : CodePoint) : Bool :=
  CaseTable.caseIgnorable.any fun range => range.1 ≤ c.value && c.value ≤ range.2

/-- A letter that has case and is not skipped. -/
def isCased (c : CodePoint) : Bool :=
  CaseTable.cased.any fun range => range.1 ≤ c.value && c.value ≤ range.2

/-- The lower case form of a code point outside of any context. -/
def lower (c : CodePoint) : Text :=
  if c.value = 0x130 then [.scalar 'i', ofValue 0x307]
  else
    let covers (s : CaseTable.Shift) : Bool :=
      s.first ≤ c.value && c.value ≤ s.last && (c.value - s.first) % s.step == 0
    match CaseTable.shifts.find? covers with
    | none => [c]
    | some s => [ofValue ((c.value : Int) + s.shift).toNat]

end CodePoint

namespace Text

/-- Is the first code point that is not skipped a cased letter? -/
def meetsCased (t : Text) : Bool :=
  match t.dropWhile CodePoint.isCaseIgnorable with
  | [] => false
  | c :: _ => c.isCased

/-- Lower case form of the second text, which stands behind the first; the first
is given in reverse, so that both begin at the place where they meet. -/
def lowerBehind (before : Text) : Text → Text
  | [] => []
  | c :: rest =>
    let form := if c.value = 0x3A3 && meetsCased before && !meetsCased rest
      then [CodePoint.ofValue 0x3C2] else c.lower
    form ++ lowerBehind (c :: before) rest

/-- The lower case form of a text. -/
def lower (t : Text) : Text := lowerBehind [] t

end Text

end CommandDocs
