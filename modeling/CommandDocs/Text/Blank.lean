import CommandDocs.Text.CodePoint

/-!
# Blanks

A blank is a code point with the Unicode property White_Space, or one of the
four information separators U+001C to U+001F. Trimming removes blanks from the
ends of a text and nothing else.
-/

namespace CommandDocs

/-- White space and the information separators. The zero-width characters
U+200B, U+2060 and U+FEFF and the former space U+180E are not blank. -/
def CodePoint.isBlank (c : CodePoint) : Bool :=
  let n := c.value
  (0x09 ≤ n && n ≤ 0x0D) || (0x1C ≤ n && n ≤ 0x20) || n == 0x85 || n == 0xA0 || n == 0x1680 ||
    (0x2000 ≤ n && n ≤ 0x200A) || n == 0x2028 || n == 0x2029 || n == 0x202F || n == 0x205F ||
    n == 0x3000

namespace Text

/-- Drop the leading code points that satisfy `p`. -/
def dropStartWhile (p : CodePoint → Bool) (t : Text) : Text := t.dropWhile p

/-- Drop the trailing code points that satisfy `p`. -/
def dropEndWhile (p : CodePoint → Bool) (t : Text) : Text := (t.reverse.dropWhile p).reverse

/-- Remove leading blanks. -/
def trimStart (t : Text) : Text := t.dropStartWhile CodePoint.isBlank

/-- Remove trailing blanks. -/
def trimEnd (t : Text) : Text := t.dropEndWhile CodePoint.isBlank

/-- Remove blanks from both ends. -/
def trim (t : Text) : Text := t.trimStart.trimEnd

/-- Every code point is blank; so is the empty text. -/
def isBlank (t : Text) : Bool := t.all CodePoint.isBlank

end Text

end CommandDocs
