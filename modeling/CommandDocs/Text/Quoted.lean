import CommandDocs.Text.Basic
import CommandDocs.Text.Printable

/-!
# Quoted text

A text in quotation marks, on one line, with everything that cannot be printed
shown by an escape. Single quotes are the rule; double quotes are taken when that
saves an escape.
-/

namespace CommandDocs.Text

/-- The quotation mark for a text: double when it holds single ones only. -/
def quotationMark (t : Text) : CodePoint :=
  if t.contains (CodePoint.scalar '\x27') && !t.contains (CodePoint.scalar '\x22')
  then .scalar '\x22' else .scalar '\x27'

/-- The form of a code point between quotation marks. -/
def quotedForm (mark c : CodePoint) : Text :=
  if c = mark || c = .scalar '\\' then [.scalar '\\', c]
  else if c = .scalar '\n' then "\\n"
  else if c = .scalar '\r' then "\\r"
  else if c = .scalar '\t' then "\\t"
  else if c.isPrintable then [c]
  else if c.value < 0x100 then "\\x" ++ ofNatHex 2 c.value
  else if c.value < 0x10000 then "\\u" ++ ofNatHex 4 c.value
  else "\\U" ++ ofNatHex 8 c.value

/-- The text between quotation marks. -/
def quote (t : Text) : Text :=
  let mark := quotationMark t
  mark :: t.flatMap (quotedForm mark) ++ [mark]

end CommandDocs.Text
