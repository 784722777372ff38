import CommandDocs.Text.CodePoint

/-!
# Lines

A text read as lines. Every character that Unicode calls a mandatory break ends
a line, `\r\n` counts once, and a break at the very end opens no further line.
Reading a file as text first turns the carriage return into a plain newline.
-/

namespace CommandDocs

/-- The characters that end a line: newline, vertical tab, form feed, carriage
return, the separators U+001C to U+001E, next line, and the line and paragraph
separators. -/
def CodePoint.isLineBreak (c : CodePoint) : Bool :=
  let n := c.value
  (0x0A ≤ n && n ≤ 0x0D) || (0x1C ≤ n && n ≤ 0x1E) || n == 0x85 || n == 0x2028 || n == 0x2029

namespace Text

/-- The lines of a text without their breaks. -/
def lines : Text → List Text
  | [] => []
  | .scalar '\r' :: .scalar '\n' :: rest => [] :: lines rest
  | c :: rest =>
    if c.isLineBreak then [] :: lines rest
    else match lines rest with
      | [] => [[c]]
      | line :: others => (c :: line) :: others

/-- Replace `\r\n` and each remaining `\r` by `\n`. -/
def unifyNewlines : Text → Text
  | [] => []
  | .scalar '\r' :: .scalar '\n' :: rest => .scalar '\n' :: unifyNewlines rest
  | .scalar '\r' :: rest => .scalar '\n' :: unifyNewlines rest
  | c :: rest => c :: unifyNewlines rest

end Text

end CommandDocs
