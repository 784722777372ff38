import CommandDocs.Json.Value
import CommandDocs.Number.Notation

/-!
# Writing JSON

One writer for two layouts: a compact one on a single line for log messages, and
an indented one for files. Only what JSON cannot hold inside a string is escaped.
-/

namespace CommandDocs.Json

/-- The blanks of a written text. -/
structure Layout where
  /-- What stands before an item, and before a closing bracket, at a depth. -/
  gap : Nat → Text
  /-- What stands behind the colon of a member. -/
  behindColon : Text

/-- No blanks at all. -/
def Layout.compact : Layout := ⟨fun _ => [], []⟩

/-- Every item on a line of its own, indented by two spaces for each level. -/
def Layout.indented : Layout :=
  ⟨fun depth => .scalar '\n' :: List.replicate (2 * depth) (.scalar ' '), " "⟩

/-- The form of a code point inside a string. -/
def escape (c : CodePoint) : Text :=
  if c = .scalar '\x22' then "\\\""
  else if c = .scalar '\\' then "\\\\"
  else if c = .scalar '\n' then "\\n"
  else if c = .scalar '\r' then "\\r"
  else if c = .scalar '\t' then "\\t"
  else if c = .scalar '\x0c' then "\\f"
  else if c = .scalar '\x08' then "\\b"
  else if c.value < 0x20 then "\\u" ++ Text.ofNatHex 4 c.value
  else [c]

/-- A string with its quotes. -/
def writeText (t : Text) : Text := .scalar '\x22' :: t.flatMap escape ++ [.scalar '\x22']

mutual

/-- Write a value at a depth. -/
def writeAt (layout : Layout) (depth : Nat) : Json → Text
  | .null => "null"
  | .bool true => "true"
  | .bool false => "false"
  | .int n => Text.ofInt n
  | .float x => NumberNotation.json.write x
  | .text t => writeText t
  | .array [] => "[]"
  | .array (item :: items) =>
    "[" ++ layout.gap (depth + 1) ++ writeAt layout (depth + 1) item ++
      writeItemsAt layout (depth + 1) items ++ layout.gap depth ++ "]"
  | .object [] => "\x7b\x7d"
  | .object ((name, value) :: members) =>
    "\x7b" ++ layout.gap (depth + 1) ++ writeText name ++ ":" ++ layout.behindColon ++
      writeAt layout (depth + 1) value ++ writeMembersAt layout (depth + 1) members ++
      layout.gap depth ++ "\x7d"

/-- Write the items behind the first one. -/
def writeItemsAt (layout : Layout) (depth : Nat) : List Json → Text
  | [] => []
  | item :: items =>
    "," ++ layout.gap depth ++ writeAt layout depth item ++ writeItemsAt layout depth items

/-- Write the members behind the first one. -/
def writeMembersAt (layout : Layout) (depth : Nat) : List (Text × Json) → Text
  | [] => []
  | (name, value) :: members =>
    "," ++ layout.gap depth ++ writeText name ++ ":" ++ layout.behindColon ++
      writeAt layout depth value ++ writeMembersAt layout depth members

end

/-- Write a value on its own. -/
def write (layout : Layout) (value : Json) : Text := writeAt layout 0 value

end CommandDocs.Json
