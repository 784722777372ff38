import CommandDocs.Json.Value
import CommandDocs.Number.Notation
import CommandDocs.Text.Quoted

/-!
# Displaying values

How a log shows a value to a reader: a text as it is, anything else as an
expression in which nested texts are quoted.
-/

namespace CommandDocs.Json

mutual

/-- A value as an expression. -/
def expression : Json → Text
  | .null => "None"
  | .bool true => "True"
  | .bool false => "False"
  | .int n => Text.ofInt n
  | .float x => NumberNotation.plain.write x
  | .text t => t.quote
  | .array items => "[" ++ Text.join ", " (itemExpressions items) ++ "]"
  | .object members => "\x7b" ++ Text.join ", " (memberExpressions members) ++ "\x7d"

/-- The expressions of the items of an array. -/
def itemExpressions : List Json → List Text
  | [] => []
  | item :: items => expression item :: itemExpressions items

/-- The expressions of the members of an object, each with its quoted name. -/
def memberExpressions : List (Text × Json) → List Text
  | [] => []
  | (name, value) :: members =>
    (Text.quote name ++ ": " ++ expression value) :: memberExpressions members

end

/-- The form that a log shows. -/
def display : Json → Text
  | .text t => t
  | value => expression value

end CommandDocs.Json
