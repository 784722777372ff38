import CommandDocs.Entries
import CommandDocs.Number.Binary64
import CommandDocs.Text.CodePoint

/-!
# JSON values

Values of the JSON data model with the distinctions that records keep: integers
of any size apart from floating point numbers, and object members in the order in
which they were written.
-/

namespace CommandDocs

/-- A JSON value. -/
inductive Json where
  /-- The null value. -/
  | null
  /-- A truth value. -/
  | bool (value : Bool)
  /-- A number written without fraction and exponent. -/
  | int (value : Int)
  /-- Any other number. -/
  | float (value : Binary64)
  /-- A string. -/
  | text (value : Text)
  /-- An array. -/
  | array (items : List Json)
  /-- An object; names are distinct when it was read from a text. -/
  | object (members : List (Text × Json))
  deriving Inhabited

end CommandDocs
