import CommandDocs.Json.Writable
import CommandDocs.Page.SyntaxTable

/-!
# Command records

What is known about a command. A baseline record comes from a list kept by hand; a
merged record adds the documentation of a page. Both keep every further member of
the object they were read from, in order.
-/

namespace CommandDocs

/-- The category of a command. A record that has none differs from one in which
the member is missing, and both are written back as they were read. -/
inductive Category where
  /-- The record does not mention a category. -/
  | unset
  /-- The category is null. -/
  | none
  /-- The category with this label. -/
  | named (label : Text)
  deriving DecidableEq

/-- Basic metadata of one command. -/
structure BaselineRecord where
  /-- Name of the command, by which pages and look-ups find it. -/
  name : Text
  /-- What the command does. -/
  description : Text
  /-- How the command is called. -/
  usage : Text
  /-- The group to which the command belongs. -/
  category : Category := .unset
  /-- All further members, in order. -/
  extras : Entries Text Json := []

/-- A command with its documentation. -/
structure MergedRecord extends BaselineRecord where
  /-- The documentation page. -/
  markdown : Text := []
  /-- The command in one line. -/
  summary : Text := []
  /-- The forms of the command. -/
  rows : List SyntaxRow := []
  /-- The code of an example. -/
  exampleCode : Text := []

/-- The written form of one form of a command. -/
def SyntaxRow.toJson (row : SyntaxRow) : Json :=
  .object [("syntax", .text row.form), ("description", .text row.description)]

/-- The member for a category, when there is one. -/
def Category.members : Category → Entries Text Json
  | unset => []
  | none => [("category", .null)]
  | named label => [("category", .text label)]

namespace BaselineRecord

/-- The declared members of a baseline object, in order. -/
def declaredNames : List Text := ["name", "description", "usage", "category"]

/-- The declared members that a record has. -/
def declaredMembers (r : BaselineRecord) : Entries Text Json :=
  ("name", .text r.name) :: ("description", .text r.description) :: ("usage", .text r.usage) ::
    r.category.members

/-- The object that a record stands for. -/
def toJson (r : BaselineRecord) : Json := .object (r.declaredMembers ++ r.extras)

end BaselineRecord

namespace MergedRecord

/-- The members that documentation adds, in order. -/
def documentationNames : List Text := ["markdown", "summary", "syntax", "example"]

/-- The declared members of a merged object, in order. -/
def declaredNames : List Text := BaselineRecord.declaredNames ++ documentationNames

/-- The documentation of a record. -/
def documentationMembers (r : MergedRecord) : Entries Text Json :=
  [("markdown", .text r.markdown), ("summary", .text r.summary),
    ("syntax", .array (r.rows.map SyntaxRow.toJson)), ("example", .text r.exampleCode)]

/-- The object that a record stands for: declared members first, then the further
ones. -/
def toJson (r : MergedRecord) : Json :=
  .object (r.declaredMembers ++ r.documentationMembers ++ r.extras)

/-- The object that is written to a file, in which numbers that JSON does not know
have become null. Only the further members can be such that it is not written. -/
def payload (r : MergedRecord) : Except Unwritable Json := do
  Json.checkWritableMembers Json.writableDepth r.extras
  .ok r.toJson.finitePart

end MergedRecord

end CommandDocs
