import CommandDocs.Record.Basic
import CommandDocs.Text.Basic

/-!
# Validation

Reading records from JSON values. Declared members are checked in their order and
the first fault is reported with its place. Further members are taken as they are,
only their names must be without surrogates; this fault wins over all others.
-/

namespace CommandDocs

/-- The kinds of object that validation knows. -/
inductive RecordKind where
  /-- A command of the baseline. -/
  | baseline
  /-- A command with its documentation. -/
  | merged
  /-- One form of a command. -/
  | row
  deriving DecidableEq

/-- The name of a kind in messages. -/
def RecordKind.label : RecordKind → Text
  | baseline => "BaselineRecord"
  | merged => "MergedRecord"
  | row => "SyntaxRow"

/-- What can be wrong with a value. -/
inductive Defect where
  /-- A required member is not there. -/
  | missing
  /-- A string was expected. -/
  | notText
  /-- An array was expected. -/
  | notArray
  /-- An object of this kind was expected. -/
  | notObject (kind : RecordKind)
  /-- The name of a further member holds a surrogate. -/
  | notUnicode
  deriving DecidableEq

/-- The words for a defect. -/
def Defect.message : Defect → Text
  | missing => "Field required"
  | notText => "Input should be a valid string"
  | notArray => "Input should be a valid tuple"
  | notObject kind => "Input should be a valid dictionary or instance of " ++ kind.label
  | notUnicode => "Input should be a valid string, unable to parse raw data as a unicode string"

/-- A defect and where it is. -/
structure Invalid where
  /-- Names and positions that lead to the value, outermost first. -/
  location : List Text := []
  /-- What is wrong there. -/
  defect : Defect
  deriving DecidableEq

namespace Invalid

/-- The place, unless it is the record itself, and the defect. -/
def message (e : Invalid) : Text :=
  if e.location.isEmpty then e.defect.message
  else Text.join "." e.location ++ ": " ++ e.defect.message

/-- Place a fault inside the named part. -/
def inside (part : Text) (e : Invalid) : Invalid := { e with location := part :: e.location }

end Invalid

namespace Validation

/-- A string. -/
def readText : Json → Except Invalid Text
  | .text t => .ok t
  | _ => .error { defect := .notText }

/-- A member that must be a string. -/
def requiredText (members : Entries Text Json) (name : Text) : Except Invalid Text :=
  match members.find? name with
  | none => .error { location := [name], defect := .missing }
  | some value => (readText value).mapError (·.inside name)

/-- A member that is a string, or empty when it is not there. -/
def optionalText (members : Entries Text Json) (name : Text) : Except Invalid Text :=
  match members.find? name with
  | none => .ok []
  | some value => (readText value).mapError (·.inside name)

/-- The category: a string, null or nothing. -/
def readCategory (members : Entries Text Json) : Except Invalid Category :=
  match members.find? ("category" : Text) with
  | none => .ok .unset
  | some .null => .ok .none
  | some value => ((readText value).map Category.named).mapError (·.inside "category")

/-- One form of a command; further members of its object are dropped. -/
def readRow : Json → Except Invalid SyntaxRow
  | .object members => do
    let form ← requiredText members "syntax"
    let description ← requiredText members "description"
    .ok ⟨form, description⟩
  | _ => .error { defect := .notObject .row }

/-- The forms of a command, of which the first has the given position. -/
def readRowsFrom (position : Nat) : List Json → Except Invalid (List SyntaxRow)
  | [] => .ok []
  | item :: items => do
    let first ← (readRow item).mapError (·.inside (Text.ofNat position))
    let rest ← readRowsFrom (position + 1) items
    .ok (first :: rest)

/-- The member that lists the forms; without it there are none. -/
def readRows (members : Entries Text Json) : Except Invalid (List SyntaxRow) :=
  match members.find? ("syntax" : Text) with
  | none => .ok []
  | some (.array items) => (readRowsFrom 0 items).mapError (·.inside "syntax")
  | some _ => .error { location := ["syntax"], defect := .notArray }

/-- The members that are not among the declared ones. -/
def otherMembers (declared : List Text) (members : Entries Text Json) :
    Except Invalid (Entries Text Json) :=
  let others := members.filter fun member => !declared.contains member.1
  if others.any fun member => member.1.any CodePoint.isSurrogate then
    .error { defect := .notUnicode }
  else .ok others

end Validation

open Validation

/-- Read the declared members that both kinds of record have, with the given
further ones. -/
def BaselineRecord.ofMembers (members extras : Entries Text Json) :
    Except Invalid BaselineRecord := do
  let name ← requiredText members "name"
  let description ← requiredText members "description"
  let usage ← requiredText members "usage"
  let category ← readCategory members
  .ok { name, description, usage, category, extras }

/-- Read a baseline record. -/
def BaselineRecord.ofJson : Json → Except Invalid BaselineRecord
  | .object members => do
    let extras ← otherMembers BaselineRecord.declaredNames members
    BaselineRecord.ofMembers members extras
  | _ => .error { defect := .notObject .baseline }

/-- Read a merged record; documentation that is not there is empty. -/
def MergedRecord.ofJson : Json → Except Invalid MergedRecord
  | .object members => do
    let extras ← otherMembers MergedRecord.declaredNames members
    let base ← BaselineRecord.ofMembers members extras
    let markdown ← optionalText members "markdown"
    let summary ← optionalText members "summary"
    let rows ← readRows members
    let exampleCode ← optionalText members "example"
    .ok { base with markdown, summary, rows, exampleCode }
  | _ => .error { defect := .notObject .merged }

end CommandDocs
