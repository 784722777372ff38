import CommandDocs.Json.Reader
import CommandDocs.Text.Utf8

/-!
# Writable values

Which JSON values are accepted for a file. Names of members must have a UTF-8 form,
and nesting is bounded. Numbers that JSON does not know become null. An integer with
more digits than are converted is found only when the text is made, and a surrogate in
a string only when the whole text is encoded.
-/

namespace CommandDocs

/-- Why something is not written. -/
inductive Unwritable where
  /-- A value is nested too deep. -/
  | tooDeep
  /-- A text holds surrogates. -/
  | surrogates (error : Utf8.EncodeError)
  deriving DecidableEq

/-- The report about something that is not written. -/
def Unwritable.message : Unwritable → Text
  | tooDeep => "Maximum serialization depth exceeded"
  | surrogates e => e.message

namespace Json

/-- A value that is written may hold values in one another up to this depth, itself
included. -/
def writableDepth : Nat := 255

/-- A text that is written has no surrogates. -/
def checkName (name : Text) : Except Unwritable Unit :=
  match Utf8.encode name with
  | .ok _ => .ok ()
  | .error e => .error (.surrogates e)

mutual

/-- Check a value of at most the given depth. The first fault in reading order is
reported. -/
def checkWritable (depth : Nat) (value : Json) : Except Unwritable Unit :=
  match depth, value with
  | 0, _ => .error .tooDeep
  | depth + 1, .array items => checkWritableItems depth items
  | depth + 1, .object members => checkWritableMembers depth members
  | _ + 1, _ => .ok ()

/-- Check the items of an array. -/
def checkWritableItems (depth : Nat) : List Json → Except Unwritable Unit
  | [] => .ok ()
  | item :: items => do
    checkWritable depth item
    checkWritableItems depth items

/-- Check the members of an object. -/
def checkWritableMembers (depth : Nat) : List (Text × Json) → Except Unwritable Unit
  | [] => .ok ()
  | (name, value) :: members => do
    checkName name
    checkWritable depth value
    checkWritableMembers depth members

end

mutual

/-- Replace every infinite or undefined number by null. -/
def finitePart : Json → Json
  | .float x => if x.isFinite then .float x else .null
  | .array items => .array (finiteItems items)
  | .object members => .object (finiteMembers members)
  | value => value

/-- The items of an array without infinite or undefined numbers. -/
def finiteItems : List Json → List Json
  | [] => []
  | item :: items => finitePart item :: finiteItems items

/-- The members of an object without infinite or undefined numbers. -/
def finiteMembers : List (Text × Json) → List (Text × Json)
  | [] => []
  | (name, value) :: members => (name, finitePart value) :: finiteMembers members

end

mutual

/-- Check that no integer in a value has more digits than are converted. -/
def checkDigits : Json → Except JsonError Unit
  | .int n =>
    if (Text.ofNat n.natAbs).length ≤ digitBound then .ok ()
    else .error (.tooManyDigits none)
  | .array items => checkDigitsOfItems items
  | .object members => checkDigitsOfMembers members
  | _ => .ok ()

/-- Check the integers in the items of an array. -/
def checkDigitsOfItems : List Json → Except JsonError Unit
  | [] => .ok ()
  | item :: items => do
    checkDigits item
    checkDigitsOfItems items

/-- Check the integers in the members of an object. -/
def checkDigitsOfMembers : List (Text × Json) → Except JsonError Unit
  | [] => .ok ()
  | (_, value) :: members => do
    checkDigits value
    checkDigitsOfMembers members

end

end Json

end CommandDocs
