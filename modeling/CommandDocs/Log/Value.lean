import CommandDocs.File.Path
import CommandDocs.Json.Display

/-!
# Values of log fields

A log field holds a JSON value, a path, anything that is known only by its text,
or a list or table of these. Each becomes a JSON value before it is logged.
-/

namespace CommandDocs

/-- A key of a table in a log field. -/
inductive LogKey where
  /-- The null value. -/
  | null
  /-- A truth value. -/
  | bool (value : Bool)
  /-- An integer. -/
  | int (value : Int)
  /-- A floating point number. -/
  | float (value : Binary64)
  /-- A text. -/
  | text (value : Text)
  /-- A path. -/
  | path (value : Path)
  /-- An error, known by its text. -/
  | error (shown : Text)
  /-- Several keys as one. -/
  | tuple (items : List LogKey)
  deriving Inhabited

namespace LogKey

-- powers are those of the core library, whatever else is imported
attribute [local instance (1100)] instPowNat

mutual

/-- The key as an expression. -/
def expression : LogKey → Text
  | .null => Json.expression .null
  | .bool b => Json.expression (.bool b)
  | .int n => Json.expression (.int n)
  | .float x => Json.expression (.float x)
  | .text t => Json.expression (.text t)
  | .path p => "PosixPath(" ++ Text.quote p.toText ++ ")"
  | .error shown => "ValueError(" ++ Text.quote shown ++ ")"
  | .tuple [item] => "(" ++ expression item ++ ",)"
  | .tuple items => "(" ++ Text.join ", " (expressions items) ++ ")"

/-- The expressions of the keys in a tuple. -/
def expressions : List LogKey → List Text
  | [] => []
  | item :: items => expression item :: expressions items

end

/-- The integer that a number is equal to, if there is one. -/
def integerOf? : Binary64 → Option Int
  | .finite negative mantissa exponent _ =>
    let n := mantissa * 2 ^ exponent.toNat
    let d := 2 ^ (-exponent).toNat
    if n % d = 0 then some (if negative then -(n / d : Nat) else (n / d : Nat)) else none
  | _ => none

/-- The integer that a key is equal to, if there is one. Truth values count as zero
and one. -/
def asInteger? : LogKey → Option Int
  | .bool b => some (if b then 1 else 0)
  | .int n => some n
  | .float x => integerOf? x
  | _ => none

mutual

/-- Do two keys compare equal? Numbers do by their value, an error with no other. -/
def same : LogKey → LogKey → Bool
  | .null, .null => true
  | .text t, .text u => t == u
  | .path p, .path q => p == q
  | .tuple items, .tuple others => sameItems items others
  | .float x, .float y => x == y || (integerOf? x).isSome && integerOf? x == integerOf? y
  | key, other => (asInteger? key).isSome && asInteger? key == asInteger? other

/-- Do two tuples hold keys that compare equal, place by place? -/
def sameItems : List LogKey → List LogKey → Bool
  | [], [] => true
  | item :: items, other :: others => same item other && sameItems items others
  | _, _ => false

end

/-- The name of the key in a JSON object. -/
def toText : LogKey → Text
  | .text t => t
  | .path p => p.toText
  | .error shown => shown
  | key => expression key

end LogKey

/-- A value of a log field. -/
inductive LogValue where
  /-- The null value. -/
  | null
  /-- A truth value. -/
  | bool (value : Bool)
  /-- An integer. -/
  | int (value : Int)
  /-- A floating point number. -/
  | float (value : Binary64)
  /-- A text. -/
  | text (value : Text)
  /-- A path, logged by its text. -/
  | path (value : Path)
  /-- Anything else, by the text that shows it. -/
  | other (shown : Text)
  /-- A list. -/
  | list (items : List LogValue)
  /-- A table, in which no two keys compare equal. -/
  | table (entries : List (LogKey × LogValue))
  deriving Inhabited

namespace LogValue

/-- Write to a table. A key that compares equal to a known one writes to it. -/
def putKey (key : LogKey) (value : LogValue) :
    List (LogKey × LogValue) → List (LogKey × LogValue)
  | [] => [(key, value)]
  | (first, old) :: rest =>
    if first.same key then (first, value) :: rest else (first, old) :: putKey key value rest

/-- The table that results from writing pairs in order. -/
def tableOf (pairs : List (LogKey × LogValue)) : LogValue :=
  .table (pairs.foldl (fun entries pair => putKey pair.1 pair.2 entries) [])

mutual

/-- The JSON value that is logged. Keys of a table become names; of keys that
become the same name the last gives the value. -/
def toJson : LogValue → Json
  | .null => .null
  | .bool b => .bool b
  | .int n => .int n
  | .float x => .float x
  | .text t => .text t
  | .path p => .text p.toText
  | .other shown => .text shown
  | .list items => .array (itemsToJson items)
  | .table entries => .object (Entries.ofPairs (entriesToJson entries))

/-- The JSON values of the items of a list. -/
def itemsToJson : List LogValue → List Json
  | [] => []
  | item :: items => toJson item :: itemsToJson items

/-- The names and JSON values of the entries of a table. -/
def entriesToJson : List (LogKey × LogValue) → List (Text × Json)
  | [] => []
  | (key, value) :: entries => (key.toText, toJson value) :: entriesToJson entries

end

end LogValue

end CommandDocs
