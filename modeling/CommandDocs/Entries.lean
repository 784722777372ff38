/-!
# Entries

A table of values under keys that remembers in which order the keys came in.
Writing to a key that is already there replaces its value and keeps its place.
-/

namespace CommandDocs

/-- Values under keys, in order of the first appearance of each key. -/
abbrev Entries (κ α : Type) := List (κ × α)

namespace Entries

variable {κ α : Type}

/-- The keys in order. -/
def keys (entries : Entries κ α) : List κ := entries.map (·.1)

variable [DecidableEq κ]

/-- The value under a key. -/
def find? (key : κ) : Entries κ α → Option α
  | [] => none
  | (first, value) :: rest => if first = key then some value else find? key rest

/-- Write a value, in place when the key is known and at the end otherwise. -/
def put (key : κ) (value : α) : Entries κ α → Entries κ α
  | [] => [(key, value)]
  | (first, old) :: rest =>
    if first = key then (first, value) :: rest else (first, old) :: put key value rest

/-- Write pairs one after the other: a key has its last value in its first place. -/
def ofPairs (pairs : List (κ × α)) : Entries κ α :=
  pairs.foldl (fun entries pair => put pair.1 pair.2 entries) []

end Entries

end CommandDocs
