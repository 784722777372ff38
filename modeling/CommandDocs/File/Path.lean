import CommandDocs.Text.Basic

/-!
# Paths

File paths as sequences of names. Reading a path drops empty names and single
dots; double dots stay until the path is resolved. Exactly two slashes at the
beginning are kept apart from one, as the standard for such paths allows.
-/

namespace CommandDocs

/-- Where a path begins. -/
inductive PathRoot where
  /-- At the working directory. -/
  | relative
  /-- At the root. -/
  | slash
  /-- At the root, written with two slashes. -/
  | doubleSlash
  deriving DecidableEq

/-- A path: a beginning and names, none of which is empty or a single dot when the
path was read from a text. -/
structure Path where
  /-- Where the path begins. -/
  root : PathRoot
  /-- The names along the path. -/
  parts : List Text
  deriving DecidableEq

namespace PathRoot

/-- The beginning of a text, by the number of its leading slashes. -/
def ofText (t : Text) : PathRoot :=
  match (t.takeWhile (· == CodePoint.scalar '/')).length with
  | 0 => relative
  | 2 => doubleSlash
  | _ => slash

/-- The slashes of a beginning. -/
def toText : PathRoot → Text
  | relative => []
  | slash => "/"
  | doubleSlash => "//"

end PathRoot

namespace Path

/-- A name that stands for the directory itself and is dropped. -/
def isVoid (part : Text) : Bool := part.isEmpty || part == ("." : Text)

/-- The name for the directory above. -/
def parentName : Text := ".."

/-- Read a path. -/
def ofText (t : Text) : Path :=
  ⟨PathRoot.ofText t, (t.splitOn (CodePoint.scalar '/')).filter (!isVoid ·)⟩

/-- Write a path; the empty relative path is a single dot. -/
def toText (p : Path) : Text :=
  if p.root = .relative ∧ p.parts = [] then "."
  else p.root.toText ++ Text.join "/" p.parts

/-- Does the path begin at the root? -/
def isAbsolute (p : Path) : Bool := p.root != .relative

/-- The last name, or nothing when there is none. -/
def name (p : Path) : Text := p.parts.getLast?.getD []

/-- The path without its last name. -/
def parent (p : Path) : Path := { p with parts := p.parts.dropLast }

/-- The path to an entry of this directory. -/
def child (p : Path) (name : Text) : Path := { p with parts := p.parts ++ [name] }

/-- Continue a path by a second one; an absolute second path stands on its own. -/
def join (p q : Path) : Path :=
  if q.isAbsolute then q else { p with parts := p.parts ++ q.parts }

/-- Split a name at its last dot into stem and suffix, the dot with the suffix. A
dot at either end of the name does not count. -/
def splitName (name : Text) : Text × Text :=
  let tail := name.reverse.takeWhile (· != CodePoint.scalar '.')
  match name.reverse.drop tail.length with
  | _ :: stem =>
    if tail.isEmpty || stem.isEmpty then (name, [])
    else (stem.reverse, .scalar '.' :: tail.reverse)
  | [] => (name, [])

/-- The last name without its suffix. -/
def stem (p : Path) : Text := (splitName p.name).1

/-- The suffix of the last name. -/
def suffix (p : Path) : Text := (splitName p.name).2

/-- Follow names from a directory given by its names from the root. Two dots lead
to the directory above; above the root there is only the root. -/
def climb (place : List Text) : List Text → List Text
  | [] => place
  | part :: rest =>
    if part = parentName then climb place.dropLast rest else climb (place ++ [part]) rest

/-- An absolute path without double dots that names the same place, when nothing
on the way is a link. -/
def resolve (p : Path) : Path := ⟨.slash, climb [] p.parts⟩

end Path

end CommandDocs
