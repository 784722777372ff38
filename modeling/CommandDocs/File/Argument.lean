import CommandDocs.File.Path
import CommandDocs.Text.Canonical

/-!
# Path arguments

From an argument of the command line to an absolute path. A tilde stands for the
home directory and an at sign for the directory of the program; slashes and
backslashes separate names alike. Forms that would mean different places on
different systems are refused.
-/

namespace CommandDocs

/-- The directories against which arguments are read. -/
structure ArgumentRoots where
  /-- What an at sign stands for. -/
  program : Path
  /-- What a tilde stands for. -/
  home : Path
  /-- Where relative paths begin. -/
  base : Path

/-- Why an argument is refused. -/
inductive ArgumentFault where
  /-- The directory of the program is not known by an absolute path. -/
  | relativeProgram
  /-- The named argument holds the character U+0000. -/
  | nul (option : Text)
  /-- The named argument begins at a drive or root that depends on the system. -/
  | halfQualified (option raw : Text)
  /-- The named argument begins in the home directory of someone unknown. -/
  | unknownHome (option raw : Text)
  deriving DecidableEq

/-- The report about a refused argument. -/
def ArgumentFault.message : ArgumentFault → Text
  | relativeProgram => "app_root_abs must be an absolute path."
  | nul option => option ++ " contains a NUL (\\0) character."
  | halfQualified option raw =>
    option ++ " uses an unsupported Windows rooted-not-qualified form (\\name or C:name): " ++ raw
  | unknownHome option raw => option ++ ": failed to expand user home in " ++ raw

namespace Argument

/-- Slash and backslash. -/
def isSeparator (c : CodePoint) : Bool := c == .scalar '/' || c == .scalar '\\'

/-- Replace every run of separators by one slash. -/
def unifySeparators : Text → Text
  | [] => []
  | c :: rest =>
    if isSeparator c then .scalar '/' :: (unifySeparators rest).dropWhile isSeparator
    else c :: unifySeparators rest

/-- A single backslash at the beginning, or a drive letter whose colon is followed
by something other than a separator. -/
def isHalfQualified : Text → Bool
  | .scalar '\\' :: rest => !Text.startsWith rest "\\"
  | drive :: .scalar ':' :: next :: _ => drive.isLetter && !isSeparator next
  | _ => false

/-- The path in the home directory that a text beginning with a tilde names. -/
def expandHome (home : Path) (t : Text) : Option Path :=
  match (Path.ofText (unifySeparators t)).parts with
  | first :: rest =>
    if first = ("~" : Text) then some { home with parts := home.parts ++ rest } else none
  | [] => none

/-- The path below the directory of the program that the text behind an at sign
names. -/
def expandProgram (program : Path) (t : Text) : Path :=
  { program with parts := program.parts ++ (Path.ofText (unifySeparators t)).parts }

/-- Expand the sign at the beginning of an argument; without one it is a path as it
stands. -/
def expand (roots : ArgumentRoots) (t : Text) : Option Path :=
  if t.startsWith "~" then expandHome roots.home t
  else if t.startsWith "@" then some (expandProgram roots.program (t.drop 1))
  else some (Path.ofText (unifySeparators t))

/-- The absolute path that an argument names. -/
def toPath (roots : ArgumentRoots) (option raw : Text) : Except ArgumentFault Path :=
  let t := raw.normalize
  if !roots.program.isAbsolute then .error .relativeProgram
  else if t.contains (CodePoint.scalar '\x00') then .error (.nul option)
  else if isHalfQualified t then .error (.halfQualified option raw)
  else match expand roots t with
    | none => .error (.unknownHome option raw)
    | some p => .ok (roots.base.join p).resolve

end Argument

end CommandDocs
