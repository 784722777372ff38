import CommandDocs.Entries
import CommandDocs.File.Path
import CommandDocs.Text.Quoted
import CommandDocs.Text.Utf8

/-!
# Files and directories

A tree of files and directories as a value, and the operations on it with the
faults that they meet. A path is followed name by name from the root or from the
working directory, and each name has to be there before the next one is looked at.
-/

namespace CommandDocs

/-- Why an operation on a file fails. -/
inductive FileFault where
  /-- Something on the path is not there. -/
  | missing
  /-- What was to be made is there already. -/
  | alreadyExists
  /-- Something on the path is a file but is used as a directory. -/
  | notDirectory
  /-- A directory is used as a file. -/
  | isDirectory
  /-- A name or the whole path is too long. -/
  | nameTooLong
  /-- The path holds the character U+0000, with which no name can be told to the
  system. -/
  | nul
  deriving DecidableEq

namespace FileFault

/-- The number of a fault in reports. What was never told to the system has none. -/
def number? : FileFault → Option Nat
  | missing => some 2
  | alreadyExists => some 17
  | notDirectory => some 20
  | isDirectory => some 21
  | nameTooLong => some 36
  | nul => none

/-- The words for a fault. -/
def words : FileFault → Text
  | missing => "No such file or directory"
  | alreadyExists => "File exists"
  | notDirectory => "Not a directory"
  | isDirectory => "Is a directory"
  | nameTooLong => "File name too long"
  | nul => "embedded null byte"

end FileFault

/-- A fault and the path of the operation that met it. -/
structure FileError where
  /-- What went wrong. -/
  fault : FileFault
  /-- The path that was given. -/
  path : Path
  deriving DecidableEq

/-- The report about a failed operation. The path is told with the faults that have
a number. -/
def FileError.message (e : FileError) : Text :=
  match e.fault.number? with
  | some number =>
    "[Errno " ++ Text.ofNat number ++ "] " ++ e.fault.words ++ ": " ++ e.path.toText.quote
  | none => e.fault.words

/-- What a place holds. -/
inductive Node where
  /-- A file and its bytes. -/
  | file (content : Bytes)
  /-- A directory; its entries are the places one name further on. -/
  | directory
  deriving DecidableEq

/-- A place: the names that lead to it from the root. -/
abbrev Place := List Text

/-- Files and directories below the root. -/
structure FileSystem where
  /-- The places that hold something, each once, the root left out. -/
  nodes : Entries Place Node
  /-- Where relative paths begin. -/
  workingDirectory : Place
  deriving DecidableEq

namespace FileSystem

/-- The longest name, in bytes. -/
def nameBound : Nat := 255

/-- The longest path, in bytes. -/
def pathBound : Nat := 4095

/-- Length of a text in bytes. -/
def byteLength (t : Text) : Nat := (t.flatMap Utf8.bytesOf).length

/-- The node at a place; the root is always a directory. -/
def node? (fs : FileSystem) (place : Place) : Option Node :=
  if place = [] then some .directory else fs.nodes.find? place

/-- Put a node at a place, instead of the one that is there. -/
def setNode (fs : FileSystem) (place : Place) (node : Node) : FileSystem :=
  { fs with nodes := fs.nodes.put place node }

/-- Take away everything at and below a place. -/
def erase (fs : FileSystem) (place : Place) : FileSystem :=
  { fs with nodes := fs.nodes.filter fun entry => !place.isPrefixOf entry.1 }

/-- The names of the entries of a directory. -/
def childNames (fs : FileSystem) (place : Place) : List Text :=
  fs.nodes.filterMap fun entry =>
    if entry.1.dropLast == place then entry.1.getLast? else none

/-- Where a path leads. -/
inductive Target where
  /-- To something. -/
  | present (place : Place) (node : Node)
  /-- To a free place in a directory. -/
  | absent (place : Place)
  deriving DecidableEq

/-- Follow names from a place. Only the last of them may be absent. -/
def follow (fs : FileSystem) (place : Place) : List Text → Except FileFault Target
  | [] =>
    match fs.node? place with
    | some node => .ok (.present place node)
    | none => .error .missing
  | part :: rest =>
    match fs.node? place with
    | none => .error .missing
    | some (.file _) => .error .notDirectory
    | some .directory =>
      if part = Path.parentName then follow fs place.dropLast rest
      else if nameBound < byteLength part then .error .nameTooLong
      else if (fs.node? (place ++ [part])).isNone && rest.isEmpty then
        .ok (.absent (place ++ [part]))
      else follow fs (place ++ [part]) rest

/-- Where a path begins. -/
def origin (fs : FileSystem) (p : Path) : Place :=
  if p.isAbsolute then [] else fs.workingDirectory

/-- Follow a path. -/
def locate (fs : FileSystem) (p : Path) : Except FileError Target :=
  let target : Except FileFault Target :=
    if p.parts.any (·.contains (CodePoint.scalar '\x00')) then .error .nul
    else if pathBound < byteLength p.toText then .error .nameTooLong
    else fs.follow (fs.origin p) p.parts
  target.mapError (⟨·, p⟩)

/-- The node a path leads to, if any. A path that breaks off leads nowhere; only
one that is too long is an error. -/
def nodeAt? (fs : FileSystem) (p : Path) : Except FileError (Option Node) :=
  match fs.locate p with
  | .ok (.present _ node) => .ok (some node)
  | .ok (.absent _) => .ok none
  | .error e => if e.fault = .nameTooLong then .error e else .ok none

/-- Is there anything at the path? -/
def pathExists (fs : FileSystem) (p : Path) : Except FileError Bool :=
  (fs.nodeAt? p).map (·.isSome)

/-- Is there a directory at the path? -/
def isDirectory (fs : FileSystem) (p : Path) : Except FileError Bool :=
  (fs.nodeAt? p).map (· == some .directory)

/-- Is there a file at the path? -/
def isFile (fs : FileSystem) (p : Path) : Except FileError Bool :=
  (fs.nodeAt? p).map fun
    | some (.file _) => true
    | _ => false

/-- Those of the paths at which there is a file. -/
def filesAmong (fs : FileSystem) : List Path → Except FileError (List Path)
  | [] => .ok []
  | p :: rest => do
    let isFile ← fs.isFile p
    let files ← fs.filesAmong rest
    .ok (if isFile then p :: files else files)

/-- The bytes of a file. -/
def readFile (fs : FileSystem) (p : Path) : Except FileError Bytes := do
  match ← fs.locate p with
  | .present _ (.file content) => .ok content
  | .present _ .directory => .error ⟨.isDirectory, p⟩
  | .absent _ => .error ⟨.missing, p⟩

/-- The paths of the entries of a directory. -/
def listDirectory (fs : FileSystem) (p : Path) : Except FileError (List Path) := do
  match ← fs.locate p with
  | .present place .directory => .ok ((fs.childNames place).map p.child)
  | .present _ (.file _) => .error ⟨.notDirectory, p⟩
  | .absent _ => .error ⟨.missing, p⟩

/-- Give a file new content, which may depend on the old one; a file that is not
there is made. -/
def updateFile (fs : FileSystem) (p : Path) (change : Bytes → Bytes) :
    Except FileError FileSystem := do
  match ← fs.locate p with
  | .present place (.file content) => .ok (fs.setNode place (.file (change content)))
  | .present _ .directory => .error ⟨.isDirectory, p⟩
  | .absent place => .ok (fs.setNode place (.file (change [])))

/-- Write a file. -/
def writeFile (fs : FileSystem) (p : Path) (content : Bytes) : Except FileError FileSystem :=
  fs.updateFile p fun _ => content

/-- Write at the end of a file. -/
def appendFile (fs : FileSystem) (p : Path) (content : Bytes) : Except FileError FileSystem :=
  fs.updateFile p (· ++ content)

/-- Make a directory in one that is there. -/
def makeDirectory (fs : FileSystem) (p : Path) : Except FileError FileSystem := do
  match ← fs.locate p with
  | .present _ _ => .error ⟨.alreadyExists, p⟩
  | .absent place => .ok (fs.setNode place .directory)

/-- Make a directory unless it is there already. -/
def ensureDirectory (fs : FileSystem) (p : Path) : Except FileError FileSystem :=
  match fs.makeDirectory p with
  | .ok fs => .ok fs
  | .error e =>
    match fs.isDirectory p with
    | .ok true => .ok fs
    | .ok false => .error e
    | .error e => .error e

/-- Make a directory and those above it, as far as they are missing. What was made
before a fault stays. -/
def ensureDirectories (fs : FileSystem) (p : Path) : Except FileError Unit × FileSystem :=
  match fs.ensureDirectory p with
  | .ok fs => (.ok (), fs)
  | .error e =>
    if _h : p.parts ≠ [] ∧ e.fault = .missing then
      match ensureDirectories fs p.parent with
      | (.error e, fs) => (.error e, fs)
      | (.ok (), fs) =>
        match fs.ensureDirectory p with
        | .ok fs => (.ok (), fs)
        | .error e => (.error e, fs)
    else (.error e, fs)
termination_by p.parts.length
decreasing_by
  have := List.length_pos_iff.2 _h.1
  simp [Path.parent]; omega

end FileSystem

end CommandDocs
