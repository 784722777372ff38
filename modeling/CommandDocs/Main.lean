import CommandDocs.CommandLine.Program
import CommandDocs.CommandLine.Usage
import Std.Time.DateTime.Timestamp

/-!
# Command line

The program as an executable. It reads what lies at the paths of the command line
into a value, runs the program on it, writes what changed, and prints.
-/

namespace CommandDocs.CommandLine

/-- A text for a terminal; a surrogate is shown by the replacement character. -/
def toTerminal (t : Text) : String :=
  String.ofList (t.map fun
    | .scalar c => c
    | .surrogate _ => Char.ofNat 0xFFFD)

/-- The file at a place. -/
def fileName (place : Place) : String := toTerminal (Path.toText ⟨.slash, place⟩)

/-- Bytes for a file. -/
def toBuffer (bytes : Bytes) : ByteArray := ⟨bytes.toArray⟩

/-- Add what lies at a place, and with a directory its entries when asked. -/
def readPlace (withEntries : Bool) (fs : FileSystem) (place : Place) : IO FileSystem := do
  let file := (← IO.currentDir) / fileName place
  if ← file.isDir then
    let fs := fs.setNode place .directory
    if withEntries then
      let entries ← file.readDir
      entries.foldlM (fun fs entry => do
        let below := place ++ [Text.ofString entry.fileName]
        if ← entry.path.isDir then pure (fs.setNode below .directory)
        else pure (fs.setNode below (.file (← IO.FS.readBinFile entry.path).toList))) fs
    else pure fs
  else if ← file.pathExists then
    pure (fs.setNode place (.file (← IO.FS.readBinFile file).toList))
  else pure fs

/-- Add what lies on the way to a place and there. -/
def readWay (fs : FileSystem) (place : Place) : IO FileSystem :=
  (List.range place.length).foldlM
    (fun fs i => readPlace (i + 1 == place.length) fs (place.take (i + 1))) fs

/-- Write the nodes that differ from those before. -/
def writeChanges (before after : FileSystem) : IO Unit :=
  after.nodes.forM fun (place, node) => do
    if before.node? place != some node then
      match node with
      | .directory => IO.FS.createDirAll (fileName place)
      | .file content => IO.FS.writeBinFile (fileName place) (toBuffer content)

/-- The names along an absolute file name. -/
def placeOf (file : String) : Place := (Path.ofText file).resolve.parts

/-- The time now. -/
def now : IO Instant := do
  let time ← Std.Time.Timestamp.now
  let micros := time.val.second.val * 1000000 + time.val.nano.val / 1000
  match Instant.ofMicros micros with
  | .ok instant => pure instant
  | .error fault => throw (IO.userError (toTerminal fault.message))

/-- Print lines. -/
def printLines (output : IO.FS.Stream) (lines : List Text) : IO Unit :=
  output.putStr (toTerminal (Text.unlines lines))

/-- Run the program and give its exit code. -/
def run (arguments : List String) : IO UInt32 := do
  let arguments := arguments.map Text.ofString
  let env : Surroundings :=
    { program := Path.ofText (toString (← IO.appDir))
      home := Path.ofText ((← IO.getEnv "HOME").getD "/")
      clock := ← now }
  let empty : FileSystem := ⟨[], placeOf (toString (← IO.currentDir))⟩
  let named := match Command.read arguments with
    | .ok command => command.pathArguments
    | .error _ => []
  let places := named.filterMap fun (option, value) =>
    ((Program.pathOf (Program.rootsOf env empty) option value).toOption).map Path.parts
  let before ← (empty.workingDirectory :: places).foldlM readWay empty
  let (ending, after) := Program.run env before arguments
  writeChanges before after
  let output ← IO.getStdout
  let errors ← IO.getStderr
  match ending with
  | .usage reason =>
    printLines (if reason = .help then output else errors) Usage.lines
    pure reason.exitCode.toUInt32
  | .exit code shown reported =>
    printLines output shown
    printLines errors reported
    pure code.toUInt32
  | .escape failure =>
    printLines errors [failure.message]
    pure 1

end CommandDocs.CommandLine

/-- The entry of the executable. -/
def main (arguments : List String) : IO UInt32 := CommandDocs.CommandLine.run arguments
