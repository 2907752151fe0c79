import CompilerDriver.Process.Spawner
import CompilerDriver.Process.Workplace
import CompilerDriver.Program

/-!
# The command

The program on a command line. The files of the current directory and those that the compilation
names are loaded into a workplace, the program is run there, and what it wrote and changed is
written and stored. Tools are scripts given by a path, or installed utilities. A link that a tool
made is not stored, and no file that was not loaded is overwritten.
-/

namespace CompilerDriver.Main

/-- The name of a file, as the operating system is asked for it. -/
def fileName (path : Path) : String := Text.Utf8.display path.bytes

/-- The contents of a file, if it can be read. -/
def readFile? (path : Path) : IO (Option Bytes) := do
  match ← (IO.FS.readBinFile (fileName path)).toBaseIO with
  | .ok contents => return some contents.toList
  | .error _ => return none

/-- The variables that the program and its tools look at. -/
def readEnvironment : IO Environment := do
  let names := [CommandLine.Setting.cc.variableName, CommandLine.Setting.backend.variableName,
    Program.filterName, Executable.searchPathName]
  names.filterMapM fun name => do
    return (← IO.getEnv (Text.Utf8.display name)).map fun value => (name, Bytes.ofString value)

/-- What stands on the input, unless it is a terminal. -/
partial def readInput (stream : IO.FS.Stream) (before : ByteArray) : IO Bytes := do
  if ← stream.isTty then return []
  let chunk ← stream.read 65536
  if chunk.isEmpty then return before.toList
  readInput stream (before ++ chunk)

/-- The workplace of a compilation. -/
def load (compilation : Compilation) : IO FileSystem := do
  let directory ← IO.currentDir
  let beside := (← directory.readDir).toList.map fun e => Path.ofString e.fileName
  let mut workplace := Workplace.inDirectory (Path.ofString directory.toString)
  for path in beside ++ Workplace.documents compilation do
    if let some contents ← readFile? path then
      workplace := Workplace.hold workplace path contents
  for path in Workplace.tools compilation do
    if let some contents ← readFile? path then
      if Workplace.isScript contents then
        workplace := Workplace.hold workplace path contents
  return workplace

/-- Stores one change. -/
def store (l : Location) (node : Option Node) : IO Unit := do
  let name := fileName (Workplace.pathOf l)
  match node with
  | some (.file contents _) => IO.FS.writeBinFile name ⟨contents.toArray⟩
  | some .directory => IO.FS.createDirAll name
  | some _ => pure ()
  | none => IO.FS.removeFile name

/-- Writes what the program wrote, each piece on its stream. -/
def write (ended : Program.Ended Bytes) : IO Unit := do
  let output ← IO.getStdout
  let errors ← IO.getStderr
  for piece in ended.pieces do
    output.write ⟨(Program.Ended.outputOf piece).toArray⟩
    output.flush
    errors.write ⟨(Program.Ended.errorsOf ended.filter piece).toArray⟩
    errors.flush

/-- Runs the program on the arguments after its name. -/
def run (arguments : List Bytes) : IO UInt32 := do
  let env ← readEnvironment
  let words := Bytes.ofString CommandLine.ownName :: arguments
  let (input, workplace) ← match CommandLine.read arguments env with
    | .ok compilation =>
      pure (← readInput (← IO.getStdin) .empty, ← load compilation)
    | .error _ => pure ([], Workplace.inDirectory ⟨[Bytes.slash]⟩)
  let ended := Program.run Process.spawner words env input workplace
  write ended
  for (l, node) in (Workplace.changes workplace ended.files).reverse do
    let isOther := workplace.get? l = none && (← readFile? (Workplace.pathOf l)).isSome
    unless isOther do store l node
  return .ofNat ended.observedCode

end CompilerDriver.Main

def main (arguments : List String) : IO UInt32 :=
  CompilerDriver.Main.run (arguments.map CompilerDriver.Bytes.ofString)
