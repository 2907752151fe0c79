import CompilerDriver.FileSystem.Update
import CompilerDriver.Process.Installation
import CompilerDriver.Toolchain.Command

/-!
# Workplaces

A compilation touches few files: the input, what is made from it, and the tools. A workplace is a
file system that holds copies of these, laid out as they are where they come from. After a run its
changes say what has to be stored.
-/

namespace CompilerDriver.Workplace

/-- A workplace with nothing in it but the installed system and a current directory. -/
def inDirectory (directory : Path) : FileSystem :=
  let fs := (Installation.files.makeDirectories directory).2
  (fs.enter directory).toOption.getD fs

/-- The workplace with a copy of a file, which may be executed. -/
def hold (fs : FileSystem) (path : Path) (contents : Bytes) : FileSystem :=
  let fs := match path.parent? with
    | some directory => (fs.makeDirectories directory).2
    | none => fs
  (fs.write path contents true).toOption.getD fs

/-- The input and the files that are made from it. -/
def documents (c : Compilation) : List Path :=
  match Source.ofPath? c.input with
  | some source => [c.input, source.preprocessed, source.assembly, source.executable]
  | none => [c.input]

/-- The tools that are given by a path. -/
def tools (c : Compilation) : List Path :=
  ([c.programs.cc, c.programs.backend].filter fun program => Bytes.slash ∈ program).map Path.mk

/-- Whether a file holds a script. -/
def isScript (contents : Bytes) : Bool := (Bytes.ofString "#!").isPrefixOf contents

/-- What differs between two file systems: each location, and what stands there afterwards. -/
def changes (before after : FileSystem) : List (Location × Option Node) :=
  (after.entries.filter fun e => before.get? e.1 ≠ some (after.view e.2)).map
    (fun e => (e.1, some (after.view e.2))) ++
  (before.entries.filter fun e => after.get? e.1 = none).map fun e => (e.1, none)

/-- The absolute path of a location. -/
def pathOf (l : Location) : Path := ⟨Bytes.slash :: Bytes.join Bytes.slash l.reverse⟩

end CompilerDriver.Workplace
