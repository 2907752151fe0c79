import CompilerDriver.FileSystem.Listing
import CompilerDriver.Process.Installation
import CompilerDriver.Process.Spawner
import CompilerDriver.Program
import CompilerDriver.Toolchain.Scripted

/-!
# Sessions

A session works in a directory of its own: it changes files, checks inputs, and runs parts of the
driver on them, one step after another. Each step has an answer, and the files and the sources
that were stored go on to the next step.
-/

namespace CompilerDriver

/-- The files and the stored sources of a session. -/
structure Session where
  files : FileSystem
  sources : List (String × Source) := []

namespace Session

/-- The path of the directory that a session works in, unlike any path that users write. -/
def homeText : String := "/srv/session-5f0c1b7e"

/-- The location of that directory. -/
def home : Location := Installation.locationOf homeText

/-- The path of that directory, as a path. -/
def homePath : Path := Path.ofString homeText

/-- The environment that the tools of a session start with. -/
def environment : Environment := [(Executable.searchPathName, Installation.searchPath)]

/-- What is left out of the listing of a session. -/
def hidden : List Bytes := [Bytes.ofString "tools"]

/-- A new session: its directory is empty and current. -/
def fresh : Session where
  files := { Installation.files.put home .directory with cwd := home }

/-- Everything in the session's directory. -/
def tree (s : Session) : List FileSystem.Listed := s.files.listing home hidden

/-- The source stored under a name. -/
def source? (s : Session) (name : String) : Option Source :=
  (s.sources.find? fun e => e.1 = name).map (·.2)

/-- Stores a source under a name. -/
def store (s : Session) (name : String) (source : Source) : Session :=
  { s with sources := (name, source) :: s.sources.filter fun e => e.1 ≠ name }

/-- Changes the files, if the operating system lets it. -/
def act (s : Session) (action : FileAction) : Bool × Session :=
  let (done, fs) := action.apply s.files
  (done, { s with files := fs })

/-- Checks an input. Under a name it is stored if it passes, and compared with the source that was
stored there. -/
def validate (s : Session) (input : Path) (name : Option String) :
    Except Failure (Source × Option Bool) × Session :=
  match Source.validate s.files input, name with
  | .error failure, _ => (.error failure, s)
  | .ok source, none => (.ok (source, none), s)
  | .ok source, some name =>
    let same := (s.source? name).map fun before => decide (source.Same before)
    (.ok (source, same), s.store name source)

/-- The answer of a step that runs a part of the driver. -/
structure Ran (α : Type) where
  result : α
  /-- The records of the log. -/
  records : List Log.Record
  /-- The session afterwards. -/
  session : Session

/-- The log records among what was written. -/
def recordsOf (pieces : List Piece) : List Log.Record :=
  pieces.filterMap fun
    | .logged record => some record
    | _ => none

/-- Runs a plan on the files of the session. -/
def runPlan {σ α : Type} (s : Session) (tools : Toolchain σ) (state : σ) (plan : Plan α) :
    Ran α × σ :=
  let run := plan.run tools state s.files
  (⟨run.result, recordsOf run.pieces, { s with files := run.files }⟩, run.state)

/-- Removes an intermediate file. -/
def discard (s : Session) (path : Path) : Ran (Except Failure Unit) :=
  (s.runPlan .idle () (Pipeline.discard path).run).1

/-- Hands an intermediate file over: it stays where it is. -/
def keep (s : Session) (path : Path) : Ran Path := ⟨path, [], s⟩

/-- Compiles an input with scripted tools. -/
def drive (s : Session) (c : Compilation) (script : Scripted.Script) :
    Ran (Except Report Pipeline.Outcome) × List Scripted.Entry :=
  s.runPlan (Scripted.toolchain script) [] (c.plan s.files)

/-- Runs the pipeline on a source with scripted tools. -/
def execute (s : Session) (source : Source) (cutoff : Stage) (keepAssembly : Bool)
    (script : Scripted.Script) :
    Ran (Except Failure Pipeline.Outcome) × List Scripted.Entry :=
  s.runPlan (Scripted.toolchain script) [] (Pipeline.execute source cutoff keepAssembly).run

/-- Compiles an input with the programs of the compilation. -/
def compile (s : Session) (c : Compilation) : Ran (Except Report Pipeline.Outcome) :=
  (s.runPlan (c.programs.toolchain (Process.spawner environment)) [] (c.plan s.files)).1

/-- Calls one tool. -/
def call (s : Session) (programs : Programs) (request : ToolCall) : Ran (Except Failure Status) :=
  (s.runPlan (programs.toolchain (Process.spawner environment)) []
    (Plan.callTool request).run).1

/-- The program run in a session: its exit code and what it wrote. -/
structure Shown where
  code : Nat
  output : List Bytes
  errors : List Bytes
  session : Session

/-- The environment of a session with more variables, each of them once and in the order of the
names. -/
def environmentWith (more : Environment) : Environment :=
  let all := more ++ environment.filter fun v => (more.get? v.1).isNone
  all.mergeSort fun v w => v.1.precedes w.1

/-- Runs the program with some arguments, more variables and an input. -/
def start (s : Session) (arguments : List Bytes) (more : Environment) (input : Bytes) : Shown :=
  let name := Bytes.ofString CommandLine.ownName
  let ended := Program.run Process.spawner (name :: arguments) (environmentWith more) input s.files
  { code := ended.observedCode
    output := Bytes.lines ended.output
    errors := Bytes.lines ended.errors
    session := { s with files := ended.files } }

end Session

end CompilerDriver
