import CompilerDriver.Process.Launch

/-!
# Utilities at work

What a native program of the system does: it reads its words and its input, works on the machine,
and ends with an exit code. What goes wrong with one operand is told on the error output and does
not keep it from the next.
-/

namespace CompilerDriver

/-- What a utility has been given. -/
structure Task where
  launch : Launch
  /-- The number of its process. -/
  process : Nat
  /-- How it can run other programs. -/
  run : Launcher

/-- What a utility has come to: the machine, the exit code so far, and why something could not be
written. -/
structure Progress where
  machine : Machine
  code : Nat := 0
  unwritten : Option OsError := none

/-- Something that a utility does; it can end early, with a report. -/
abbrev Work (α : Type) := ReaderT Task (ExceptT WaitReport (StateM Progress)) α

namespace Work

/-- The name that the utility was started by, as messages show it. -/
def name : Work Bytes := return ((← read).launch.loaded.words.headD [])

/-- The words after the name. -/
def arguments : Work (List Bytes) := return (← read).launch.loaded.words.tail

/-- The descriptors. -/
def descriptors : Work Descriptors := return (← read).launch.descriptors

/-- The files as they are. -/
def files : Work FileSystem := return (← get).machine.files

/-- Takes over changed files. -/
def setFiles (files : FileSystem) : Work Unit :=
  modify fun p => { p with machine := { p.machine with files } }

/-- Writes to the output. -/
def say (text : Bytes) : Work Unit := do
  let d ← descriptors
  modify fun p =>
    match p.machine.write d 1 text with
    | .ok machine => { p with machine }
    | .error cause => { p with unwritten := some cause }

/-- Writes a line to the output. -/
def sayLine (text : Bytes) : Work Unit := say (text ++ [Bytes.newline])

/-- Writes to the error output. -/
def tell (text : Bytes) : Work Unit := do
  let d ← descriptors
  modify fun p => { p with machine := p.machine.tell d 2 text }

/-- Ends with a code. -/
def quit {α : Type} (code : Nat) : Work α := throw (.exited code)

/-- The exit code is at least this one from now on. -/
def mark (code : Nat) : Work Unit := modify fun p => { p with code := max p.code code }

/-- Reports a fault on the error output. -/
def warn (fault : Bytes) : Work Unit := do
  tell ((← name) ++ Bytes.ofString ": " ++ fault ++ [Bytes.newline])

/-- Reports a fault that is an error. -/
def complain (fault : Bytes) (code : Nat := 1) : Work Unit := do
  warn fault
  mark code

/-- Reports a fault, and gives up. -/
def fail {α : Type} (fault : Bytes) (code : Nat := 1) : Work α := do
  warn fault
  quit code

/-- Reports that the words make no sense, and gives up. -/
def failUsage {α : Type} (fault : Bytes) (code : Nat := 1) : Work α := do
  warn fault
  tell (Bytes.ofString "Try '" ++ (← name) ++ Bytes.ofString " --help' for more information.\n")
  quit code

/-! ## Reading -/

/-- Everything that is left of the input. -/
def readInput : Work (Except Cause Bytes) := do
  let p ← get
  match p.machine.readRest (← descriptors) 0 with
  | .ok (bytes, machine) =>
    set { p with machine }
    return .ok bytes
  | .error cause => return .error (.os cause)

/-- The contents at a path. -/
def readPath (path : Bytes) : Work (Except Cause Bytes) := do
  let p ← get
  match p.machine.readPath (← descriptors) ⟨path⟩ with
  | .ok (bytes, machine) =>
    set { p with machine }
    return .ok bytes
  | .error cause => return .error cause

/-- The contents of an operand; a dash stands for the input. -/
def readOperand (operand : Bytes) : Work (Except Cause Bytes) :=
  if operand = [Bytes.dash] then readInput else readPath operand

/-- One line of the input, without its end; nothing if there is none. -/
def readLine : Work (Option Bytes) := do
  let p ← get
  match p.machine.readLine (← descriptors) 0 with
  | .ok ((line, whole), machine) =>
    set { p with machine }
    return if line = [] && !whole then none else some line
  | .error _ => return none

/-- Runs another program, with the words it is given, and waits for its end. Its environment and
its descriptors are changed first. -/
def runLaunch (loaded : Executable.Loaded) (change : Launch → Launch) : Work WaitReport := do
  let t ← read
  let launch := change { t.launch with loaded, parent := t.process }
  let (report, machine) := t.run launch (← get).machine
  modify fun p => { p with machine }
  return report

/-- Does the work of a utility: the report of its end, and the machine afterwards. What could not be
written is an error. -/
def execute (work : Work Unit) (task : Task) (machine : Machine) : WaitReport × Machine :=
  let (result, p) := ((work.run task).run).run { machine }
  let report := match result with
    | .ok () => .exited p.code
    | .error report => report
  match p.unwritten with
  | none => (report, p.machine)
  | some cause =>
    let fault := task.launch.loaded.words.headD [] ++ Bytes.ofString ": write error: " ++
      Bytes.ofString cause.text ++ [Bytes.newline]
    let code := max 1 (report.exitCode?.getD 1)
    (.exited code, p.machine.tell task.launch.descriptors 2 fault)

end Work

/-- A native program. -/
structure Utility where
  name : String
  work : Work Unit

end CompilerDriver
