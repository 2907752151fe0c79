import CompilerDriver.Shell.Builtin.Options
import CompilerDriver.Shell.Launching

/-!
# Builtin commands on the flow of a script

Commands that end a script, a function or a loop, and commands that read further commands.
-/

namespace CompilerDriver.Shell.Builtin

/-- Ends the script. Only the low byte of the code is seen from outside. What is done at the end or
at a signal ends with the status from before. -/
def exit (arguments : List Bytes) : Act Nat := do
  let s ← get
  match arguments with
  | [] => throw (.exit (s.statusBefore.getD s.status))
  | a :: _ => throw (.exit (← Act.number a))

/-- Ends a function, or a file that is read. -/
def giveBack (arguments : List Bytes) : Act Nat := do
  match arguments with
  | [] => pure ()
  | a :: _ =>
    let status ← Act.number a
    modify fun s => { s with status }
  throw .back

/-- How many loops a command is about; there are no more than are at work. -/
def loopCount (arguments : List Bytes) : Act Nat := do
  let count ← match arguments with
    | [] => pure 1
    | a :: _ =>
      let n ← Act.number a
      if n = 0 then Act.illegalNumber a
      pure n
  return min count (← get).loops

/-- Leaves loops. -/
def leaveLoops (arguments : List Bytes) : Act Nat := do
  match ← loopCount arguments with
  | 0 => return 0
  | n => throw (.leave n)

/-- Goes on with the next round of a loop. -/
def nextRound (arguments : List Bytes) : Act Nat := do
  match ← loopCount arguments with
  | 0 => return 0
  | n => throw (.again n)

section

variable (e : Evaluator)

/-- Does what its arguments say. -/
def eval (tested : Bool) (arguments : List Bytes) : Act Nat := do
  let before := (← get).lineRead
  Act.always (e.text tested (Bytes.join 0x20 arguments)) fun s => { s with lineRead := before }

/-- The path of a file with commands, which is looked for if its name has no slash. -/
def commandFile (name : Bytes) : Act Bytes := do
  let s ← get
  if Bytes.slash ∈ name then return name
  match (Executable.candidates s.searchPath name).find? fun path =>
      s.machine.files.isFile ⟨path⟩ with
  | some path => return path
  | none => Act.fail (name ++ Bytes.ofString ": not found")

/-- Does what a file says. -/
def readFile (arguments : List Bytes) : Act Nat := do
  match ← operands arguments with
  | [] => return 0
  | name :: _ =>
    let path ← commandFile name
    let s ← get
    let text ← match s.machine.openPath s.descriptors ⟨path⟩ .read with
      | .error cause => Act.fail (openFault .read path cause)
      | .ok (stream, machine) =>
        let (text, machine) := (machine.readRest [(0, stream)] 0).toOption.getD ([], machine)
        modify fun s => { s with machine }
        pure text
    modify fun s => { s with command := path }
    let body := e.text false text
    match ← Act.caught (Act.always body fun t => { t with lineRead := s.lineRead }) with
    | .ok status => return status
    | .error .back => return (← get).status
    | .error stop => throw stop

/-- Starts a program in the place of the shell; without one, only the redirections count. -/
def exec (arguments : List Bytes) : Act Nat := do
  match ← operands arguments with
  | [] => return 0
  | program :: arguments => becomeProgram e program arguments

end

end CompilerDriver.Shell.Builtin
