import CompilerDriver.Shell.Builtin.Options
import CompilerDriver.Shell.Condition
import CompilerDriver.Shell.Format

/-!
# Builtin commands on texts

Commands that write their arguments, or decide on them.
-/

namespace CompilerDriver.Shell.Builtin

def echo (arguments : List Bytes) : Act Nat := do
  Act.say (echoed arguments)
  return 0

/-- Writes arguments in a format. What is wrong is told before anything is written. -/
def printf (arguments : List Bytes) : Act Nat := do
  match ← operands arguments with
  | [] => Act.fail (Bytes.ofString "usage: printf format [arg ...]")
  | format :: rest =>
    let p := printed format rest
    for fault in p.faults do Act.complain fault
    match p.wrong with
    | none =>
      Act.say p.text
      return if p.faults.isEmpty then 0 else 1
    | some fault =>
      Act.complain fault
      Act.say p.text
      modify fun s => { s with status := 2 }
      throw .fault

/-- A condition. In brackets, the closing one has to be there. -/
def test (bracketed : Bool) (arguments : List Bytes) : Act Nat := do
  if bracketed && arguments.getLast? ≠ some [0x5d] then Act.fail (Bytes.ofString "missing ]")
  let words := if bracketed then arguments.dropLast else arguments
  match Condition.holds (← get).machine.files words with
  | .ok holds => return if holds then 0 else 1
  | .error fault => Act.fail fault.message

end CompilerDriver.Shell.Builtin
