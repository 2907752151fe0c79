import CompilerDriver.Shell.Starting
import CompilerDriver.Utility.All

/-!
# Running programs

The parts of the shell's evaluator need one another, and both the shell and some utilities run other
programs. Here they are handed to each other. Each step down spends one unit of depth; a process
that has none left has no room on its stack, and is killed as the operating system does it.

Depth is spent by what is nested: a phrase in a phrase, a word in a phrase, a call in a function, a
program started by a program. The rounds of a loop and the commands of a script cost nothing.
-/

namespace CompilerDriver.Process

/-- The number of the signal that a process gets which has run out of stack. -/
def outOfStack : Nat := 11

/-- The name of the program that is the shell. -/
def shellName : Bytes := Bytes.ofString "sh"

/-- Runs a launched process to its end: a shell with an evaluator, or else a utility. -/
def runLaunch (e : Shell.Evaluator) : Launcher := fun l m =>
  let (process, m) := m.startProcess
  if l.loaded.name = shellName then Shell.runShell e l process m
  else match Utility.find? l.loaded.name with
    | some utility =>
      let (report, m) := Work.execute utility.work { launch := l, process, run := e.launch } m
      (report, m.endProcess)
    | none => (.exited 127, m.endProcess)

/-- The evaluator that can go so many steps down. -/
def evaluator : (depth : Nat) → Shell.Evaluator
  | 0 =>
    { phrase := fun _ _ => throw (.killed outOfStack)
      word := fun _ _ => throw (.killed outOfStack)
      text := fun _ _ => throw (.killed outOfStack)
      launch := fun _ m => (.killed outOfStack, m) }
  | depth + 1 =>
    let e := evaluator depth
    { phrase := Shell.evaluate e
      word := Shell.expandWord e
      text := Shell.evaluateText e
      launch := runLaunch e }

end CompilerDriver.Process
