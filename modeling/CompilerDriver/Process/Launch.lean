import CompilerDriver.Machine
import CompilerDriver.Process.Executable

/-!
# Launches

What a process starts with, and how a program that starts others sees the system that runs them:
as a function from a launch to the report of its end.
-/

namespace CompilerDriver

/-- What a process starts with. -/
structure Launch where
  /-- The native program and its words. -/
  loaded : Executable.Loaded
  environment : Environment := []
  descriptors : Descriptors := .initial
  /-- The number of the process that starts it. -/
  parent : Nat := 0
  /-- The signals that it does not notice. -/
  ignored : List Nat := []

/-- Runs a launched process to its end. -/
abbrev Launcher := Launch → Machine → WaitReport × Machine

namespace Machine

/-- A process begins: its number, and the machine as it sees it. -/
def startProcess (m : Machine) : Nat × Machine :=
  (m.nextProcess, { m with nextProcess := m.nextProcess + 1, files := m.files.startProcess })

/-- The machine as the parent of a process that has ended sees it. -/
def endProcess (m : Machine) : Machine := { m with files := m.files.endProcess }

/-- The signals that have been sent to a process, and the machine without them. -/
def takeSignals (m : Machine) (process : Nat) : List Nat × Machine :=
  ((m.signals.filter fun s => s.1 = process).map (·.2),
    { m with signals := m.signals.filter fun s => s.1 ≠ process })

end Machine

end CompilerDriver
