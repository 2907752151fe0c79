import CompilerDriver.Process.Run
import CompilerDriver.Toolchain.Command

/-!
# Commands as processes

The spawner that runs commands on a machine of their own making: they share the files and the
input of the driver, start with its environment, and write to its streams.
-/

namespace CompilerDriver.Process

/-- How far down a process may go. -/
def depthLimit : Nat := 4000

/-- The number of the process that the driver is. -/
def driver : Nat := 1

/-- Runs commands as processes with an environment. The state is the input that nobody has read
yet. -/
def spawner (env : Environment) : Spawner Bytes where
  spawn command input fs :=
    if command.holdsNul then { ended := .error .nulInCommand, state := input, files := fs }
    else match Executable.start fs (env.get? Executable.searchPathName) command.program command.arguments with
      | .error cause => { ended := .error cause, state := input, files := fs }
      | .ok loaded =>
        let launch : Launch := { loaded, environment := env, parent := driver }
        let (report, m) := runLaunch (evaluator depthLimit) launch { files := fs, input }
        { ended := .ok report, state := m.input, files := m.files, pieces := m.written.reverse }

end CompilerDriver.Process
