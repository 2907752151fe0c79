import CompilerDriver.Plan
import CompilerDriver.Source

/-!
# The pipeline

Preprocess, compile, assemble and link, in this order, on one source. Each step runs only after
the one before it succeeded; intermediate files are removed once nobody needs them; the status of
the first tool that fails is the status of the whole. Only what goes wrong on the driver's own
side ends a run with a failure.
-/

namespace CompilerDriver.Pipeline

/-- How far a run has come. -/
inductive State where
  | start
  | preprocessed
  | backendDone
  | stopped
  | assembled
deriving DecidableEq, Repr

/-- The name of a state in the log. -/
def State.name : State → String
  | start => "Start"
  | preprocessed => "Preprocessed"
  | backendDone => "BackendDone"
  | stopped => "Stopped"
  | assembled => "Assembled"

/-- How a run ended that met no failure. -/
structure Outcome where
  state : State
  /-- The first status that is not zero, or success. -/
  status : Status
deriving DecidableEq, Repr

open Plan

/-- A record of the pipeline. -/
def note (level : Log.Level) (message : String) : Attempt Unit :=
  Plan.note ⟨level, .pipeline, message⟩

/-- Removes an intermediate file and hands on what came of it. A file that is not there is no
failure; one that was there is reported as removed. -/
def tryDiscard (path : Path) : Attempt (Except Failure Unit) := do
  match ← tryUnlink path with
  | .ok () =>
    note .debug s!"removed {path.display}"
    return .ok ()
  | .error (.os .notFound) => return .ok ()
  | .error cause => return .error (.notRemoved path cause)

/-- Removes an intermediate file. -/
def discard (path : Path) : Attempt Unit := do settle (← tryDiscard path)

/-- Notes the step from one state to the next. -/
def advance (before after : State) : Attempt Unit :=
  note .debug s!"pipeline: {before.name} -> {after.name}"

/-- The run of one source up to a stage. With `keepAssembly` the assembly of a run that succeeds
is left to the user. -/
def execute (source : Source) (cutoff : Stage) (keepAssembly : Bool) : Attempt Outcome := do
  let status ← callTool (.preprocess source.path source.preprocessed)
  if !status.isSuccess then
    note .warn s!"preprocessor exited with status {status}"
    discard source.preprocessed
    return ⟨.start, status⟩
  advance .start .preprocessed
  let selection := cutoff.selection
  note .info <| s!"compiling {source.preprocessed.display} (stop: {selection.stop}, " ++
    s!"cutoff: {selection.cutoff} [{cutoff.name}])"
  let compiled ← tryTool (.compile source.preprocessed selection)
  -- The preprocessed file has served, whatever the backend made of it.
  let cleanup ← tryDiscard source.preprocessed
  let status ← settle compiled
  settle cleanup
  advance .preprocessed .backendDone
  if selection.stop then
    advance .backendDone .stopped
    return ⟨.stopped, status⟩
  if !status.isSuccess then
    note .warn s!"backend exited with status {status}"
    return ⟨.backendDone, status⟩
  let status ← callTool (.assemble source.assembly source.executable)
  if !status.isSuccess then
    note .warn s!"assembler exited with status {status}; keeping {source.assembly.display}"
    return ⟨.backendDone, status⟩
  if keepAssembly then
    note .info s!"kept {source.assembly.display}"
  else
    discard source.assembly
  advance .backendDone .assembled
  note .info s!"wrote {source.executable.display}"
  return ⟨.assembled, status⟩

end CompilerDriver.Pipeline
