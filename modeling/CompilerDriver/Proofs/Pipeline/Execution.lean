import CompilerDriver.Pipeline
import CompilerDriver.Proofs.Plan.Moments

/-!
# The ways a run of the pipeline can go

A run meets at most three answers of the toolchain and two replies to removals, each in the state
that the one before it left behind: `preprocessing`, `compiling`, `clearing` (the preprocessed file
is removed), `assembling`, `sweeping` (the assembly is removed). `Execution` lists the eleven ways
a run can go by what these are, each with its result, all its events, the state and the files at
its end. `execution_perform`, **for every toolchain, source, stage, switch and start**: the run of
`execute` goes one of these ways. What is said of runs further on is said case by case here and
never looks into `execute` again.
-/

namespace CompilerDriver.Pipeline

open Plan

variable {σ : Type}

/-! ## Small facts -/

/-- Success is the one status that counts as success. -/
theorem isSuccess_iff (status : Status) : status.isSuccess = true ↔ status = .success := by
  cases status
  simp [Status.isSuccess, Status.success]

/-- A stage stops exactly when it is not the full compilation. -/
theorem stops_eq_false_iff (cutoff : Stage) : cutoff.stops = false ↔ cutoff = .full := by
  simp [Stage.stops]

/-! ## Removing an intermediate file -/

/-- A removal has served: the file was removed, or it was not there. -/
def Gone (result : Except Cause Unit) : Prop := result = .ok () ∨ result = .error (.os .notFound)

/-- What a removal comes to for the driver. -/
def discarded (path : Path) : Except Cause Unit → Except Failure Unit
  | .ok () => .ok ()
  | .error (.os .notFound) => .ok ()
  | .error cause => .error (.notRemoved path cause)

/-- A record of the pipeline, as an event. -/
def noted (level : Log.Level) (message : String) : Event := .recorded ⟨level, .pipeline, message⟩

/-- The record of the step from one state to the next. -/
def advanced (before after : State) : Event :=
  noted .debug s!"pipeline: {before.name} -> {after.name}"

/-- The events of removing an intermediate file: the request, and a record if there was a file. -/
def discarding (path : Path) (result : Except Cause Unit) : List Event :=
  .unlinked path result ::
    match result with
    | .ok () => [noted .debug s!"removed {path.display}"]
    | .error _ => []

/-- A removal that has served is no failure. -/
theorem discarded_of_gone (path : Path) {result : Except Cause Unit} (gone : Gone result) :
    discarded path result = .ok () := by
  rcases gone with rfl | rfl <;> rfl

/-- A removal that has not served is a failure with its cause. -/
theorem discarded_of_not_gone (path : Path) {result : Except Cause Unit} (left : ¬ Gone result) :
    ∃ cause, cause ≠ .os .notFound ∧ result = .error cause ∧
      discarded path result = .error (.notRemoved path cause) := by
  rcases result with cause | ⟨⟩
  · have h : cause ≠ .os .notFound := fun h => left (.inr (by rw [h]))
    refine ⟨cause, h, rfl, ?_⟩
    unfold discarded
    split <;> simp_all
  · exact absurd (.inl rfl) left

theorem perform_tryDiscard (tools : Toolchain σ) (path : Path) (s : σ) (fs : FileSystem) :
    perform tools (tryDiscard path) s fs =
      ⟨.ok (discarded path (removal fs path).1), discarding path (removal fs path).1, s,
        (removal fs path).2⟩ := by
  rw [tryDiscard, perform_bind, perform_tryUnlink]
  rcases removal fs path with ⟨cause | ⟨⟩, after⟩
  · simp only [discarded, discarding]
    split <;> simp_all
  · simp only [discarded, discarding, Pipeline.note, perform_bind, perform_note, perform_pure]
    rfl

theorem perform_discard (tools : Toolchain σ) (path : Path) (s : σ) (fs : FileSystem) :
    perform tools (discard path) s fs =
      ⟨discarded path (removal fs path).1, discarding path (removal fs path).1, s,
        (removal fs path).2⟩ := by
  rw [discard, perform_bind, perform_tryDiscard]
  simp

/-! ## The answers a run meets -/

section answers

variable (tools : Toolchain σ) (source : Source) (cutoff : Stage) (s : σ) (fs : FileSystem)

/-- The answer of the preprocessor. -/
def preprocessing : Answer σ := tools.answer (.preprocess source.path source.preprocessed) s fs

/-- The answer of the backend, called after the preprocessor. -/
def compiling : Answer σ :=
  tools.answer (.compile source.preprocessed cutoff.selection)
    (preprocessing tools source s fs).state (preprocessing tools source s fs).files

/-- The removal of the preprocessed file, after the backend. -/
def clearing : Except Cause Unit × FileSystem :=
  removal (compiling tools source cutoff s fs).files source.preprocessed

/-- The answer of the assembler, called after the preprocessed file has been removed. -/
def assembling : Answer σ :=
  tools.answer (.assemble source.assembly source.executable)
    (compiling tools source cutoff s fs).state (clearing tools source cutoff s fs).2

/-- The removal of the assembly, after the assembler. -/
def sweeping : Except Cause Unit × FileSystem :=
  removal (assembling tools source cutoff s fs).files source.assembly

/-! ## The events up to each answer -/

/-- A call, with the answer it was given. -/
def answered (request : ToolCall) (answer : Answer σ) : Event :=
  .called request answer.reply answer.pieces

/-- All that happens up to the answer of the preprocessor. -/
def preprocessEvents : List Event :=
  [answered (.preprocess source.path source.preprocessed) (preprocessing tools source s fs)]

/-- What is noted before the backend is called. -/
def compileMessage : String :=
  s!"compiling {source.preprocessed.display} (stop: {cutoff.selection.stop}, " ++
    s!"cutoff: {cutoff.selection.cutoff} [{cutoff.name}])"

/-- All that happens up to the removal of the preprocessed file after the backend. -/
def backendEvents : List Event :=
  preprocessEvents tools source s fs ++
    [advanced .start .preprocessed, noted .info (compileMessage source cutoff),
      answered (.compile source.preprocessed cutoff.selection)
        (compiling tools source cutoff s fs)] ++
    discarding source.preprocessed (clearing tools source cutoff s fs).1

/-- All that happens up to the answer of the assembler. -/
def assemblerEvents : List Event :=
  backendEvents tools source cutoff s fs ++
    [advanced .preprocessed .backendDone,
      answered (.assemble source.assembly source.executable)
        (assembling tools source cutoff s fs)]

/-- What is noted at the end of a full run. -/
def finalNotes : List Event :=
  [advanced .backendDone .assembled, noted .info s!"wrote {source.executable.display}"]

/-! ## The eleven ways -/

/-- The ways a run can go. Each says what the answers were, and then what has become of the run. -/
inductive Execution (keepAssembly : Bool) : Run σ (Except Failure Outcome) → Prop where
  /-- The preprocessor could not be started. -/
  | preprocessorUnstarted {failure : Failure}
      (reply : (preprocessing tools source s fs).reply = .error failure) :
      Execution keepAssembly
        ⟨.error failure, preprocessEvents tools source s fs,
          (preprocessing tools source s fs).state, (preprocessing tools source s fs).files⟩
  /-- The preprocessor failed. -/
  | preprocessorFailed {status : Status} {after : Except Cause Unit × FileSystem}
      (reply : (preprocessing tools source s fs).reply = .ok status) (failed : status ≠ .success)
      (removed : removal (preprocessing tools source s fs).files source.preprocessed = after) :
      Execution keepAssembly
        ⟨(discarded source.preprocessed after.1).map fun _ => ⟨.start, status⟩,
          preprocessEvents tools source s fs ++
            noted .warn s!"preprocessor exited with status {status}" ::
              discarding source.preprocessed after.1,
          (preprocessing tools source s fs).state, after.2⟩
  /-- The backend could not be started. -/
  | backendUnstarted {failure : Failure}
      (preprocessed : (preprocessing tools source s fs).reply = .ok .success)
      (reply : (compiling tools source cutoff s fs).reply = .error failure) :
      Execution keepAssembly
        ⟨.error failure, backendEvents tools source cutoff s fs,
          (compiling tools source cutoff s fs).state, (clearing tools source cutoff s fs).2⟩
  /-- The backend ran, and the preprocessed file could not be removed. -/
  | notCleared {status : Status} {cause : Cause}
      (preprocessed : (preprocessing tools source s fs).reply = .ok .success)
      (reply : (compiling tools source cutoff s fs).reply = .ok status)
      (refused : (clearing tools source cutoff s fs).1 = .error cause)
      (other : cause ≠ .os .notFound) :
      Execution keepAssembly
        ⟨.error (.notRemoved source.preprocessed cause), backendEvents tools source cutoff s fs,
          (compiling tools source cutoff s fs).state, (clearing tools source cutoff s fs).2⟩
  /-- The backend ran, and the run stops there. -/
  | stopped {status : Status}
      (preprocessed : (preprocessing tools source s fs).reply = .ok .success)
      (reply : (compiling tools source cutoff s fs).reply = .ok status)
      (cleared : Gone (clearing tools source cutoff s fs).1) (stops : cutoff ≠ .full) :
      Execution keepAssembly
        ⟨.ok ⟨.stopped, status⟩,
          backendEvents tools source cutoff s fs ++
            [advanced .preprocessed .backendDone, advanced .backendDone .stopped],
          (compiling tools source cutoff s fs).state, (clearing tools source cutoff s fs).2⟩
  /-- The backend failed in a full run. -/
  | backendFailed {status : Status}
      (preprocessed : (preprocessing tools source s fs).reply = .ok .success)
      (reply : (compiling tools source cutoff s fs).reply = .ok status)
      (cleared : Gone (clearing tools source cutoff s fs).1) (full : cutoff = .full)
      (failed : status ≠ .success) :
      Execution keepAssembly
        ⟨.ok ⟨.backendDone, status⟩,
          backendEvents tools source cutoff s fs ++
            [advanced .preprocessed .backendDone,
              noted .warn s!"backend exited with status {status}"],
          (compiling tools source cutoff s fs).state, (clearing tools source cutoff s fs).2⟩
  /-- The assembler could not be started. -/
  | assemblerUnstarted {failure : Failure}
      (preprocessed : (preprocessing tools source s fs).reply = .ok .success)
      (compiled : (compiling tools source cutoff s fs).reply = .ok .success)
      (cleared : Gone (clearing tools source cutoff s fs).1) (full : cutoff = .full)
      (reply : (assembling tools source cutoff s fs).reply = .error failure) :
      Execution keepAssembly
        ⟨.error failure, assemblerEvents tools source cutoff s fs,
          (assembling tools source cutoff s fs).state,
          (assembling tools source cutoff s fs).files⟩
  /-- The assembler failed. -/
  | assemblerFailed {status : Status}
      (preprocessed : (preprocessing tools source s fs).reply = .ok .success)
      (compiled : (compiling tools source cutoff s fs).reply = .ok .success)
      (cleared : Gone (clearing tools source cutoff s fs).1) (full : cutoff = .full)
      (reply : (assembling tools source cutoff s fs).reply = .ok status)
      (failed : status ≠ .success) :
      Execution keepAssembly
        ⟨.ok ⟨.backendDone, status⟩,
          assemblerEvents tools source cutoff s fs ++
            [noted .warn
              s!"assembler exited with status {status}; keeping {source.assembly.display}"],
          (assembling tools source cutoff s fs).state,
          (assembling tools source cutoff s fs).files⟩
  /-- All went well, and the assembly is kept. -/
  | kept
      (preprocessed : (preprocessing tools source s fs).reply = .ok .success)
      (compiled : (compiling tools source cutoff s fs).reply = .ok .success)
      (cleared : Gone (clearing tools source cutoff s fs).1) (full : cutoff = .full)
      (assembled : (assembling tools source cutoff s fs).reply = .ok .success)
      (keep : keepAssembly = true) :
      Execution keepAssembly
        ⟨.ok ⟨.assembled, .success⟩,
          assemblerEvents tools source cutoff s fs ++
            noted .info s!"kept {source.assembly.display}" :: finalNotes source,
          (assembling tools source cutoff s fs).state,
          (assembling tools source cutoff s fs).files⟩
  /-- All went well, but the assembly could not be removed. -/
  | notSwept {cause : Cause}
      (preprocessed : (preprocessing tools source s fs).reply = .ok .success)
      (compiled : (compiling tools source cutoff s fs).reply = .ok .success)
      (cleared : Gone (clearing tools source cutoff s fs).1) (full : cutoff = .full)
      (assembled : (assembling tools source cutoff s fs).reply = .ok .success)
      (keep : keepAssembly = false)
      (refused : (sweeping tools source cutoff s fs).1 = .error cause)
      (other : cause ≠ .os .notFound) :
      Execution keepAssembly
        ⟨.error (.notRemoved source.assembly cause),
          assemblerEvents tools source cutoff s fs ++
            discarding source.assembly (sweeping tools source cutoff s fs).1,
          (assembling tools source cutoff s fs).state, (sweeping tools source cutoff s fs).2⟩
  /-- All went well, and the assembly is removed. -/
  | swept
      (preprocessed : (preprocessing tools source s fs).reply = .ok .success)
      (compiled : (compiling tools source cutoff s fs).reply = .ok .success)
      (cleared : Gone (clearing tools source cutoff s fs).1) (full : cutoff = .full)
      (assembled : (assembling tools source cutoff s fs).reply = .ok .success)
      (keep : keepAssembly = false)
      (gone : Gone (sweeping tools source cutoff s fs).1) :
      Execution keepAssembly
        ⟨.ok ⟨.assembled, .success⟩,
          assemblerEvents tools source cutoff s fs ++
            (discarding source.assembly (sweeping tools source cutoff s fs).1 ++
              finalNotes source),
          (assembling tools source cutoff s fs).state, (sweeping tools source cutoff s fs).2⟩

end answers

/-! ## Every run goes one of these ways -/

/-- The rest of a run from the call of the assembler on. -/
def fromAssembling (source : Source) (keepAssembly : Bool) : Attempt Outcome := do
  let status ← callTool (.assemble source.assembly source.executable)
  if !status.isSuccess then
    note .warn s!"assembler exited with status {status}; keeping {source.assembly.display}"
    return ⟨.backendDone, status⟩
  if keepAssembly then
    note .info s!"kept {source.assembly.display}"
  else
    discard source.assembly
  advance .backendDone .assembled
  note .info s!"wrote {source.executable.display}"
  return ⟨.assembled, status⟩

/-- The rest of a run from the call of the backend on. -/
def fromCompiling (source : Source) (cutoff : Stage) (keepAssembly : Bool) : Attempt Outcome := do
  let compiled ← tryTool (.compile source.preprocessed cutoff.selection)
  let cleanup ← tryDiscard source.preprocessed
  let status ← settle compiled
  settle cleanup
  advance .preprocessed .backendDone
  if cutoff.stops then
    advance .backendDone .stopped
    return ⟨.stopped, status⟩
  if !status.isSuccess then
    note .warn s!"backend exited with status {status}"
    return ⟨.backendDone, status⟩
  fromAssembling source keepAssembly

/-- A run cut at its calls. -/
theorem execute_eq (source : Source) (cutoff : Stage) (keepAssembly : Bool) :
    execute source cutoff keepAssembly = (do
      let status ← callTool (.preprocess source.path source.preprocessed)
      if !status.isSuccess then
        note .warn s!"preprocessor exited with status {status}"
        discard source.preprocessed
        return ⟨.start, status⟩
      advance .start .preprocessed
      note .info (compileMessage source cutoff)
      fromCompiling source cutoff keepAssembly) := rfl

section ways

variable (tools : Toolchain σ) {source : Source} {cutoff : Stage} (keepAssembly : Bool) {s : σ}
  {fs : FileSystem}

theorem perform_noted (level : Log.Level) (message : String) (s : σ) (fs : FileSystem) :
    perform tools (note level message) s fs = ⟨.ok (), [noted level message], s, fs⟩ := rfl

theorem perform_advance (before after : State) (s : σ) (fs : FileSystem) :
    perform tools (advance before after) s fs = ⟨.ok (), [advanced before after], s, fs⟩ := rfl

theorem isSuccess_success : Status.success.isSuccess = true := rfl

theorem isSuccess_of_ne {status : Status} (failed : status ≠ .success) :
    status.isSuccess = false := by
  rw [← Bool.not_eq_true, isSuccess_iff]
  exact failed

/-- Once the preprocessor has succeeded, a run goes on with the backend. -/
theorem perform_of_preprocessed (cutoff : Stage)
    (preprocessed : (preprocessing tools source s fs).reply = .ok .success) :
    perform tools (execute source cutoff keepAssembly) s fs =
      let rest := perform tools (fromCompiling source cutoff keepAssembly)
        (preprocessing tools source s fs).state (preprocessing tools source s fs).files
      { rest with
        events := preprocessEvents tools source s fs ++
          advanced .start .preprocessed :: noted .info (compileMessage source cutoff) ::
            rest.events } := by
  simp only [preprocessing] at preprocessed
  simp [execute_eq, perform_bind, preprocessing, preprocessEvents, answered, preprocessed,
    perform_noted, perform_advance, isSuccess_success]

/-- In a full run, once the backend has succeeded and its input is gone, a run goes on with the
assembler. -/
theorem perform_of_compiled
    (preprocessed : (preprocessing tools source s fs).reply = .ok .success)
    (compiled : (compiling tools source cutoff s fs).reply = .ok .success)
    (cleared : Gone (clearing tools source cutoff s fs).1) (full : cutoff = .full) :
    perform tools (execute source cutoff keepAssembly) s fs =
      let rest := perform tools (fromAssembling source keepAssembly)
        (compiling tools source cutoff s fs).state (clearing tools source cutoff s fs).2
      { rest with
        events := backendEvents tools source cutoff s fs ++
          advanced .preprocessed .backendDone :: rest.events } := by
  have none_left := discarded_of_gone source.preprocessed cleared
  have goes_on : cutoff.stops = false := (stops_eq_false_iff cutoff).2 full
  rw [perform_of_preprocessed tools keepAssembly cutoff preprocessed]
  simp only [compiling, clearing] at compiled none_left
  simp [fromCompiling, perform_bind, perform_tryDiscard, backendEvents, compiling, clearing,
    answered, compiled, none_left, perform_advance, goes_on, isSuccess_success]

end ways

theorem Execution.of_eq {tools : Toolchain σ} {source : Source} {cutoff : Stage}
    {keepAssembly : Bool} {s : σ} {fs : FileSystem} {run run' : Run σ (Except Failure Outcome)}
    (way : Execution tools source cutoff s fs keepAssembly run) (same : run' = run) :
    Execution tools source cutoff s fs keepAssembly run' := same ▸ way

/-- The ways that are left once the assembler is called. -/
theorem execution_of_compiled (tools : Toolchain σ) (source : Source) (cutoff : Stage)
    (keepAssembly : Bool) (s : σ) (fs : FileSystem)
    (preprocessed : (preprocessing tools source s fs).reply = .ok .success)
    (compiled : (compiling tools source cutoff s fs).reply = .ok .success)
    (cleared : Gone (clearing tools source cutoff s fs).1) (full : cutoff = .full) :
    Execution tools source cutoff s fs keepAssembly
      (perform tools (execute source cutoff keepAssembly) s fs) := by
  have goes_on := perform_of_compiled tools keepAssembly preprocessed compiled cleared full
  rcases reply : (assembling tools source cutoff s fs).reply with failure | status
  · refine .of_eq (.assemblerUnstarted preprocessed compiled cleared full reply) ?_
    simp only [assembling] at reply
    simp [goes_on, fromAssembling, perform_bind, assemblerEvents, assembling, answered, reply]
  · by_cases failed : status = .success
    · subst failed
      cases keepAssembly with
      | true =>
        refine .of_eq (.kept preprocessed compiled cleared full reply rfl) ?_
        simp only [assembling] at reply
        simp [goes_on, fromAssembling, perform_bind, assemblerEvents, assembling, answered,
          reply, isSuccess_success, perform_noted, perform_advance, finalNotes]
      | false =>
        by_cases gone : Gone (sweeping tools source cutoff s fs).1
        · have none_left := discarded_of_gone source.assembly gone
          refine .of_eq (.swept preprocessed compiled cleared full reply rfl gone) ?_
          simp only [sweeping, assembling] at reply none_left
          simp [goes_on, fromAssembling, perform_bind, assemblerEvents, assembling,
            answered, reply, isSuccess_success, perform_discard, sweeping, none_left,
            perform_noted, perform_advance, finalNotes]
        · obtain ⟨cause, other, refused, left⟩ :=
            discarded_of_not_gone source.assembly gone
          refine .of_eq (.notSwept preprocessed compiled cleared full reply rfl refused other) ?_
          simp only [sweeping, assembling] at reply left
          simp [goes_on, fromAssembling, perform_bind, assemblerEvents, assembling,
            answered, reply, isSuccess_success, perform_discard, sweeping, left]
    · refine .of_eq (.assemblerFailed preprocessed compiled cleared full reply failed) ?_
      simp only [assembling] at reply
      simp [goes_on, fromAssembling, perform_bind, assemblerEvents, assembling, answered, reply,
        isSuccess_of_ne failed, perform_noted]

/-- The ways that are left once the backend is called. -/
theorem execution_of_preprocessed (tools : Toolchain σ) (source : Source) (cutoff : Stage)
    (keepAssembly : Bool) (s : σ) (fs : FileSystem)
    (preprocessed : (preprocessing tools source s fs).reply = .ok .success) :
    Execution tools source cutoff s fs keepAssembly
      (perform tools (execute source cutoff keepAssembly) s fs) := by
  have goes_on := perform_of_preprocessed tools keepAssembly cutoff preprocessed
  rcases reply : (compiling tools source cutoff s fs).reply with failure | status
  · refine .of_eq (.backendUnstarted preprocessed reply) ?_
    simp only [compiling] at reply
    simp [goes_on, fromCompiling, perform_bind, perform_tryDiscard, backendEvents, compiling,
      clearing, answered, reply]
  · by_cases cleared : Gone (clearing tools source cutoff s fs).1
    · have none_left := discarded_of_gone source.preprocessed cleared
      by_cases full : cutoff = .full
      · have no_stop : cutoff.stops = false := (stops_eq_false_iff cutoff).2 full
        by_cases failed : status = .success
        · subst failed
          exact execution_of_compiled tools source cutoff keepAssembly s fs preprocessed reply
            cleared full
        · refine .of_eq (.backendFailed preprocessed reply cleared full failed) ?_
          simp only [compiling, clearing] at reply none_left
          simp [goes_on, fromCompiling, perform_bind, perform_tryDiscard, backendEvents, compiling,
            clearing, answered, reply, none_left, perform_advance, no_stop,
            isSuccess_of_ne failed, perform_noted]
      · have stop : cutoff.stops = true := by
          rw [← Bool.not_eq_false, stops_eq_false_iff]
          exact full
        refine .of_eq (.stopped preprocessed reply cleared full) ?_
        simp only [compiling, clearing] at reply none_left
        simp [goes_on, fromCompiling, perform_bind, perform_tryDiscard, backendEvents, compiling,
          clearing, answered, reply, none_left, perform_advance, stop]
    · obtain ⟨cause, other, refused, left⟩ :=
        discarded_of_not_gone source.preprocessed cleared
      refine .of_eq (.notCleared preprocessed reply refused other) ?_
      simp only [compiling, clearing] at reply left
      simp [goes_on, fromCompiling, perform_bind, perform_tryDiscard, backendEvents, compiling,
        clearing, answered, reply, left]

/-- **Every run goes one of the eleven ways**, for every toolchain, source, stage, switch and
start. -/
theorem execution_perform (tools : Toolchain σ) (source : Source) (cutoff : Stage)
    (keepAssembly : Bool) (s : σ) (fs : FileSystem) :
    Execution tools source cutoff s fs keepAssembly
      (perform tools (execute source cutoff keepAssembly) s fs) := by
  rcases reply : (preprocessing tools source s fs).reply with failure | status
  · refine .of_eq (.preprocessorUnstarted reply) ?_
    simp only [preprocessing] at reply
    simp [execute_eq, perform_bind, preprocessing, preprocessEvents, answered, reply]
  · by_cases failed : status = .success
    · subst failed
      exact execution_of_preprocessed tools source cutoff keepAssembly s fs reply
    · refine .of_eq (.preprocessorFailed reply failed rfl) ?_
      simp only [preprocessing] at reply
      simp only [execute_eq, perform_bind, perform_callTool, preprocessing, preprocessEvents,
        answered, reply, isSuccess_of_ne failed, perform_noted, perform_discard, Bool.not_false,
        if_true]
      cases discarded source.preprocessed
        (removal (tools.answer (.preprocess source.path source.preprocessed) s fs).files
          source.preprocessed).1 <;>
      simp [Except.map]

end CompilerDriver.Pipeline
