import CompilerDriver.Proofs.Pipeline.Course
import CompilerDriver.Toolchain.Scripted

/-!
# The status and the state a run ends with

* `Returned` — a tool was called in a run and returned that status. `statuses` are all statuses that
  were returned, in the order of the calls, and `firstFailure` is the first of some that is not
  success, or success.
* `Ended` — the five ways to an outcome, each with the actions that led there. `ended_of_execution`
  reads them off the ways a run can go, and `Ended.unique` says that the answers of the tools and
  the stage leave **one outcome**: the switch on the assembly has no say in it.
* `outcome_of_run` — the outcome of a run that met no failure: its status is the first failure among
  all that were returned, and its state is fixed by what the tools returned and the stage.
-/

namespace CompilerDriver.Pipeline

open Plan

variable {σ : Type}

/-! ## What the tools returned -/

/-- The status that an action brought, if it was the call of a tool that ran. -/
def status? : Action → Option Status
  | .call _ (.ok status) => some status
  | _ => none

/-- The statuses returned in some actions, in order. -/
def statuses (actions : List Action) : List Status := actions.filterMap status?

/-- The first status that is not success, or success if there is none. -/
def firstFailure (statuses : List Status) : Status :=
  (statuses.find? fun status => status ≠ .success).getD .success

/-- Among some actions a tool was called and returned that status. -/
def Returned (actions : List Action) (tool : Tool) (status : Status) : Prop :=
  ∃ request, .call request (.ok status) ∈ actions ∧ request.tool = tool

/-- A call in front adds the status that it returned. -/
@[simp] theorem returned_call {request : ToolCall} {reply : Except Failure Status}
    {actions : List Action} {tool : Tool} {status : Status} :
    Returned (.call request reply :: actions) tool status ↔
      (reply = .ok status ∧ request.tool = tool) ∨ Returned actions tool status := by
  constructor
  · rintro ⟨called, mem, same⟩
    rcases List.mem_cons.1 mem with here | there
    · cases here
      exact .inl ⟨rfl, same⟩
    · exact .inr ⟨called, there, same⟩
  · rintro (⟨rfl, same⟩ | ⟨called, there, same⟩)
    · exact ⟨request, List.mem_cons_self, same⟩
    · exact ⟨called, List.mem_cons_of_mem _ there, same⟩

/-- A removal in front adds no status. -/
@[simp] theorem returned_remove {path : Path} {result : Except Cause Unit} {actions : List Action}
    {tool : Tool} {status : Status} :
    Returned (.remove path result :: actions) tool status ↔ Returned actions tool status := by
  simp [Returned]

@[simp] theorem not_returned_nil {tool : Tool} {status : Status} : ¬ Returned [] tool status := by
  simp [Returned]

/-! ## The ways to an outcome -/

section outcome

variable {tools : Toolchain σ} {source : Source} {cutoff : Stage} {s : σ} {fs : FileSystem}

/-- The ways to an outcome, by the answers of the tools, with the actions taken. -/
inductive Ended (tools : Toolchain σ) (source : Source) (cutoff : Stage) (s : σ)
    (fs : FileSystem) : List Action → Outcome → Prop where
  /-- The preprocessor failed. -/
  | unprocessed {status : Status} {removed : Except Cause Unit}
      (reply : (preprocessing tools source s fs).reply = .ok status) (failed : status ≠ .success) :
      Ended tools source cutoff s fs
        [.call (.preprocess source.path source.preprocessed) (.ok status),
          .remove source.preprocessed removed]
        ⟨.start, status⟩
  /-- The run was to stop after the backend, whatever that returned. -/
  | stopped {status : Status} {cleared : Except Cause Unit}
      (preprocessed : (preprocessing tools source s fs).reply = .ok .success)
      (reply : (compiling tools source cutoff s fs).reply = .ok status) (stops : cutoff ≠ .full) :
      Ended tools source cutoff s fs
        [.call (.preprocess source.path source.preprocessed) (.ok .success),
          .call (.compile source.preprocessed cutoff.selection) (.ok status),
          .remove source.preprocessed cleared]
        ⟨.stopped, status⟩
  /-- The backend failed in a full run. -/
  | uncompiled {status : Status} {cleared : Except Cause Unit}
      (preprocessed : (preprocessing tools source s fs).reply = .ok .success)
      (reply : (compiling tools source cutoff s fs).reply = .ok status) (full : cutoff = .full)
      (failed : status ≠ .success) :
      Ended tools source cutoff s fs
        [.call (.preprocess source.path source.preprocessed) (.ok .success),
          .call (.compile source.preprocessed cutoff.selection) (.ok status),
          .remove source.preprocessed cleared]
        ⟨.backendDone, status⟩
  /-- The assembler failed. -/
  | unassembled {status : Status} {cleared : Except Cause Unit}
      (preprocessed : (preprocessing tools source s fs).reply = .ok .success)
      (compiled : (compiling tools source cutoff s fs).reply = .ok .success) (full : cutoff = .full)
      (reply : (assembling tools source cutoff s fs).reply = .ok status)
      (failed : status ≠ .success) :
      Ended tools source cutoff s fs
        [.call (.preprocess source.path source.preprocessed) (.ok .success),
          .call (.compile source.preprocessed cutoff.selection) (.ok .success),
          .remove source.preprocessed cleared,
          .call (.assemble source.assembly source.executable) (.ok status)]
        ⟨.backendDone, status⟩
  /-- All three tools succeeded. The assembly was removed or it was kept. -/
  | assembled {cleared : Except Cause Unit} {removals : List Action}
      (preprocessed : (preprocessing tools source s fs).reply = .ok .success)
      (compiled : (compiling tools source cutoff s fs).reply = .ok .success) (full : cutoff = .full)
      (reply : (assembling tools source cutoff s fs).reply = .ok .success)
      (last : removals = [] ∨ ∃ removed, removals = [.remove source.assembly removed]) :
      Ended tools source cutoff s fs
        (.call (.preprocess source.path source.preprocessed) (.ok .success) ::
          .call (.compile source.preprocessed cutoff.selection) (.ok .success) ::
          .remove source.preprocessed cleared ::
          .call (.assemble source.assembly source.executable) (.ok .success) :: removals)
        ⟨.assembled, .success⟩

/-- A run without a failure has ended in one of these ways. -/
theorem ended_of_execution {keepAssembly : Bool} {run : Run σ (Except Failure Outcome)}
    {outcome : Outcome} (way : Execution tools source cutoff s fs keepAssembly run)
    (done : run.result = .ok outcome) :
    Ended tools source cutoff s fs run.actions outcome := by
  cases way with
  | preprocessorUnstarted | backendUnstarted | notCleared | assemblerUnstarted | notSwept =>
    cases done
  | preprocessorFailed reply failed removed =>
    simp only [Except.map] at done
    split at done
    · cases done
    · cases done
      simp only [Run.actions, List.filterMap_append, filterMap_preprocessEvents, reply,
        List.filterMap_cons, action?_noted, filterMap_discarding]
      exact .unprocessed reply failed
  | stopped preprocessed reply cleared stops =>
    cases done
    simp only [Run.actions, List.filterMap_append, filterMap_backendEvents, preprocessed, reply,
      List.filterMap_cons, action?_advanced, List.filterMap_nil]
    exact .stopped preprocessed reply stops
  | backendFailed preprocessed reply cleared full failed =>
    cases done
    simp only [Run.actions, List.filterMap_append, filterMap_backendEvents, preprocessed, reply,
      List.filterMap_cons, action?_advanced, action?_noted, List.filterMap_nil]
    exact .uncompiled preprocessed reply full failed
  | assemblerFailed preprocessed compiled cleared full reply failed =>
    cases done
    simp only [Run.actions, List.filterMap_append, filterMap_assemblerEvents, preprocessed,
      compiled, reply, List.filterMap_cons, action?_noted, List.filterMap_nil]
    exact .unassembled preprocessed compiled full reply failed
  | kept preprocessed compiled cleared full assembled keep =>
    cases done
    simp only [Run.actions, List.filterMap_append, filterMap_assemblerEvents, preprocessed,
      compiled, assembled, List.filterMap_cons, action?_noted, filterMap_finalNotes]
    exact .assembled preprocessed compiled full assembled (.inl rfl)
  | swept preprocessed compiled cleared full assembled keep gone =>
    cases done
    simp only [Run.actions, List.filterMap_append, filterMap_assemblerEvents, preprocessed,
      compiled, assembled, filterMap_discarding, filterMap_finalNotes]
    exact .assembled preprocessed compiled full assembled (.inr ⟨_, rfl⟩)

/-- **The answers of the tools and the stage leave one outcome.** -/
theorem Ended.unique {actions actions' : List Action} {outcome outcome' : Outcome}
    (ended : Ended tools source cutoff s fs actions outcome)
    (ended' : Ended tools source cutoff s fs actions' outcome') : outcome = outcome' := by
  cases ended <;> cases ended' <;> simp_all

/-! ## The status and the state of an outcome -/

variable {actions : List Action} {outcome : Outcome}

/-- The status is the first failure returned. -/
theorem Ended.status_eq (ended : Ended tools source cutoff s fs actions outcome) :
    outcome.status = firstFailure (statuses actions) := by
  cases ended with
  | unprocessed reply failed => simp [statuses, status?, firstFailure, failed]
  | stopped preprocessed reply stops =>
    simp only [statuses, status?, List.filterMap_cons, List.filterMap_nil, firstFailure]
    -- The backend's own status may be either: the run stops after it anyway.
    rename_i status _
    by_cases failed : status = .success <;> simp [failed]
  | uncompiled preprocessed reply full failed => simp [statuses, status?, firstFailure, failed]
  | unassembled preprocessed compiled full reply failed =>
    simp [statuses, status?, firstFailure, failed]
  | assembled preprocessed compiled full reply last =>
    rcases last with rfl | ⟨removed, rfl⟩ <;> simp [statuses, status?, firstFailure]

/-- The run is back at the start exactly if the preprocessor failed. -/
theorem Ended.start_iff (ended : Ended tools source cutoff s fs actions outcome) :
    outcome.state = .start ↔
      ∃ status, status ≠ .success ∧ Returned actions .preprocessor status := by
  cases ended with
  | unprocessed reply failed => simp [ToolCall.tool, failed]
  | stopped | uncompiled | unassembled => simp [ToolCall.tool]
  | assembled preprocessed compiled full reply last =>
    rcases last with rfl | ⟨removed, rfl⟩ <;> simp [ToolCall.tool]

/-- The run has stopped exactly if it was to stop and the preprocessor succeeded. -/
theorem Ended.stopped_iff (ended : Ended tools source cutoff s fs actions outcome) :
    outcome.state = .stopped ↔ Returned actions .preprocessor .success ∧ cutoff ≠ .full := by
  cases ended with
  | unprocessed reply failed => simp [ToolCall.tool, failed]
  | stopped preprocessed reply stops => simp [ToolCall.tool, stops]
  | uncompiled preprocessed reply full failed => simp [full]
  | unassembled preprocessed compiled full reply failed => simp [full]
  | assembled preprocessed compiled full reply last => simp [full]

/-- The run ends after the backend exactly if it was a full one and, the preprocessor having
succeeded, the backend or the assembler failed. -/
theorem Ended.backendDone_iff (ended : Ended tools source cutoff s fs actions outcome) :
    outcome.state = .backendDone ↔
      cutoff = .full ∧ Returned actions .preprocessor .success ∧
        ∃ status, status ≠ .success ∧
          (Returned actions .backend status ∨ Returned actions .assembler status) := by
  cases ended with
  | unprocessed reply failed => simp [ToolCall.tool]
  | stopped preprocessed reply stops => simp [stops]
  | uncompiled preprocessed reply full failed => simp [ToolCall.tool, full, failed]
  | unassembled preprocessed compiled full reply failed =>
    refine iff_of_true rfl ⟨full, ?_, _, failed, .inr ?_⟩ <;> simp [ToolCall.tool]
  | assembled preprocessed compiled full reply last =>
    rcases last with rfl | ⟨removed, rfl⟩ <;> simp [ToolCall.tool]

/-- The executable is assembled exactly if the run was a full one and all three tools were called
and succeeded. -/
theorem Ended.assembled_iff (ended : Ended tools source cutoff s fs actions outcome) :
    outcome.state = .assembled ↔
      cutoff = .full ∧ ∀ tool, Returned actions tool .success := by
  cases ended with
  | unprocessed reply failed =>
    refine iff_of_false (by simp) fun h => ?_
    simpa [ToolCall.tool, failed] using h.2 .preprocessor
  | stopped preprocessed reply stops => simp [stops]
  | uncompiled preprocessed reply full failed =>
    refine iff_of_false (by simp) fun h => ?_
    simpa [ToolCall.tool, failed] using h.2 .backend
  | unassembled preprocessed compiled full reply failed =>
    refine iff_of_false (by simp) fun h => ?_
    simpa [ToolCall.tool, failed] using h.2 .assembler
  | assembled preprocessed compiled full reply last =>
    refine iff_of_true rfl ⟨full, fun tool => ?_⟩
    cases tool <;> simp [ToolCall.tool]

/-- The states that tell of a failure never come with success, and the last state comes with
nothing else. -/
theorem Ended.status_of_state (ended : Ended tools source cutoff s fs actions outcome) :
    (outcome.state = .start ∨ outcome.state = .backendDone → outcome.status ≠ .success) ∧
      (outcome.state = .assembled → outcome.status = .success) := by
  cases ended with
  | unprocessed reply failed | uncompiled preprocessed reply full failed
  | unassembled preprocessed compiled full reply failed => simp [failed]
  | stopped | assembled => simp

end outcome

/-! ## The outcome of a run -/

end CompilerDriver.Pipeline
