import CompilerDriver.Proofs.Pipeline.Course
import CompilerDriver.Toolchain.Scripted

/-!
# The failures of a run

* `Failed` — the six ways in which a run ends in a failure, by what the tools answered and what came
  of the removals. Each says which failure is reported, which actions the run has taken by then, and
  the files it leaves.
* `Execution.unique` — the answers, the stage and the switch leave **one run**.
* `failure_of_run` — a run ends in a failure in exactly these ways, and only if a tool could not be
  started or a removal was refused: a status other than success is no failure by itself.
-/

namespace CompilerDriver.Pipeline

open Plan

variable {σ : Type}

/-! ## What can go wrong with an action -/

/-- Something has gone wrong with an action: the tool could not be started, or there is a file that
could not be removed. -/
def Broken : Action → Prop
  | .call _ reply => ∃ failure, reply = .error failure
  | .remove _ result => ¬ Gone result

@[simp] theorem gone_error {cause : Cause} : Gone (.error cause) ↔ cause = .os .notFound := by
  simp [Gone]

/-- A removal that is refused is a failure with its cause. -/
theorem discarded_of_refused (path : Path) {cause : Cause} (other : cause ≠ .os .notFound) :
    discarded path (.error cause) = .error (.notRemoved path cause) := by
  unfold discarded
  split <;> simp_all

/-- A removal that is refused changes nothing. -/
theorem removal_of_error {fs : FileSystem} {path : Path} {cause : Cause}
    (refused : (removal fs path).1 = .error cause) : (removal fs path).2 = fs := by
  unfold removal at refused ⊢
  cases unlinked : fs.unlink path with
  | ok after =>
    rw [unlinked] at refused
    cases refused
  | error cause => rfl

/-! ## The six ways -/

section failed

variable (tools : Toolchain σ) (source : Source) (cutoff : Stage) (s : σ) (fs : FileSystem)

/-- The ways a run ends in a failure, with the actions it has taken and the files it leaves. -/
inductive Failed (keepAssembly : Bool) : List Action → FileSystem → Failure → Prop where
  /-- The preprocessor could not be started. Nothing is removed. -/
  | preprocessor {failure : Failure}
      (reply : (preprocessing tools source s fs).reply = .error failure) :
      Failed keepAssembly
        [.call (.preprocess source.path source.preprocessed) (.error failure)]
        (preprocessing tools source s fs).files failure
  /-- The preprocessor failed, and what it left could not be removed. -/
  | leftover {status : Status} {cause : Cause}
      (reply : (preprocessing tools source s fs).reply = .ok status) (failed : status ≠ .success)
      (refused :
        (removal (preprocessing tools source s fs).files source.preprocessed).1 = .error cause)
      (other : cause ≠ .os .notFound) :
      Failed keepAssembly
        [.call (.preprocess source.path source.preprocessed) (.ok status),
          .remove source.preprocessed (.error cause)]
        (preprocessing tools source s fs).files (.notRemoved source.preprocessed cause)
  /-- The backend could not be started. Its input is to be removed all the same, and whatever comes
  of that is not reported. -/
  | backend {failure : Failure}
      (preprocessed : (preprocessing tools source s fs).reply = .ok .success)
      (reply : (compiling tools source cutoff s fs).reply = .error failure) :
      Failed keepAssembly
        [.call (.preprocess source.path source.preprocessed) (.ok .success),
          .call (.compile source.preprocessed cutoff.selection) (.error failure),
          .remove source.preprocessed (clearing tools source cutoff s fs).1]
        (clearing tools source cutoff s fs).2 failure
  /-- The backend returned some status, and its input could not be removed. -/
  | uncleared {status : Status} {cause : Cause}
      (preprocessed : (preprocessing tools source s fs).reply = .ok .success)
      (reply : (compiling tools source cutoff s fs).reply = .ok status)
      (refused : (clearing tools source cutoff s fs).1 = .error cause)
      (other : cause ≠ .os .notFound) :
      Failed keepAssembly
        [.call (.preprocess source.path source.preprocessed) (.ok .success),
          .call (.compile source.preprocessed cutoff.selection) (.ok status),
          .remove source.preprocessed (.error cause)]
        (compiling tools source cutoff s fs).files (.notRemoved source.preprocessed cause)
  /-- The assembler could not be started. The assembly stays. -/
  | assembler {failure : Failure}
      (preprocessed : (preprocessing tools source s fs).reply = .ok .success)
      (compiled : (compiling tools source cutoff s fs).reply = .ok .success)
      (cleared : Gone (clearing tools source cutoff s fs).1) (full : cutoff = .full)
      (reply : (assembling tools source cutoff s fs).reply = .error failure) :
      Failed keepAssembly
        [.call (.preprocess source.path source.preprocessed) (.ok .success),
          .call (.compile source.preprocessed cutoff.selection) (.ok .success),
          .remove source.preprocessed (clearing tools source cutoff s fs).1,
          .call (.assemble source.assembly source.executable) (.error failure)]
        (assembling tools source cutoff s fs).files failure
  /-- The assembler succeeded, and the assembly could not be removed. What the assembler made stays.
  -/
  | unswept {cause : Cause}
      (preprocessed : (preprocessing tools source s fs).reply = .ok .success)
      (compiled : (compiling tools source cutoff s fs).reply = .ok .success)
      (cleared : Gone (clearing tools source cutoff s fs).1) (full : cutoff = .full)
      (assembled : (assembling tools source cutoff s fs).reply = .ok .success)
      (discards : keepAssembly = false)
      (refused : (sweeping tools source cutoff s fs).1 = .error cause)
      (other : cause ≠ .os .notFound) :
      Failed keepAssembly
        [.call (.preprocess source.path source.preprocessed) (.ok .success),
          .call (.compile source.preprocessed cutoff.selection) (.ok .success),
          .remove source.preprocessed (clearing tools source cutoff s fs).1,
          .call (.assemble source.assembly source.executable) (.ok .success),
          .remove source.assembly (.error cause)]
        (assembling tools source cutoff s fs).files (.notRemoved source.assembly cause)

end failed

section ways

variable {tools : Toolchain σ} {source : Source} {cutoff : Stage} {keepAssembly : Bool} {s : σ}
  {fs : FileSystem}

/-- **The answers, the stage and the switch leave one run.** -/
theorem Execution.unique {run run' : Run σ (Except Failure Outcome)}
    (way : Execution tools source cutoff s fs keepAssembly run)
    (way' : Execution tools source cutoff s fs keepAssembly run') : run = run' := by
  cases way <;> cases way' <;> simp_all

/-- A run with a failure has ended in one of the six ways. -/
theorem failed_of_execution {run : Run σ (Except Failure Outcome)} {failure : Failure}
    (way : Execution tools source cutoff s fs keepAssembly run)
    (raised : run.result = .error failure) :
    Failed tools source cutoff s fs keepAssembly run.actions run.files failure := by
  cases way with
  | stopped | backendFailed | assemblerFailed | kept | swept => cases raised
  | preprocessorUnstarted reply =>
    cases raised
    simp only [Run.actions, filterMap_preprocessEvents, reply]
    exact .preprocessor reply
  | preprocessorFailed reply failed removed =>
    subst removed
    by_cases gone : Gone (removal (preprocessing tools source s fs).files source.preprocessed).1
    · simp [discarded_of_gone _ gone, Except.map] at raised
    · obtain ⟨cause, other, refused, left⟩ := discarded_of_not_gone source.preprocessed gone
      simp only [left, Except.map] at raised
      cases raised
      simp only [Run.actions, List.filterMap_append, filterMap_preprocessEvents, reply,
        List.filterMap_cons, action?_noted, filterMap_discarding, refused,
        removal_of_error refused]
      exact .leftover reply failed refused other
  | backendUnstarted preprocessed reply =>
    cases raised
    simp only [Run.actions, filterMap_backendEvents, preprocessed, reply]
    exact .backend preprocessed reply
  | notCleared preprocessed reply refused other =>
    cases raised
    have unchanged : (clearing tools source cutoff s fs).2 = _ := removal_of_error refused
    simp only [Run.actions, filterMap_backendEvents, preprocessed, reply, refused, unchanged]
    exact .uncleared preprocessed reply refused other
  | assemblerUnstarted preprocessed compiled cleared full reply =>
    cases raised
    simp only [Run.actions, filterMap_assemblerEvents, preprocessed, compiled, reply]
    exact .assembler preprocessed compiled cleared full reply
  | notSwept preprocessed compiled cleared full assembled keep refused other =>
    cases raised
    have unchanged : (sweeping tools source cutoff s fs).2 = _ := removal_of_error refused
    simp only [Run.actions, List.filterMap_append, filterMap_assemblerEvents, preprocessed,
      compiled, assembled, filterMap_discarding, refused, unchanged]
    exact .unswept preprocessed compiled cleared full assembled keep refused other

/-- What leads to a failure leaves a run one way to go, and there it ends in that failure. -/
theorem Failed.execution {actions : List Action} {files : FileSystem} {failure : Failure}
    (failed : Failed tools source cutoff s fs keepAssembly actions files failure) :
    ∃ run, Execution tools source cutoff s fs keepAssembly run ∧ run.result = .error failure := by
  cases failed with
  | preprocessor reply => exact ⟨_, .preprocessorUnstarted reply, rfl⟩
  | leftover reply failed refused other =>
    refine ⟨_, .preprocessorFailed reply failed rfl, ?_⟩
    rw [refused, discarded_of_refused source.preprocessed other]
    rfl
  | backend preprocessed reply => exact ⟨_, .backendUnstarted preprocessed reply, rfl⟩
  | uncleared preprocessed reply refused other =>
    exact ⟨_, .notCleared preprocessed reply refused other, rfl⟩
  | assembler preprocessed compiled cleared full reply =>
    exact ⟨_, .assemblerUnstarted preprocessed compiled cleared full reply, rfl⟩
  | unswept preprocessed compiled cleared full assembled discards refused other =>
    exact ⟨_, .notSwept preprocessed compiled cleared full assembled discards refused other, rfl⟩

/-- What leads to a failure leaves one account of the run. -/
theorem Failed.unique {actions actions' : List Action} {files files' : FileSystem}
    {failure failure' : Failure}
    (failed : Failed tools source cutoff s fs keepAssembly actions files failure)
    (failed' : Failed tools source cutoff s fs keepAssembly actions' files' failure') :
    actions = actions' ∧ files = files' ∧ failure = failure' := by
  cases failed <;> cases failed' <;> simp_all

/-- On the way to an outcome nothing has gone wrong. -/
theorem Execution.not_broken {run : Run σ (Except Failure Outcome)}
    (way : Execution tools source cutoff s fs keepAssembly run) {outcome : Outcome}
    (done : run.result = .ok outcome) : ∀ action ∈ run.actions, ¬ Broken action := by
  cases way with
  | preprocessorUnstarted | backendUnstarted | notCleared | assemblerUnstarted | notSwept =>
    cases done
  | preprocessorFailed reply failed removed =>
    subst removed
    by_cases gone : Gone (removal (preprocessing tools source s fs).files source.preprocessed).1
    · simp [Run.actions, List.filterMap_cons, reply, Broken, gone]
    · obtain ⟨cause, -, -, raised⟩ := discarded_of_not_gone source.preprocessed gone
      simp [raised, Except.map] at done
  | stopped preprocessed reply cleared stops =>
    simp [Run.actions, List.filterMap_cons, preprocessed, reply, Broken, cleared]
  | backendFailed preprocessed reply cleared full failed =>
    simp [Run.actions, List.filterMap_cons, preprocessed, reply, Broken, cleared]
  | assemblerFailed preprocessed compiled cleared full reply failed =>
    simp [Run.actions, List.filterMap_cons, preprocessed, compiled, reply, Broken, cleared]
  | kept preprocessed compiled cleared full assembled keep =>
    simp [Run.actions, List.filterMap_append, List.filterMap_cons, preprocessed, compiled,
      assembled, Broken, cleared, -List.mem_filterMap]
  | swept preprocessed compiled cleared full assembled keep gone =>
    simp [Run.actions, preprocessed, compiled, assembled, Broken, cleared, gone]

/-- On the way to a failure something has gone wrong. -/
theorem Failed.broken {actions : List Action} {files : FileSystem} {failure : Failure}
    (failed : Failed tools source cutoff s fs keepAssembly actions files failure) :
    ∃ action ∈ actions, Broken action := by
  cases failed with
  | preprocessor reply => exact ⟨_, List.mem_cons_self, failure, rfl⟩
  | backend preprocessed reply =>
    exact ⟨_, List.mem_cons_of_mem _ List.mem_cons_self, failure, rfl⟩
  | assembler preprocessed compiled cleared full reply =>
    exact ⟨_, List.mem_of_getLast? rfl, failure, rfl⟩
  | leftover reply failed refused other | uncleared preprocessed reply refused other
  | unswept preprocessed compiled cleared full assembled discards refused other =>
    exact ⟨_, List.mem_of_getLast? rfl, not_gone_of_refused other⟩

end ways

/-! ## The failure of a run -/

/-- **Which failure a run reports.** It ends in a failure exactly in the six ways, and in each with
that failure, after these actions and with these files left. It does so exactly if something has
gone wrong with one of its actions; what statuses the tools return makes none by itself. -/
theorem failure_of_run (tools : Toolchain σ) (source : Source) (cutoff : Stage)
    (keepAssembly : Bool) (s : σ) (fs : FileSystem) :
    let run := perform tools (execute source cutoff keepAssembly) s fs
    (∀ failure, run.result = .error failure ↔
      ∃ actions files, Failed tools source cutoff s fs keepAssembly actions files failure) ∧
    (∀ actions files failure,
      Failed tools source cutoff s fs keepAssembly actions files failure →
        run.actions = actions ∧ run.files = files) ∧
    ((∃ failure, run.result = .error failure) ↔ ∃ action ∈ run.actions, Broken action) := by
  intro run
  have way : Execution tools source cutoff s fs keepAssembly run :=
    execution_perform tools source cutoff keepAssembly s fs
  -- What leads to a failure leads this run to it.
  have raises : ∀ {actions files failure},
      Failed tools source cutoff s fs keepAssembly actions files failure →
        run.result = .error failure := by
    intro actions files failure failed
    obtain ⟨run', way', raised⟩ := failed.execution
    rw [way.unique way', raised]
  refine ⟨?_, ?_, ?_⟩
  · intro failure
    constructor
    · intro raised
      exact ⟨_, _, failed_of_execution way raised⟩
    · rintro ⟨actions, files, failed⟩
      exact raises failed
  · intro actions files failure failed
    obtain ⟨taken, left, -⟩ := (failed_of_execution way (raises failed)).unique failed
    exact ⟨taken, left⟩
  · constructor
    · rintro ⟨failure, raised⟩
      exact (failed_of_execution way raised).broken
    · rintro ⟨action, mem, broken⟩
      cases result : run.result with
      | error failure => exact ⟨failure, rfl⟩
      | ok outcome => exact absurd broken (way.not_broken result action mem)

/-- The backend could not be started, and the preprocessor has made a directory that cannot be
removed: the first of the two is reported. -/
example :
    let unstarted : Failure := .notStarted .backend "bin/compiler" (.os .notFound)
    let tools := Scripted.toolchain
      { preprocess := { actions := [.makeDirectories Scripted.outputWord] }
        compile := { failure := some unstarted } }
    let run := perform tools
      (execute ⟨Path.ofString "./foo.c", Path.ofString "./foo"⟩ .full false) []
      { entries := [], cwd := [] }
    run.result = .error unstarted ∧
      .remove (Path.ofString "./foo.i") (.error (.os .isDirectory)) ∈ run.actions :=
  ⟨rfl, List.mem_of_getLast? rfl⟩

end CompilerDriver.Pipeline
