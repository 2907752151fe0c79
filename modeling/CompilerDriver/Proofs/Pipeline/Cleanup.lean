import CompilerDriver.Proofs.FileSystem.Vacancy
import CompilerDriver.Proofs.Pipeline.Course
import CompilerDriver.Proofs.Source.Names
import CompilerDriver.Toolchain.Scripted

/-!
# What becomes of the intermediate files

* `vacant_of_gone` and `get?_removal` — what one removal does to the files.
* `Execution.of_callsAssembler` — the one moment at which a run may call the assembler: the
  preprocessed file has been removed just before, and after it at most the assembly is removed.
* `CleanedUp` — what a run leaves of the intermediate files, what it never removes, and that the
  executable stays.
* `cleanedUp_of_run` — **every run of an accepted source cleans up**, whatever the tools do to the
  files in each call. What has to be known of the source is the three names beside it.
-/

namespace CompilerDriver.Pipeline

open Plan FileSystem

variable {σ : Type}

/-! ## Removals -/

/-- A removal that has served leaves the path vacant. -/
theorem vacant_of_gone {fs : FileSystem} {path : Path} (bare : Bare path)
    (gone : Gone (removal fs path).1) : (removal fs path).2.Vacant path := by
  unfold removal at gone ⊢
  rcases unlinked : fs.unlink path with cause | after
  · rw [unlinked] at gone
    rcases gone with done | none_there
    · cases done
    · cases none_there
      exact vacant_of_unlink_notFound bare unlinked
  · exact vacant_of_unlink unlinked

/-- A removal leaves alone what its path does not name. -/
theorem get?_removal {fs : FileSystem} {path : Path} {l : Location} (other : ¬ fs.Names path l) :
    (removal fs path).2.get? l = fs.get? l := by
  unfold removal
  rcases unlinked : fs.unlink path with cause | after
  · rfl
  · exact get?_unlink unlinked other

/-- A removal without a failure has served. -/
theorem gone_of_discarded {path : Path} {result : Except Cause Unit}
    (done : discarded path result = .ok ()) : Gone result := by
  by_cases gone : Gone result
  · exact gone
  · obtain ⟨cause, -, -, left⟩ := discarded_of_not_gone path gone
    rw [left] at done
    cases done

/-! ## The moment of the assembler -/

section ending

variable (tools : Toolchain σ) (source : Source) (cutoff : Stage) (s : σ) (fs : FileSystem)

/-- A removal and the record of it lead where the removal leads. -/
theorem ending_discarding (path : Path) :
    ending tools s fs (discarding path (removal fs path).1) = (s, (removal fs path).2) := by
  unfold discarding
  cases (removal fs path).1 <;> rfl

theorem ending_preprocessEvents :
    ending tools s fs (preprocessEvents tools source s fs) =
      ((preprocessing tools source s fs).state, (preprocessing tools source s fs).files) := rfl

/-- The assembler is called where the removal of the preprocessed file has led. -/
theorem ending_backendEvents :
    ending tools s fs (backendEvents tools source cutoff s fs) =
      ((compiling tools source cutoff s fs).state, (clearing tools source cutoff s fs).2) := by
  rw [backendEvents, ending_append, ending_append, ending_preprocessEvents]
  exact ending_discarding tools _ _ _

/-- The moment at which the assembler is called, if it is. -/
def assemblerMoment : Moment σ where
  event := answered (.assemble source.assembly source.executable)
    (assembling tools source cutoff s fs)
  state := (compiling tools source cutoff s fs).state
  files := (clearing tools source cutoff s fs).2

end ending

/-- At a moment the assembler is called. -/
def CallsAssembler (m : Moment σ) : Prop :=
  ∃ action, m.event.action? = some action ∧ action.Calls .assembler

section assembler

variable {tools : Toolchain σ} {source : Source} {cutoff : Stage} {s : σ} {fs : FileSystem}
  {keepAssembly : Bool} {run : Run σ (Except Failure Outcome)} {m : Moment σ}

/-- Among events that hold no call of the assembler there is no moment of it. -/
theorem not_callsAssembler_of_mem {events : List Event} {s : σ} {fs : FileSystem}
    (none_there : ∀ action ∈ events.filterMap Event.action?, ¬ action.Calls .assembler)
    (mem : m ∈ moments tools s fs events) : ¬ CallsAssembler m := by
  rintro ⟨action, event, calls⟩
  have happens := List.mem_filterMap.2 ⟨m.event, event_mem_of_mem_moments mem, event⟩
  exact none_there action happens calls

/-- Up to the answer of the assembler there is one moment of its call. -/
theorem moment_of_assemblerEvents
    (mem : m ∈ moments tools s fs (assemblerEvents tools source cutoff s fs))
    (calls : CallsAssembler m) : m = assemblerMoment tools source cutoff s fs := by
  rw [assemblerEvents, moments_append, ending_backendEvents] at mem
  rcases List.mem_append.1 mem with early | late
  · refine absurd calls (not_callsAssembler_of_mem ?_ early)
    simp [Action.Calls, ToolCall.tool]
  · rcases List.mem_cons.1 late with rfl | last
    · obtain ⟨action, event, -⟩ := calls
      cases event
    · exact List.mem_singleton.1 last

/-- When the assembler is called the preprocessed file has been removed, and afterwards at most the
assembly is removed. -/
theorem Execution.of_callsAssembler (way : Execution tools source cutoff s fs keepAssembly run)
    (mem : m ∈ moments tools s fs run.events) (calls : CallsAssembler m) :
    m = assemblerMoment tools source cutoff s fs ∧
      Gone (clearing tools source cutoff s fs).1 ∧
      (run.files = (assembling tools source cutoff s fs).files ∨
        run.files = (sweeping tools source cutoff s fs).2) := by
  -- What comes after the assembler's answer is no call of it.
  have of_tail : ∀ tail : List Event,
      (∀ action ∈ tail.filterMap Event.action?, ¬ action.Calls .assembler) →
      m ∈ moments tools s fs (assemblerEvents tools source cutoff s fs ++ tail) →
      m = assemblerMoment tools source cutoff s fs := by
    intro tail quiet mem
    rw [moments_append] at mem
    rcases List.mem_append.1 mem with early | late
    · exact moment_of_assemblerEvents early calls
    · exact absurd calls (not_callsAssembler_of_mem quiet late)
  cases way with
  | preprocessorUnstarted | preprocessorFailed | backendUnstarted | notCleared | stopped
  | backendFailed =>
    refine absurd calls (not_callsAssembler_of_mem ?_ mem)
    simp [Action.Calls, ToolCall.tool, List.filterMap_cons]
  | assemblerUnstarted preprocessed compiled cleared full reply =>
    exact ⟨moment_of_assemblerEvents mem calls, cleared, .inl rfl⟩
  | assemblerFailed preprocessed compiled cleared full reply failed =>
    exact ⟨of_tail _ (by simp [List.filterMap_cons]) mem, cleared, .inl rfl⟩
  | kept preprocessed compiled cleared full assembled keep =>
    exact ⟨of_tail _ (by simp [List.filterMap_cons]) mem, cleared, .inl rfl⟩
  | notSwept preprocessed compiled cleared full assembled keep refused other =>
    exact ⟨of_tail _ (by simp [Action.Calls]) mem, cleared, .inr rfl⟩
  | swept preprocessed compiled cleared full assembled keep gone =>
    exact ⟨of_tail _ (by simp [Action.Calls]) mem, cleared, .inr rfl⟩

end assembler

/-! ## What each way leaves -/

section cleanup

variable {tools : Toolchain σ} {source : Source} {cutoff : Stage} {s : σ} {fs : FileSystem}
  {keepAssembly : Bool} {run : Run σ (Except Failure Outcome)}

/-- Without the assembler, a run that has ended well has removed the preprocessed file last. -/
theorem Execution.cleared (way : Execution tools source cutoff s fs keepAssembly run)
    (bare : Bare source.preprocessed) {outcome : Outcome} (done : run.result = .ok outcome)
    (none_there : ∀ a ∈ run.actions, ¬ a.Calls .assembler) :
    run.files.Vacant source.preprocessed := by
  cases way with
  | preprocessorUnstarted | backendUnstarted | notCleared | assemblerUnstarted | notSwept =>
    cases done
  | preprocessorFailed reply failed removed =>
    subst removed
    simp only [Except.map] at done
    split at done
    · cases done
    · rename_i discards
      exact vacant_of_gone bare (gone_of_discarded discards)
  | stopped preprocessed reply cleared stops => exact vacant_of_gone bare cleared
  | backendFailed preprocessed reply cleared full failed => exact vacant_of_gone bare cleared
  | assemblerFailed | kept | swept =>
    simp [Run.actions, List.filterMap_cons, Action.Calls, ToolCall.tool] at none_there

/-- A backend that could not be started is followed by the removal of its input. -/
theorem Execution.cleared_of_backend_error
    (way : Execution tools source cutoff s fs keepAssembly run) (bare : Bare source.preprocessed)
    {failure : Failure}
    (called :
      .call (.compile source.preprocessed cutoff.selection) (.error failure) ∈ run.actions) :
    run.files.Vacant source.preprocessed ∨
      ∃ cause, cause ≠ .os .notFound ∧
        .remove source.preprocessed (.error cause) ∈ run.actions := by
  cases way with
  | backendUnstarted preprocessed reply =>
    by_cases gone : Gone (clearing tools source cutoff s fs).1
    · exact .inl (vacant_of_gone bare gone)
    · obtain ⟨cause, other, refused, -⟩ := discarded_of_not_gone source.preprocessed gone
      refine .inr ⟨cause, other, ?_⟩
      simp [Run.actions, refused]
  | preprocessorUnstarted | preprocessorFailed => simp [Run.actions, List.filterMap_cons] at called
  | notCleared preprocessed reply | stopped preprocessed reply | backendFailed preprocessed reply =>
    simp [Run.actions, List.filterMap_cons, reply] at called
  | assemblerUnstarted preprocessed compiled | assemblerFailed preprocessed compiled
  | kept preprocessed compiled | notSwept preprocessed compiled | swept preprocessed compiled =>
    simp [Run.actions, List.filterMap_cons, compiled] at called

/-- A run that has gone all the way has removed the assembly last, if it is not to be kept. -/
theorem Execution.swept_of_assembled (way : Execution tools source cutoff s fs keepAssembly run)
    (bare : Bare source.assembly) {status : Status} (done : run.result = .ok ⟨.assembled, status⟩)
    (discards : keepAssembly = false) : run.files.Vacant source.assembly := by
  cases way with
  | preprocessorUnstarted | backendUnstarted | notCleared | assemblerUnstarted | notSwept
  | stopped | backendFailed | assemblerFailed =>
    cases done
  | preprocessorFailed reply failed removed =>
    simp only [Except.map] at done
    split at done <;> cases done
  | kept preprocessed compiled cleared full assembled keep =>
    rw [keep] at discards
    cases discards
  | swept preprocessed compiled cleared full assembled keep gone => exact vacant_of_gone bare gone

/-- What a run removes is an intermediate file. -/
theorem Execution.of_unlinked (way : Execution tools source cutoff s fs keepAssembly run)
    {m : Moment σ} (mem : m ∈ moments tools s fs run.events) {path : Path}
    {result : Except Cause Unit} (event : m.event = .unlinked path result) :
    .remove path result ∈ run.actions ∧
      (path = source.preprocessed ∨ path = source.assembly) := by
  have action : .remove path result ∈ run.actions := by
    refine List.mem_filterMap.2 ⟨m.event, event_mem_of_mem_moments mem, ?_⟩
    rw [event]
    rfl
  exact ⟨action, ((course_of_execution way).of_remove action).imp id And.left⟩

/-- A removal changes nothing at its moment but what its path names. -/
theorem get?_next_of_unlinked {m : Moment σ} {path : Path} {result : Except Cause Unit}
    (event : m.event = .unlinked path result) {l : Location} (other : ¬ m.files.Names path l) :
    (m.next tools).2.get? l = m.files.get? l := by
  rw [Moment.next, event]
  exact get?_removal other

/-- On the way of a run that was to stop, in which the assembly was to be kept, or in which a tool
did not succeed, the assembly is not removed. -/
theorem Execution.path_eq_of_remove (way : Execution tools source cutoff s fs keepAssembly run)
    (stays : cutoff ≠ .full ∨ keepAssembly = true ∨
      ∃ request reply, .call request reply ∈ run.actions ∧ reply ≠ .ok .success)
    {path : Path} {result : Except Cause Unit} (mem : .remove path result ∈ run.actions) :
    path = source.preprocessed := by
  rcases (course_of_execution way).of_remove mem with eq | ⟨-, full, discards, served⟩
  · exact eq
  · rcases stays with stops | keep | ⟨request, reply, called, failed⟩
    · exact absurd full stops
    · rw [keep] at discards
      cases discards
    · exact absurd (served request reply called) failed

end cleanup

/-! ## The intermediate files of a run -/

/-- What a run leaves of the intermediate files, and what it never removes. -/
structure CleanedUp (tools : Toolchain σ) (source : Source) (cutoff : Stage) (keepAssembly : Bool)
    (s : σ) (fs : FileSystem) (run : Run σ (Except Failure Outcome)) : Prop where
  /-- A run that has ended well without the assembler leaves no preprocessed file. -/
  cleared : ∀ outcome, run.result = .ok outcome →
    (∀ a ∈ run.actions, ¬ a.Calls .assembler) → run.files.Vacant source.preprocessed
  /-- When the assembler is called there is no preprocessed file. -/
  cleared_before_assembler : ∀ m ∈ moments tools s fs run.events, CallsAssembler m →
    m.files.Vacant source.preprocessed
  /-- A backend that could not be started leaves none either, unless the removal is refused. -/
  cleared_of_backend_error : ∀ failure,
    .call (.compile source.preprocessed cutoff.selection) (.error failure) ∈ run.actions →
      run.files.Vacant source.preprocessed ∨
        ∃ cause, cause ≠ .os .notFound ∧
          .remove source.preprocessed (.error cause) ∈ run.actions
  /-- A run that has gone all the way leaves no assembly if it is not to be kept. -/
  swept : ∀ status, run.result = .ok ⟨.assembled, status⟩ → keepAssembly = false →
    run.files.Vacant source.assembly
  /-- The assembly is not removed in a run that was to stop, in which it was to be kept, or in which
  a tool failed or could not be started. -/
  keeps_assembly :
    (cutoff ≠ .full ∨ keepAssembly = true ∨
        ∃ request reply, .call request reply ∈ run.actions ∧ reply ≠ .ok .success) →
      (∀ path result, .remove path result ∈ run.actions →
        path.components ≠ source.assembly.components) ∧
      ∀ m ∈ moments tools s fs run.events, ∀ path result, m.event = .unlinked path result →
        ∀ l, m.files.Names source.assembly l → (m.next tools).2.get? l = m.files.get? l
  /-- No removal takes away the entry that the path of the executable names. -/
  spares_executable : ∀ m ∈ moments tools s fs run.events, ∀ path result,
    m.event = .unlinked path result →
      ∀ l, m.files.Names source.executable l → (m.next tools).2.get? l = m.files.get? l
  /-- What the assembler has left there is there at the end. -/
  keeps_executable : ∀ m ∈ moments tools s fs run.events, CallsAssembler m →
    ∀ l, (m.next tools).2.Names source.executable l →
      run.files.get? l = (m.next tools).2.get? l

/-- **Every run of an accepted source cleans up**, for every toolchain, whatever it does to the
files in each call. -/
theorem cleanedUp_of_run {checked : FileSystem} {p : Path} {source : Source}
    (accepted : Source.validate checked p = .ok source) (tools : Toolchain σ) (cutoff : Stage)
    (keepAssembly : Bool) (s : σ) (fs : FileSystem) :
    CleanedUp tools source cutoff keepAssembly s fs
      (perform tools (execute source cutoff keepAssembly) s fs) := by
  have way := execution_perform tools source cutoff keepAssembly s fs
  obtain ⟨directory, stem, extension, named, -⟩ := Source.named_of_validate accepted
  obtain ⟨i_ne_s, i_ne_name, s_ne_name⟩ := named.fileNames_ne
  obtain ⟨bare_i, bare_s⟩ := named.ends
  constructor
  case cleared =>
    intro outcome done none_there
    exact way.cleared bare_i done none_there
  case cleared_before_assembler =>
    intro m mem calls
    obtain ⟨rfl, cleared, -⟩ := way.of_callsAssembler mem calls
    exact vacant_of_gone bare_i cleared
  case cleared_of_backend_error =>
    intro failure called
    exact way.cleared_of_backend_error bare_i called
  case swept =>
    intro status done discards
    exact way.swept_of_assembled bare_s done discards
  case keeps_assembly =>
    intro stays
    constructor
    · intro path result mem same
      obtain rfl := way.path_eq_of_remove stays mem
      obtain ⟨name_i, name_s, -⟩ := named.fileNames
      exact i_ne_s (Path.fileName?_of_components (by simp [name_i]) (by simp [name_s]) same)
    · intro m mem path result event l names
      obtain rfl := way.path_eq_of_remove stays (way.of_unlinked mem event).1
      exact get?_next_of_unlinked event (not_names_of_fileName?_ne names i_ne_s)
  case spares_executable =>
    intro m mem path result event l names
    refine get?_next_of_unlinked event (not_names_of_fileName?_ne names ?_)
    rcases (way.of_unlinked mem event).2 with rfl | rfl
    · exact i_ne_name
    · exact s_ne_name
  case keeps_executable =>
    intro m mem calls l names
    obtain ⟨rfl, -, unchanged | swept⟩ := way.of_callsAssembler mem calls
    · rw [unchanged]
      rfl
    · rw [swept]
      exact get?_removal (not_names_of_fileName?_ne names s_ne_name)

/-- A run on `foo.c` in which each tool writes what it should. The assembly was there and is gone.
-/
theorem cleanedUp_of_writing_tools :
    let output : Scripted.Turn := { actions := [.write Scripted.outputWord [] false] }
    let assembly : Scripted.Turn := { actions := [.write (Path.ofString "./foo.s") [] false] }
    let tools :=
      Scripted.toolchain { preprocess := output, compile := assembly, assemble := output }
    let source : Source := ⟨Path.ofString "./foo.c", Path.ofString "./foo"⟩
    let start : FileSystem := { entries := [([Bytes.ofString "foo.c"], .file 0)], cwd := [] }
    let run := perform tools (execute source .full false) [] start
    Source.validate start (Path.ofString "foo.c") = .ok source ∧
      CleanedUp tools source .full false [] start run ∧
      (run.files.get? [Bytes.ofString "foo"]).isSome ∧
      (run.files.get? [Bytes.ofString "foo.s"]).isNone := by
  intro output assembly tools source start run
  have accepted : Source.validate start (Path.ofString "foo.c") = .ok source := rfl
  refine ⟨accepted, cleanedUp_of_run accepted tools .full false [] start, ?_, ?_⟩ <;>
  decide +kernel

end CompilerDriver.Pipeline
