import CompilerDriver.Proofs.Pipeline.Execution

/-!
# The order of a run's actions

* `Course` — the sequences of actions a run may take, by what came of them: five shapes, told
  apart by the replies, the stage and the switch, so that the replies fix which one it is.
* `course_perform` — every run takes a course, **whatever the toolchain answers and does to the
  files in between**.
* `actions_of_run` — with what `run_genuine` and `run_ending` say of every plan: the actions of a
  run are a course, each reply is the one that was really given, nothing else changes the files, no
  tool is called twice, and the assembler is called only in a full run in which all has served so
  far.
-/

namespace CompilerDriver.Pipeline

open Plan

variable {σ : Type}

/-- The actions a run takes, in order, each with what came of it. -/
inductive Course (source : Source) (cutoff : Stage) (keepAssembly : Bool) : List Action → Prop where
  /-- The preprocessor cannot be started: nothing more. -/
  | unstarted (failure : Failure) :
      Course source cutoff keepAssembly
        [.call (.preprocess source.path source.preprocessed) (.error failure)]
  /-- The preprocessor fails: what it left is removed, and nothing more. -/
  | unprocessed {status : Status} (failed : status ≠ .success) (removed : Except Cause Unit) :
      Course source cutoff keepAssembly
        [.call (.preprocess source.path source.preprocessed) (.ok status),
          .remove source.preprocessed removed]
  /-- The backend is called and, whatever it returns, its input is removed. Something stands
  against going on. -/
  | compiled {reply : Except Failure Status} {cleared : Except Cause Unit}
      (ends : ¬ (reply = .ok .success ∧ Gone cleared ∧ cutoff = .full)) :
      Course source cutoff keepAssembly
        [.call (.preprocess source.path source.preprocessed) (.ok .success),
          .call (.compile source.preprocessed cutoff.selection) reply,
          .remove source.preprocessed cleared]
  /-- Nothing stands against it, and the assembler is called. The assembly stays. -/
  | assembled {cleared : Except Cause Unit} {reply : Except Failure Status} (gone : Gone cleared)
      (full : cutoff = .full) (stays : ¬ (reply = .ok .success ∧ keepAssembly = false)) :
      Course source cutoff keepAssembly
        [.call (.preprocess source.path source.preprocessed) (.ok .success),
          .call (.compile source.preprocessed cutoff.selection) (.ok .success),
          .remove source.preprocessed cleared,
          .call (.assemble source.assembly source.executable) reply]
  /-- The assembler succeeds, and the assembly is removed. -/
  | swept {cleared : Except Cause Unit} (gone : Gone cleared) (full : cutoff = .full)
      (discards : keepAssembly = false) (removed : Except Cause Unit) :
      Course source cutoff keepAssembly
        [.call (.preprocess source.path source.preprocessed) (.ok .success),
          .call (.compile source.preprocessed cutoff.selection) (.ok .success),
          .remove source.preprocessed cleared,
          .call (.assemble source.assembly source.executable) (.ok .success),
          .remove source.assembly removed]

/-- An action has served: the tool ran and succeeded, or the file is gone. -/
def Served : Action → Prop
  | .call _ reply => reply = .ok .success
  | .remove _ result => Gone result

/-! ## The actions among the events -/

section actions

variable (tools : Toolchain σ) (source : Source) (cutoff : Stage) (s : σ) (fs : FileSystem)

@[simp] theorem action?_answered (request : ToolCall) (answer : Answer σ) :
    (answered request answer).action? = some (.call request answer.reply) := rfl

@[simp] theorem action?_noted (level : Log.Level) (message : String) :
    (noted level message).action? = none := rfl

@[simp] theorem action?_advanced (before after : State) : (advanced before after).action? = none :=
  rfl

@[simp] theorem filterMap_discarding (path : Path) (result : Except Cause Unit) :
    (discarding path result).filterMap Event.action? = [.remove path result] := by
  rcases result with cause | ⟨⟩ <;> rfl

@[simp] theorem filterMap_preprocessEvents :
    (preprocessEvents tools source s fs).filterMap Event.action? =
      [.call (.preprocess source.path source.preprocessed)
        (preprocessing tools source s fs).reply] := rfl

@[simp] theorem filterMap_backendEvents :
    (backendEvents tools source cutoff s fs).filterMap Event.action? =
      [.call (.preprocess source.path source.preprocessed) (preprocessing tools source s fs).reply,
        .call (.compile source.preprocessed cutoff.selection)
          (compiling tools source cutoff s fs).reply,
        .remove source.preprocessed (clearing tools source cutoff s fs).1] := by
  simp [backendEvents, List.filterMap_cons]

@[simp] theorem filterMap_assemblerEvents :
    (assemblerEvents tools source cutoff s fs).filterMap Event.action? =
      [.call (.preprocess source.path source.preprocessed) (preprocessing tools source s fs).reply,
        .call (.compile source.preprocessed cutoff.selection)
          (compiling tools source cutoff s fs).reply,
        .remove source.preprocessed (clearing tools source cutoff s fs).1,
        .call (.assemble source.assembly source.executable)
          (assembling tools source cutoff s fs).reply] := by
  simp [assemblerEvents, List.filterMap_cons]

@[simp] theorem filterMap_finalNotes : (finalNotes source).filterMap Event.action? = [] := rfl

end actions

/-! ## Every run takes a course -/

/-- A removal that is refused has not served. -/
theorem not_gone_of_refused {cause : Cause} (other : cause ≠ .os .notFound) :
    ¬ Gone (.error cause) := by
  rintro (gone | gone)
  · cases gone
  · cases gone
    exact other rfl

/-- The actions of each way a run can go are a course. -/
theorem course_of_execution {tools : Toolchain σ} {source : Source} {cutoff : Stage}
    {keepAssembly : Bool} {s : σ} {fs : FileSystem} {run : Run σ (Except Failure Outcome)}
    (way : Execution tools source cutoff s fs keepAssembly run) :
    Course source cutoff keepAssembly run.actions := by
  cases way with
  | preprocessorUnstarted reply =>
    simp only [Run.actions, filterMap_preprocessEvents, reply]
    exact .unstarted _
  | preprocessorFailed reply failed removed =>
    simp only [Run.actions, List.filterMap_append, filterMap_preprocessEvents, reply,
      List.filterMap_cons, action?_noted, filterMap_discarding]
    exact .unprocessed failed _
  | backendUnstarted preprocessed reply =>
    simp only [Run.actions, filterMap_backendEvents, preprocessed, reply]
    exact .compiled fun h => by cases h.1
  | notCleared preprocessed reply refused other =>
    simp only [Run.actions, filterMap_backendEvents, preprocessed, reply, refused]
    exact .compiled fun h => not_gone_of_refused other h.2.1
  | stopped preprocessed reply cleared stops =>
    simp only [Run.actions, List.filterMap_append, filterMap_backendEvents, preprocessed, reply,
      List.filterMap_cons, action?_advanced, List.filterMap_nil]
    exact .compiled fun h => stops h.2.2
  | backendFailed preprocessed reply cleared full failed =>
    simp only [Run.actions, List.filterMap_append, filterMap_backendEvents, preprocessed, reply,
      List.filterMap_cons, action?_advanced, action?_noted, List.filterMap_nil]
    exact .compiled fun h => failed (Except.ok.inj h.1)
  | assemblerUnstarted preprocessed compiled cleared full reply =>
    simp only [Run.actions, filterMap_assemblerEvents, preprocessed, compiled, reply]
    exact .assembled cleared full fun h => by cases h.1
  | assemblerFailed preprocessed compiled cleared full reply failed =>
    simp only [Run.actions, List.filterMap_append, filterMap_assemblerEvents, preprocessed,
      compiled, reply, List.filterMap_cons, action?_noted, List.filterMap_nil]
    exact .assembled cleared full fun h => failed (Except.ok.inj h.1)
  | kept preprocessed compiled cleared full assembled keep =>
    simp only [Run.actions, List.filterMap_append, filterMap_assemblerEvents, preprocessed,
      compiled, assembled, List.filterMap_cons, action?_noted, filterMap_finalNotes]
    exact .assembled cleared full fun h => by simp [keep] at h
  | notSwept preprocessed compiled cleared full assembled keep refused other =>
    simp only [Run.actions, List.filterMap_append, filterMap_assemblerEvents, preprocessed,
      compiled, assembled, filterMap_discarding]
    exact .swept cleared full keep _
  | swept preprocessed compiled cleared full assembled keep gone =>
    simp only [Run.actions, List.filterMap_append, filterMap_assemblerEvents, preprocessed,
      compiled, assembled, filterMap_discarding, filterMap_finalNotes]
    exact .swept cleared full keep _

/-- **Every run takes a course.** -/
theorem course_perform (tools : Toolchain σ) (source : Source) (cutoff : Stage)
    (keepAssembly : Bool) (s : σ) (fs : FileSystem) :
    Course source cutoff keepAssembly
      (perform tools (execute source cutoff keepAssembly) s fs).actions :=
  course_of_execution (execution_perform tools source cutoff keepAssembly s fs)

/-! ## What every course keeps to -/

section course

variable {source : Source} {cutoff : Stage} {keepAssembly : Bool} {actions : List Action}

/-- On no course is a tool called twice. -/
theorem Course.nodup_tools (course : Course source cutoff keepAssembly actions) :
    ((actions.filterMap Action.call?).map ToolCall.tool).Nodup := by
  cases course <;>
  simp [List.filterMap_cons, Action.call?, ToolCall.tool]

/-- On a course, what comes before a call of the assembler has served. -/
theorem Course.served_before_assembler (course : Course source cutoff keepAssembly actions) :
    actions.Pairwise fun a b => b.Calls .assembler → Served a := by
  cases course with
  | unstarted | unprocessed | compiled =>
    simp [Action.Calls, ToolCall.tool]
  | assembled gone full stays =>
    simp [Action.Calls, ToolCall.tool, Served, gone]
  | swept gone full discards removed =>
    simp [Action.Calls, ToolCall.tool, Served, gone]

/-- The assembler is called on the courses of full runs only. -/
theorem Course.full_of_assembler (course : Course source cutoff keepAssembly actions) {a : Action}
    (mem : a ∈ actions) (assembles : a.Calls .assembler) : cutoff = .full := by
  cases course with
  | unstarted | unprocessed | compiled =>
    simp only [List.mem_cons, List.not_mem_nil, or_false] at mem
    rcases mem with rfl | rfl | rfl <;> cases assembles
  | assembled gone full stays => exact full
  | swept gone full discards removed => exact full

/-- On a course only the two intermediate files are removed, and the assembly only in a full run
that has to, after all three tools have succeeded. -/
theorem Course.of_remove (course : Course source cutoff keepAssembly actions) {path : Path}
    {result : Except Cause Unit} (mem : .remove path result ∈ actions) :
    path = source.preprocessed ∨
      (path = source.assembly ∧ cutoff = .full ∧ keepAssembly = false ∧
        ∀ request reply, .call request reply ∈ actions → reply = .ok .success) := by
  cases course with
  | unstarted failure => simp at mem
  | unprocessed failed removed => simp_all
  | compiled ends => simp_all
  | assembled gone full stays => simp_all
  | swept gone full discards removed =>
    have either : path = source.preprocessed ∨ path = source.assembly := by
      simp only [List.mem_cons, List.not_mem_nil, reduceCtorEq, or_false, false_or,
        Action.remove.injEq] at mem
      exact mem.imp And.left And.left
    refine either.imp id fun last => ⟨last, full, discards, ?_⟩
    intro request reply called
    simp only [List.mem_cons, List.not_mem_nil, reduceCtorEq, or_false, false_or,
      Action.call.injEq] at called
    rcases called with h | h | h <;> exact h.2

end course

/-- **The actions of a run are exactly a course**: called and removed in this order, each reply
being the one really given at its moment, whatever the toolchain does to the files in between.
Nothing else changes the files; no tool is called twice; and the assembler is called only in a
full run, after nothing that has not served. -/
theorem actions_of_run (tools : Toolchain σ) (source : Source) (cutoff : Stage)
    (keepAssembly : Bool) (s : σ) (fs : FileSystem) :
    let run := perform tools (execute source cutoff keepAssembly) s fs
    Course source cutoff keepAssembly run.actions ∧
      (∀ m ∈ moments tools s fs run.events, m.Genuine tools) ∧
      ending tools s fs run.events = (run.state, run.files) ∧
      (run.calls.map ToolCall.tool).Nodup ∧
      (run.actions.Pairwise fun a b => b.Calls .assembler → Served a) ∧
      ∀ a ∈ run.actions, a.Calls .assembler → cutoff = .full := by
  intro run
  have course := course_perform tools source cutoff keepAssembly s fs
  refine ⟨course, run_genuine tools _ s fs, run_ending tools _ s fs, ?_,
    course.served_before_assembler, ?_⟩
  · rw [calls_eq]
    exact course.nodup_tools
  · intro a mem assembles
    exact course.full_of_assembler mem assembles

end CompilerDriver.Pipeline
