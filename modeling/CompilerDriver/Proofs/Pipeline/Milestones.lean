import CompilerDriver.Proofs.Pipeline.Failures
import CompilerDriver.Proofs.Pipeline.Verdict

/-!
# The steps that a run records

* `isStep` — an event is the record of a step, told by how its message begins.
* `milestones` — the documented state machine: the steps of a run up to a stage, in order.
* `Earned` — a step may be recorded once these actions, and no others, have been taken.
* `Traced` — events in which the recorded steps come in order, each when it has been earned. It is
  kept by every event of a run (`traced_of_execution`), so it holds **at every moment of every run**;
  what it says of a whole list of events is proved once, by induction on it.
* `Marked` — which steps are recorded, told from the actions of the run.
* `milestones_of_run` — **the records follow the state machine**, each at its time and none without
  cause, and after an action that has gone wrong there are none.
-/

namespace CompilerDriver.Pipeline

open Plan

variable {σ : Type}

/-! ## The records of steps -/

/-- A message begins with some text. -/
def Opens (opening message : String) : Prop := opening.toList <+: message.toList

theorem opens_append (opening rest : String) : Opens opening (opening ++ rest) := by
  rw [Opens, String.toList_append]
  exact List.prefix_append _ _

theorem Opens.append {opening message : String} (opens : Opens opening message) (rest : String) :
    Opens opening (message ++ rest) := by
  rw [Opens, String.toList_append]
  exact opens.trans (List.prefix_append _ _)

/-- How the record of a step begins. -/
def stepMark : String := "pipeline: "

/-- Whether an event is the record of a step. -/
def isStep : Event → Bool
  | .recorded entry => stepMark.toList.isPrefixOf entry.message.toList
  | _ => false

@[simp] theorem isStep_advanced (before after : State) : isStep (advanced before after) = true := by
  rw [advanced, noted, isStep, List.isPrefixOf_iff_prefix]
  exact ((opens_append stepMark _).append _).append _

@[simp] theorem isStep_answered (request : ToolCall) (answer : Answer σ) :
    isStep (answered request answer) = false := rfl

/-- A record is of no step if its message begins with a text that parts with the mark. -/
theorem isStep_noted (opening : String) {level : Log.Level} {message : String}
    (opens : Opens opening message)
    (apart : ¬ stepMark.toList <+: opening.toList ∧ ¬ opening.toList <+: stepMark.toList) :
    isStep (noted level message) = false := by
  rw [← Bool.not_eq_true, noted, isStep, List.isPrefixOf_iff_prefix]
  intro marked
  rcases List.prefix_or_prefix_of_prefix marked opens with within | beyond
  · exact apart.1 within
  · exact apart.2 beyond

theorem isStep_discarding (path : Path) (result : Except Cause Unit) :
    ∀ e ∈ discarding path result, isStep e = false := by
  have removed : isStep (noted .debug s!"removed {path.display}") = false :=
    isStep_noted "removed " (opens_append _ _) (by decide)
  rcases result with cause | ⟨⟩
  · exact List.forall_mem_singleton.2 rfl
  · exact List.forall_mem_cons.2 ⟨rfl, List.forall_mem_singleton.2 removed⟩

theorem isStep_compileMessage (source : Source) (cutoff : Stage) :
    isStep (noted .info (compileMessage source cutoff)) = false :=
  isStep_noted "compiling " ((((opens_append _ _).append _).append _).append _ |>.append _)
    (by decide)

/-! ## The state machine -/

/-- A step from one state to the next. -/
abbrev Step := State × State

/-- The record of a step. -/
def recordOf (step : Step) : Event := advanced step.1 step.2

/-- The steps of a run up to a stage, in order. -/
def milestones (cutoff : Stage) : List Step :=
  [(.start, .preprocessed), (.preprocessed, .backendDone),
    (.backendDone, if cutoff = .full then .assembled else .stopped)]

/-- All steps there are. -/
def steps : List Step :=
  [(.start, .preprocessed), (.preprocessed, .backendDone), (.backendDone, .stopped),
    (.backendDone, .assembled)]

theorem milestones_subset (cutoff : Stage) : milestones cutoff ⊆ steps := by
  by_cases full : cutoff = .full <;> simp [milestones, steps, full]

/-- Steps that are the first of the machine skip no state, since each leaves the state that the one
before has entered, and enter none twice. -/
theorem linked_of_prefix {cutoff : Stage} {taken : List Step} (first : taken <+: milestones cutoff) :
    taken.map (·.1) <+: .start :: taken.map (·.2) ∧ (.start :: taken.map (·.2)).Nodup := by
  have whole : (milestones cutoff).map (·.1) <+: .start :: (milestones cutoff).map (·.2) ∧
      (.start :: (milestones cutoff).map (·.2)).Nodup := by
    by_cases full : cutoff = .full <;> simp [milestones, full]
  have entered : (.start :: taken.map (·.2)) <+: .start :: (milestones cutoff).map (·.2) :=
    List.cons_prefix_cons.2 ⟨rfl, first.map _⟩
  refine ⟨?_, whole.2.sublist entered.sublist⟩
  exact List.prefix_of_prefix_length_le ((first.map _).trans whole.1) entered (by simp)

/-- No two steps are recorded alike. -/
theorem recordOf_inj {step step' : Step} (mem : step ∈ steps) (mem' : step' ∈ steps)
    (same : recordOf step = recordOf step') : step = step' := by
  have texts : ∀ x ∈ steps, ∀ y ∈ steps,
      s!"pipeline: {x.1.name} -> {x.2.name}" = s!"pipeline: {y.1.name} -> {y.2.name}" → x = y := by
    decide
  exact texts step mem step' mem' (Log.Record.mk.inj (Event.recorded.inj same)).2.2

/-- The state that some steps lead to. -/
def reached (taken : List Step) : State := (taken.getLast?.map (·.2)).getD .start

/-! ## When a step has been earned -/

section earned

variable (source : Source) (cutoff : Stage) (keepAssembly : Bool)

/-- The actions up to the removal of the preprocessed file, where the preprocessor has succeeded. -/
def compiledActions (status : Status) (cleared : Except Cause Unit) : List Action :=
  [.call (.preprocess source.path source.preprocessed) (.ok .success),
    .call (.compile source.preprocessed cutoff.selection) (.ok status),
    .remove source.preprocessed cleared]

/-- A step may be recorded when these are the actions that have been taken. -/
inductive Earned : State → State → List Action → Prop where
  /-- The preprocessor has succeeded, and nothing else has been done. -/
  | preprocessed :
      Earned .start .preprocessed
        [.call (.preprocess source.path source.preprocessed) (.ok .success)]
  /-- The backend has returned some status, and its input is gone. -/
  | backendDone {status : Status} {cleared : Except Cause Unit} (gone : Gone cleared) :
      Earned .preprocessed .backendDone (compiledActions source cutoff status cleared)
  /-- The same, and the run was to stop there. -/
  | stopped {status : Status} {cleared : Except Cause Unit} (gone : Gone cleared)
      (stops : cutoff ≠ .full) :
      Earned .backendDone .stopped (compiledActions source cutoff status cleared)
  /-- The assembler has succeeded as well, and the assembly is kept. -/
  | kept {cleared : Except Cause Unit} (gone : Gone cleared) (full : cutoff = .full)
      (keep : keepAssembly = true) :
      Earned .backendDone .assembled
        (compiledActions source cutoff .success cleared ++
          [.call (.assemble source.assembly source.executable) (.ok .success)])
  /-- The assembler has succeeded as well, and the assembly is gone. -/
  | swept {cleared removed : Except Cause Unit} (gone : Gone cleared) (full : cutoff = .full)
      (discards : keepAssembly = false) (gone' : Gone removed) :
      Earned .backendDone .assembled
        (compiledActions source cutoff .success cleared ++
          [.call (.assemble source.assembly source.executable) (.ok .success),
            .remove source.assembly removed])

/-- The steps recorded in some events come in order, each when it has been earned. -/
inductive Traced : List Event → List Step → Prop where
  | nil : Traced [] []
  /-- Something else happens. -/
  | other {events : List Event} {taken : List Step} {e : Event} (so_far : Traced events taken)
      (no_step : isStep e = false) : Traced (events ++ [e]) taken
  /-- The next step is recorded. -/
  | step {events : List Event} {taken : List Step} {before after : State}
      (so_far : Traced events taken) (next : taken ++ [(before, after)] <+: milestones cutoff)
      (earned : Earned source cutoff keepAssembly before after
        (events.filterMap Event.action?)) :
      Traced (events ++ [advanced before after]) (taken ++ [(before, after)])

end earned

section traced

variable {source : Source} {cutoff : Stage} {keepAssembly : Bool} {events more : List Event}
  {taken : List Step} {step : Step} {a b : State} {actions : List Action}

/-- No step is earned after something has gone wrong. -/
theorem Earned.not_broken (earned : Earned source cutoff keepAssembly a b actions) :
    ∀ action ∈ actions, ¬ Broken action := by
  cases earned with
  | preprocessed => simp [Broken]
  | backendDone gone => simp [compiledActions, Broken, gone]
  | stopped gone => simp [compiledActions, Broken, gone]
  | kept gone => simp [compiledActions, Broken, gone]
  | swept gone full discards gone' => simp [compiledActions, Broken, gone, gone']

/-- Some other things happen. -/
theorem Traced.others (so_far : Traced source cutoff keepAssembly events taken)
    (no_step : ∀ e ∈ more, isStep e = false) :
    Traced source cutoff keepAssembly (events ++ more) taken := by
  induction more generalizing events with
  | nil => rwa [List.append_nil]
  | cons e more ih =>
    rw [List.append_cons]
    exact ih (so_far.other (no_step e (.head _))) fun e' mem => no_step e' (.tail _ mem)

/-- The steps come in order. -/
theorem Traced.prefix_milestones (traced : Traced source cutoff keepAssembly events taken) :
    taken <+: milestones cutoff := by
  induction traced with
  | nil => exact List.nil_prefix
  | other so_far no_step ih => exact ih
  | step so_far next earned ih => exact next

/-- The records of steps are those of the steps taken. -/
theorem Traced.filter_isStep (traced : Traced source cutoff keepAssembly events taken) :
    events.filter isStep = taken.map recordOf := by
  induction traced with
  | nil => rfl
  | other so_far no_step ih => simp [ih, no_step]
  | step so_far next earned ih => simp [ih, recordOf]

/-- A step is recorded exactly if it was taken. -/
theorem Traced.mem_iff (traced : Traced source cutoff keepAssembly events taken)
    (mem : step ∈ steps) : recordOf step ∈ events ↔ step ∈ taken := by
  have is_step : isStep (recordOf step) = true := isStep_advanced ..
  have among : recordOf step ∈ events ↔ recordOf step ∈ taken.map recordOf := by
    rw [← traced.filter_isStep, List.mem_filter, and_iff_left is_step]
  rw [among, List.mem_map]
  constructor
  · rintro ⟨step', mem', same⟩
    have known := milestones_subset cutoff (traced.prefix_milestones.subset mem')
    rwa [← recordOf_inj known mem same]
  · exact fun mem => ⟨step, mem, rfl⟩

/-- Events that are cut at one of them, with one more at the end: the cut is at the last, or before
it. -/
theorem cut_concat {before after : List Event} {e last : Event}
    (cut : events ++ [last] = before ++ e :: after) :
    (events = before ∧ last = e) ∨ ∃ rest, events = before ++ e :: rest := by
  rcases List.eq_nil_or_concat after with rfl | ⟨rest, e', rfl⟩
  · obtain ⟨same, same'⟩ := List.append_inj' cut rfl
    exact .inl ⟨same, List.singleton_inj.1 same'⟩
  · rw [List.concat_eq_append, ← List.cons_append, ← List.append_assoc] at cut
    exact .inr ⟨rest, (List.append_inj' cut rfl).1⟩

/-- **Every record of a step has been earned** by the actions before it. -/
theorem Traced.earned (traced : Traced source cutoff keepAssembly events taken)
    {before after : List Event} {e : Event} (cut : events = before ++ e :: after)
    (is_step : isStep e = true) :
    ∃ a b, e = advanced a b ∧
      Earned source cutoff keepAssembly a b (before.filterMap Event.action?) := by
  induction traced generalizing after with
  | nil => simp at cut
  | other so_far no_step ih =>
    rcases cut_concat cut with ⟨-, rfl⟩ | ⟨rest, cut⟩
    · rw [is_step] at no_step
      cases no_step
    · exact ih cut
  | step so_far next earned ih =>
    rcases cut_concat cut with ⟨rfl, rfl⟩ | ⟨rest, cut⟩
    · exact ⟨_, _, rfl, earned⟩
    · exact ih cut

/-- **No step is recorded after something has gone wrong.** -/
theorem Traced.isStep_after_broken (traced : Traced source cutoff keepAssembly events taken)
    {before after : List Event} {e : Event} {action : Action} (cut : events = before ++ e :: after)
    (acts : e.action? = some action) (broken : Broken action) : ∀ e' ∈ after, isStep e' = false := by
  intro e' mem
  rw [← Bool.not_eq_true]
  intro is_step
  obtain ⟨between, rest, rfl⟩ := List.append_of_mem mem
  rw [← List.cons_append, ← List.append_assoc] at cut
  obtain ⟨a, b, -, earned⟩ := traced.earned cut is_step
  refine earned.not_broken action ?_ broken
  rw [List.filterMap_append, List.filterMap_cons, acts]
  exact List.mem_append_right _ (.head _)

end traced

/-! ## Every run is traced -/

section ways

variable {tools : Toolchain σ} {source : Source} {cutoff : Stage} {keepAssembly : Bool} {s : σ}
  {fs : FileSystem}

/-- Up to the answer of the preprocessor no step is recorded. -/
theorem traced_preprocessEvents :
    Traced source cutoff keepAssembly (preprocessEvents tools source s fs) [] :=
  .other .nil rfl

/-- Up to the removal of the preprocessed file the first step is recorded, if the preprocessor has
succeeded. -/
theorem traced_backendEvents (preprocessed : (preprocessing tools source s fs).reply = .ok .success) :
    Traced source cutoff keepAssembly (backendEvents tools source cutoff s fs)
      [(.start, .preprocessed)] := by
  have earned : Earned source cutoff keepAssembly .start .preprocessed
      ((preprocessEvents tools source s fs).filterMap Event.action?) := by
    rw [filterMap_preprocessEvents, preprocessed]
    exact .preprocessed
  have first := traced_preprocessEvents.step ⟨_, rfl⟩ earned
  have called := (first.other (isStep_compileMessage source cutoff)).other
    (isStep_answered (.compile source.preprocessed cutoff.selection)
      (compiling tools source cutoff s fs))
  simp only [List.append_assoc] at called
  exact called.others (isStep_discarding source.preprocessed (clearing tools source cutoff s fs).1)

section compiled

variable {status : Status} (preprocessed : (preprocessing tools source s fs).reply = .ok .success)
  (reply : (compiling tools source cutoff s fs).reply = .ok status)

include preprocessed reply

theorem filterMap_compiled :
    (backendEvents tools source cutoff s fs).filterMap Event.action? =
      compiledActions source cutoff status (clearing tools source cutoff s fs).1 := by
  rw [filterMap_backendEvents, preprocessed, reply]
  rfl

variable (cleared : Gone (clearing tools source cutoff s fs).1)

include cleared

/-- The second step is recorded where the backend has returned some status and its input is gone. -/
theorem traced_backendDone :
    Traced source cutoff keepAssembly
      (backendEvents tools source cutoff s fs ++ [advanced .preprocessed .backendDone])
      [(.start, .preprocessed), (.preprocessed, .backendDone)] := by
  refine (traced_backendEvents preprocessed).step ⟨_, rfl⟩ ?_
  rw [filterMap_compiled preprocessed reply]
  exact .backendDone cleared

/-- The last step is recorded right after, where the run was to stop. -/
theorem traced_stopped (stops : cutoff ≠ .full) :
    Traced source cutoff keepAssembly
      (backendEvents tools source cutoff s fs ++
        [advanced .preprocessed .backendDone, advanced .backendDone .stopped])
      [(.start, .preprocessed), (.preprocessed, .backendDone), (.backendDone, .stopped)] := by
  rw [List.append_cons]
  refine (traced_backendDone preprocessed reply cleared).step ?_ ?_
  · rw [milestones, if_neg stops]
    exact List.prefix_rfl
  · rw [List.filterMap_append, filterMap_compiled preprocessed reply]
    exact .stopped cleared stops

end compiled

section assembled

variable (preprocessed : (preprocessing tools source s fs).reply = .ok .success)
  (compiled : (compiling tools source cutoff s fs).reply = .ok .success)
  (cleared : Gone (clearing tools source cutoff s fs).1)

include preprocessed compiled

theorem filterMap_assembled {reply : Except Failure Status}
    (replied : (assembling tools source cutoff s fs).reply = reply) :
    (assemblerEvents tools source cutoff s fs).filterMap Event.action? =
      compiledActions source cutoff .success (clearing tools source cutoff s fs).1 ++
        [.call (.assemble source.assembly source.executable) reply] := by
  rw [filterMap_assemblerEvents, preprocessed, compiled, replied]
  rfl

include cleared

/-- Up to the answer of the assembler the first two steps are recorded. -/
theorem traced_assemblerEvents :
    Traced source cutoff keepAssembly (assemblerEvents tools source cutoff s fs)
      [(.start, .preprocessed), (.preprocessed, .backendDone)] := by
  rw [assemblerEvents, List.append_cons]
  exact (traced_backendDone preprocessed compiled cleared).other (isStep_answered ..)

end assembled

/-- The last step of a full run is recorded at its end. -/
theorem Traced.finalNotes {events : List Event}
    (so_far : Traced source cutoff keepAssembly events
      [(.start, .preprocessed), (.preprocessed, .backendDone)])
    (full : cutoff = .full)
    (earned : Earned source cutoff keepAssembly .backendDone .assembled
      (events.filterMap Event.action?)) :
    Traced source cutoff keepAssembly (events ++ finalNotes source)
      [(.start, .preprocessed), (.preprocessed, .backendDone), (.backendDone, .assembled)] := by
  rw [Pipeline.finalNotes, List.append_cons]
  refine (so_far.step ?_ earned).other (isStep_noted "wrote " (opens_append _ _) (by decide))
  rw [milestones, if_pos full]
  exact List.prefix_rfl

/-- Which steps are recorded in a run, told from its actions. -/
structure Marked (source : Source) (cutoff : Stage) (keepAssembly : Bool) (actions : List Action)
    (taken : List Step) : Prop where
  /-- The first step: the preprocessor has succeeded. -/
  preprocessed : (.start, .preprocessed) ∈ taken ↔ Returned actions .preprocessor .success
  /-- The second: in addition the backend has returned some status, and its input is gone. -/
  backendDone : (.preprocessed, .backendDone) ∈ taken ↔
    Returned actions .preprocessor .success ∧ (∃ status, Returned actions .backend status) ∧
      ∃ cleared, Gone cleared ∧ .remove source.preprocessed cleared ∈ actions
  /-- The last: in addition the run was to stop there. -/
  stopped : (.backendDone, .stopped) ∈ taken ↔
    (.preprocessed, .backendDone) ∈ taken ∧ cutoff ≠ .full
  /-- The last of a full run: in addition the assembler has succeeded, and the assembly is kept or
  its removal, as the last of all, has served. -/
  assembled : (.backendDone, .assembled) ∈ taken ↔
    (.preprocessed, .backendDone) ∈ taken ∧ Returned actions .assembler .success ∧
      (keepAssembly = true ∨
        ∃ removed, Gone removed ∧ actions.getLast? = some (.remove source.assembly removed))

/-- Where the backend has returned some status and its input is gone, the first two steps are
recorded, and it is left to tell whether the last one is. -/
theorem marked_of_compiled {status : Status} {cleared : Except Cause Unit} {more : List Action}
    {last : List Step} (gone : Gone cleared)
    (stopped : (.backendDone, .stopped) ∈ last ↔ cutoff ≠ .full)
    (assembled : (.backendDone, .assembled) ∈ last ↔ Returned more .assembler .success ∧
      (keepAssembly = true ∨
        ∃ removed, Gone removed ∧ more.getLast? = some (.remove source.assembly removed))) :
    Marked source cutoff keepAssembly (compiledActions source cutoff status cleared ++ more)
      ((.start, .preprocessed) :: (.preprocessed, .backendDone) :: last) := by
  have preprocessor :
      Returned (compiledActions source cutoff status cleared ++ more) .preprocessor .success := by
    simp [compiledActions, ToolCall.tool]
  have backend :
      Returned (compiledActions source cutoff status cleared ++ more) .backend status := by
    simp [compiledActions, ToolCall.tool]
  have assembler (status' : Status) :
      Returned (compiledActions source cutoff status cleared ++ more) .assembler status' ↔
        Returned more .assembler status' := by
    simp [compiledActions, ToolCall.tool]
  refine
    { preprocessed := iff_of_true (by simp) preprocessor
      backendDone := iff_of_true (by simp)
        ⟨preprocessor, ⟨status, backend⟩, cleared, gone, by simp [compiledActions]⟩
      stopped := by simp [stopped]
      assembled := ?_ }
  simp only [List.mem_cons, Prod.mk.injEq, reduceCtorEq, and_false, false_or, true_or, or_true,
    true_and, assembled, assembler]
  refine and_congr_right fun returned => ?_
  obtain ⟨request, mem, -⟩ := returned
  rw [List.getLast?_append, List.getLast?_eq_some_getLast (List.ne_nil_of_mem mem), Option.some_or]

/-- **Every run is traced**, its outcome is the state that the steps lead to, and which steps these
are can be told from its actions. -/
theorem traced_of_execution {run : Run σ (Except Failure Outcome)}
    (way : Execution tools source cutoff s fs keepAssembly run) :
    ∃ taken, Traced source cutoff keepAssembly run.events taken ∧
      (∀ outcome, run.result = .ok outcome → outcome.state = reached taken) ∧
      Marked source cutoff keepAssembly run.actions taken := by
  cases way with
  | preprocessorUnstarted reply =>
    refine ⟨[], traced_preprocessEvents, (fun _ done => by cases done), ?_⟩
    simp only [Run.actions, filterMap_preprocessEvents, reply]
    constructor <;> simp
  | @preprocessorFailed status after reply failed removed =>
    have unmarked : isStep (noted .warn s!"preprocessor exited with status {status}") = false :=
      isStep_noted "preprocessor exited with status " (opens_append _ _) (by decide)
    refine ⟨[], traced_preprocessEvents.others ?_, fun outcome done => ?_, ?_⟩
    · exact List.forall_mem_cons.2 ⟨unmarked, isStep_discarding source.preprocessed after.1⟩
    · rcases result : discarded source.preprocessed after.1 with failure | ⟨⟩ <;>
        simp only [result, Except.map] at done <;> cases done
      rfl
    · simp only [Run.actions, List.filterMap_append, filterMap_preprocessEvents, reply,
        List.filterMap_cons, action?_noted, filterMap_discarding]
      constructor <;> simp [failed]
  | backendUnstarted preprocessed reply =>
    refine ⟨_, traced_backendEvents preprocessed, (fun _ done => by cases done), ?_⟩
    simp only [Run.actions, filterMap_backendEvents, preprocessed, reply]
    constructor <;> simp [ToolCall.tool]
  | notCleared preprocessed reply refused other =>
    refine ⟨_, traced_backendEvents preprocessed, (fun _ done => by cases done), ?_⟩
    simp only [Run.actions, filterMap_compiled preprocessed reply, refused]
    constructor <;> simp [compiledActions, ToolCall.tool, other]
  | stopped preprocessed reply cleared stops =>
    refine ⟨_, traced_stopped preprocessed reply cleared stops,
      (fun _ done => by cases done; rfl), ?_⟩
    rw [Run.actions, List.filterMap_append, filterMap_compiled preprocessed reply]
    exact marked_of_compiled cleared (by simp [stops]) (by simp [List.filterMap_cons])
  | @backendFailed status preprocessed reply cleared full failed =>
    have unmarked : isStep (noted .warn s!"backend exited with status {status}") = false :=
      isStep_noted "backend exited with status " (opens_append _ _) (by decide)
    refine ⟨[(.start, .preprocessed), (.preprocessed, .backendDone)], ?_,
      (fun _ done => by cases done; rfl), ?_⟩
    · rw [List.append_cons]
      exact (traced_backendDone preprocessed reply cleared).other unmarked
    · rw [Run.actions, List.filterMap_append, filterMap_compiled preprocessed reply]
      exact marked_of_compiled cleared (by simp [full]) (by simp [List.filterMap_cons])
  | assemblerUnstarted preprocessed compiled cleared full reply =>
    refine ⟨_, traced_assemblerEvents preprocessed compiled cleared,
      (fun _ done => by cases done), ?_⟩
    rw [Run.actions, filterMap_assembled preprocessed compiled reply]
    exact marked_of_compiled cleared (by simp [full]) (by simp)
  | @assemblerFailed status preprocessed compiled cleared full reply failed =>
    have unmarked : isStep (noted .warn
        s!"assembler exited with status {status}; keeping {source.assembly.display}") = false :=
      isStep_noted "assembler exited with status " (((opens_append _ _).append _).append _)
        (by decide)
    refine ⟨_, (traced_assemblerEvents preprocessed compiled cleared).other unmarked,
      (fun _ done => by cases done; rfl), ?_⟩
    rw [Run.actions, List.filterMap_append, filterMap_assembled preprocessed compiled reply,
      List.append_assoc]
    exact marked_of_compiled cleared (by simp [full]) (by simp [List.filterMap_cons, failed])
  | kept preprocessed compiled cleared full assembled keep =>
    have unmarked : isStep (noted .info s!"kept {source.assembly.display}") = false :=
      isStep_noted "kept " (opens_append _ _) (by decide)
    have called : Traced source cutoff keepAssembly _ _ :=
      (traced_assemblerEvents preprocessed compiled cleared).other unmarked
    have actions := filterMap_assembled preprocessed compiled assembled
    refine ⟨[(.start, .preprocessed), (.preprocessed, .backendDone), (.backendDone, .assembled)],
      ?_, (fun _ done => by cases done; rfl), ?_⟩
    · rw [List.append_cons]
      refine called.finalNotes full ?_
      rw [List.filterMap_append, actions]
      exact .kept cleared full keep
    · rw [Run.actions, List.filterMap_append, actions, List.append_assoc]
      refine marked_of_compiled cleared (by simp [full]) ?_
      simp [List.filterMap_cons, ToolCall.tool, keep]
  | notSwept preprocessed compiled cleared full assembled keep refused other =>
    have swept : Traced source cutoff keepAssembly _ _ :=
      (traced_assemblerEvents preprocessed compiled cleared).others
        (isStep_discarding source.assembly (sweeping tools source cutoff s fs).1)
    refine ⟨_, swept, (fun _ done => by cases done), ?_⟩
    rw [Run.actions, List.filterMap_append, filterMap_assembled preprocessed compiled assembled,
      List.append_assoc, filterMap_discarding, refused]
    exact marked_of_compiled cleared (by simp [full]) (by simp [keep, other])
  | swept preprocessed compiled cleared full assembled keep gone =>
    have swept : Traced source cutoff keepAssembly _ _ :=
      (traced_assemblerEvents preprocessed compiled cleared).others
        (isStep_discarding source.assembly (sweeping tools source cutoff s fs).1)
    have actions := filterMap_assembled preprocessed compiled assembled
    refine ⟨[(.start, .preprocessed), (.preprocessed, .backendDone), (.backendDone, .assembled)],
      ?_, (fun _ done => by cases done; rfl), ?_⟩
    · rw [← List.append_assoc]
      refine swept.finalNotes full ?_
      rw [List.filterMap_append, actions, List.append_assoc, filterMap_discarding]
      exact .swept cleared full keep gone
    · rw [Run.actions, List.filterMap_append, actions, List.append_assoc, List.filterMap_append,
        filterMap_discarding, filterMap_finalNotes]
      exact marked_of_compiled cleared (by simp [full]) (by simp [ToolCall.tool, gone])

end ways

/-- **The records of a run follow the documented state machine**, whatever becomes of it. They are
those of its first steps up to the stage, so that no state is skipped or entered twice, and the
state of an outcome is the one that they lead to. Which steps are recorded can be told from the
actions, and each record comes when exactly the actions that earn it have been taken. After an
action that has gone wrong, and every failure has one, no step is recorded. -/
theorem milestones_of_run (tools : Toolchain σ) (source : Source) (cutoff : Stage)
    (keepAssembly : Bool) (s : σ) (fs : FileSystem) :
    let run := perform tools (execute source cutoff keepAssembly) s fs
    ∃ taken,
      run.events.filter isStep = taken.map recordOf ∧
      (∀ step ∈ steps, recordOf step ∈ run.events ↔ step ∈ taken) ∧
      taken <+: milestones cutoff ∧
      (taken.map (·.1) <+: .start :: taken.map (·.2) ∧ (.start :: taken.map (·.2)).Nodup) ∧
      (∀ outcome, run.result = .ok outcome → outcome.state = reached taken) ∧
      Marked source cutoff keepAssembly run.actions taken ∧
      (∀ before e after, run.events = before ++ e :: after → isStep e = true →
        ∃ a b, e = advanced a b ∧
          Earned source cutoff keepAssembly a b (before.filterMap Event.action?)) ∧
      (∀ before e after action, run.events = before ++ e :: after → e.action? = some action →
        Broken action → ∀ e' ∈ after, isStep e' = false) ∧
      ∀ failure, run.result = .error failure → ∃ action ∈ run.actions, Broken action := by
  intro run
  have way : Execution tools source cutoff s fs keepAssembly run :=
    execution_perform tools source cutoff keepAssembly s fs
  obtain ⟨taken, traced, outcome, marked⟩ := traced_of_execution way
  refine ⟨taken, traced.filter_isStep, fun step => traced.mem_iff, traced.prefix_milestones,
    linked_of_prefix traced.prefix_milestones, outcome, marked, ?_, ?_, ?_⟩
  · intro before e after cut is_step
    exact traced.earned cut is_step
  · intro before e after action cut acts broken
    exact traced.isStep_after_broken cut acts broken
  · intro failure raised
    exact (failed_of_execution way raised).broken

end CompilerDriver.Pipeline
