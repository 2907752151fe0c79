import CompilerDriver.Proofs.Pipeline.Failures

/-!
# What the switch on the assembly changes

* `Execution.switched` — as long as a run has not gone all the way to an executable the switch has
  had no say: the same way is open with the other setting.
* `Execution.swept_of_kept` — a run that discards the assembly, told from the one that keeps it,
  where that has gone all the way.
* `keeping_of_run` — **a run that discards the assembly is the one that keeps it, followed by one
  more removal** if that has gone all the way, and the same run if it has not.
-/

namespace CompilerDriver.Pipeline

open Plan

variable {σ : Type}

/-- A removal that comes to a failure is told by the path and the cause. -/
theorem notRemoved_of_discarded {path : Path} {result : Except Cause Unit} {failure : Failure}
    (raised : discarded path result = .error failure) :
    ∃ cause, result = .error cause ∧ failure = .notRemoved path cause := by
  by_cases gone : Gone result
  · rw [discarded_of_gone path gone] at raised
    cases raised
  · obtain ⟨cause, -, refused, left⟩ := discarded_of_not_gone path gone
    rw [left] at raised
    cases raised
    exact ⟨cause, refused, rfl⟩

section switch

variable {tools : Toolchain σ} {source : Source} {cutoff : Stage} {s : σ} {fs : FileSystem}
  {run kept : Run σ (Except Failure Outcome)}

/-- Before the assembler has succeeded the switch has no say: a way that has not come to an
executable is open with either setting. -/
theorem Execution.switched (way : Execution tools source cutoff s fs true run)
    (unassembled : ∀ outcome, run.result = .ok outcome → outcome.state ≠ .assembled)
    (keepAssembly : Bool) : Execution tools source cutoff s fs keepAssembly run := by
  cases way with
  | preprocessorUnstarted reply => exact .preprocessorUnstarted reply
  | preprocessorFailed reply failed removed => exact .preprocessorFailed reply failed removed
  | backendUnstarted preprocessed reply => exact .backendUnstarted preprocessed reply
  | notCleared preprocessed reply refused other =>
    exact .notCleared preprocessed reply refused other
  | stopped preprocessed reply cleared stops => exact .stopped preprocessed reply cleared stops
  | backendFailed preprocessed reply cleared full failed =>
    exact .backendFailed preprocessed reply cleared full failed
  | assemblerUnstarted preprocessed compiled cleared full reply =>
    exact .assemblerUnstarted preprocessed compiled cleared full reply
  | assemblerFailed preprocessed compiled cleared full reply failed =>
    exact .assemblerFailed preprocessed compiled cleared full reply failed
  | kept => exact absurd rfl (unassembled _ rfl)
  | notSwept preprocessed compiled cleared full assembled keep => cases keep
  | swept preprocessed compiled cleared full assembled keep => cases keep

/-- Where the run that keeps the assembly has come to an executable, the one that discards it has
gone on with the removal, and ends with what came of that. -/
theorem Execution.swept_of_kept (keeps : Execution tools source cutoff s fs true kept)
    {outcome : Outcome} (done : kept.result = .ok outcome) (whole : outcome.state = .assembled)
    (discards : Execution tools source cutoff s fs false run) :
    let swept := removal kept.files source.assembly
    run.actions = kept.actions ++ [.remove source.assembly swept.1] ∧
      run.files = swept.2 ∧ run.state = kept.state ∧
      run.result = (discarded source.assembly swept.1).map fun _ => outcome := by
  cases keeps with
  | preprocessorUnstarted | backendUnstarted | notCleared | assemblerUnstarted => cases done
  | preprocessorFailed reply failed removed =>
    simp only [Except.map] at done
    split at done <;> cases done
    cases whole
  | stopped | backendFailed | assemblerFailed =>
    cases done
    cases whole
  | notSwept preprocessed compiled cleared full assembled keep => cases keep
  | swept preprocessed compiled cleared full assembled keep => cases keep
  | kept preprocessed compiled cleared full assembled =>
    cases done
    intro swept
    change run.actions = _ ++ [.remove source.assembly (sweeping tools source cutoff s fs).1] ∧
      run.files = (sweeping tools source cutoff s fs).2 ∧ run.state = _ ∧
      run.result = (discarded source.assembly (sweeping tools source cutoff s fs).1).map _
    by_cases gone : Gone (sweeping tools source cutoff s fs).1
    · rw [discards.unique (.swept preprocessed compiled cleared full assembled rfl gone),
        discarded_of_gone source.assembly gone]
      refine ⟨?_, rfl, rfl, rfl⟩
      simp only [Run.actions, List.filterMap_append, filterMap_discarding, List.filterMap_cons,
        action?_noted, filterMap_finalNotes, List.append_nil]
    · obtain ⟨cause, other, refused, left⟩ := discarded_of_not_gone source.assembly gone
      rw [discards.unique (.notSwept preprocessed compiled cleared full assembled rfl refused other),
        left]
      refine ⟨?_, rfl, rfl, rfl⟩
      simp only [Run.actions, List.filterMap_append, filterMap_discarding, List.filterMap_cons,
        action?_noted, filterMap_finalNotes, List.append_nil]

end switch

/-- **Keeping the assembly changes nothing but its fate.** Take two runs of the same start that
differ in the switch only. They make the same calls. If the one that keeps the assembly fails, or
does not come to an executable, the other is the same run. If it does, the other is followed by one
more removal: it leaves the files that removing the assembly makes of those of the first, and ends
with the same outcome, or with the failure of the removal. -/
theorem keeping_of_run (tools : Toolchain σ) (source : Source) (cutoff : Stage) (s : σ)
    (fs : FileSystem) :
    let run keepAssembly := perform tools (execute source cutoff keepAssembly) s fs
    let sweep := perform tools (discard source.assembly) (run true).state (run true).files
    (run false).calls = (run true).calls ∧
      (∀ failure, (run true).result = .error failure → run false = run true) ∧
      (∀ outcome, (run true).result = .ok outcome → outcome.state ≠ .assembled →
        run false = run true) ∧
      ∀ outcome, (run true).result = .ok outcome → outcome.state = .assembled →
        (run false).actions = (run true).actions ++ sweep.actions ∧
        (run false).files = sweep.files ∧
        (run false).state = sweep.state ∧
        (run false).result = sweep.result.map (fun _ => outcome) ∧
        ∀ failure, sweep.result = .error failure →
          ∃ cause, failure = .notRemoved source.assembly cause := by
  intro run sweep
  have keeps : Execution tools source cutoff s fs true (run true) :=
    execution_perform tools source cutoff true s fs
  have discards : Execution tools source cutoff s fs false (run false) :=
    execution_perform tools source cutoff false s fs
  have sweep_eq : sweep = _ :=
    perform_discard tools source.assembly (run true).state (run true).files
  have same (unassembled : ∀ outcome, (run true).result = .ok outcome →
      outcome.state ≠ .assembled) : run false = run true :=
    discards.unique (keeps.switched unassembled false)
  have further (outcome : Outcome) (done : (run true).result = .ok outcome)
      (whole : outcome.state = .assembled) := keeps.swept_of_kept done whole discards
  refine ⟨?_, ?_, ?_, ?_⟩
  · by_cases whole : ∃ outcome, (run true).result = .ok outcome ∧ outcome.state = .assembled
    · obtain ⟨outcome, done, whole⟩ := whole
      obtain ⟨actions, -⟩ := further outcome done whole
      rw [calls_eq, calls_eq, actions, List.filterMap_append]
      exact List.append_nil _
    · have unassembled : ∀ outcome, (run true).result = .ok outcome →
          outcome.state ≠ .assembled := fun outcome done is => whole ⟨outcome, done, is⟩
      rw [same unassembled]
  · intro failure raised
    refine same fun outcome done => ?_
    rw [raised] at done
    cases done
  · intro outcome done other
    refine same fun outcome' done' => ?_
    rw [done] at done'
    cases done'
    exact other
  · intro outcome done whole
    obtain ⟨actions, files, state, result⟩ := further outcome done whole
    rw [sweep_eq]
    refine ⟨?_, files, state, result, ?_⟩
    · rw [actions, Run.actions, Run.actions, filterMap_discarding]
    · intro failure raised
      obtain ⟨cause, -, told⟩ := notRemoved_of_discarded raised
      exact ⟨cause, told⟩

/-- The assembler has put a directory where the assembly was: whoever keeps it never asks for it to
be removed, whoever does not fails. -/
example :
    let source : Source := ⟨Path.ofString "./foo.c", Path.ofString "./foo"⟩
    let tools := Scripted.toolchain
      { assemble := { actions := [.makeDirectories (Path.ofString "./foo.s")] } }
    let run keepAssembly :=
      perform tools (execute source .full keepAssembly) [] { entries := [], cwd := [] }
    (run true).result = .ok ⟨.assembled, .success⟩ ∧
      (run false).result = .error (.notRemoved (Path.ofString "./foo.s") (.os .isDirectory)) :=
  ⟨rfl, rfl⟩

end CompilerDriver.Pipeline
