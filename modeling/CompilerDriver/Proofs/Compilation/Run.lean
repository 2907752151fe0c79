import CompilerDriver.Compilation
import CompilerDriver.Proofs.Plan.Moments
import CompilerDriver.Proofs.Source.Shape

/-!
# The run of a compilation

* `run_of_refused` — an input that is refused ends a compilation before it has begun: nothing
  happens, and the failure is reported as it is.
* `run_of_accepted` — with an input that is accepted a compilation is a run of the pipeline, with
  records of the driver around it and with its failure put into the context of the source.
* `validation_of_run` — which inputs are refused, how, and what is left undone then; and that
  nothing but the pipeline acts otherwise.
-/

namespace CompilerDriver.Compilation

open Plan

variable {σ : Type}

/-- What is recorded before the pipeline. -/
def opening (c : Compilation) (source : Source) : Event :=
  .recorded (noted <|
    s!"input {source.path.display} accepted, cutoff {c.cutoff.name} ({c.cutoff.cutoff})")

/-- What is recorded after the pipeline. -/
def closing : Except Failure Pipeline.Outcome → List Event
  | .ok outcome => [.recorded (noted s!"finished in state {outcome.state.name}")]
  | .error _ => []

@[simp] theorem action?_opening (c : Compilation) (source : Source) :
    (c.opening source).action? = none := rfl

@[simp] theorem filterMap_closing (result : Except Failure Pipeline.Outcome) :
    (closing result).filterMap Event.action? = [] := by
  cases result <;> rfl

/-- Putting an error into a context makes no success and undoes none. -/
theorem mapError_eq_ok_iff {ε ε' α : Type} {x : Except ε α} {f : ε → ε'} {a : α} :
    x.mapError f = .ok a ↔ x = .ok a := by
  cases x with
  | error e => exact ⟨nofun, nofun⟩
  | ok b =>
    have kept : (Except.ok b : Except ε α).mapError f = .ok b := rfl
    simp only [kept, Except.ok.injEq]

/-- A compilation whose input is refused. -/
theorem run_of_refused {c : Compilation} {failure : Failure} {fs : FileSystem}
    (refused : Source.validate fs c.input = .error failure) (tools : Toolchain σ) (s : σ) :
    c.run tools s fs = ⟨.error ⟨none, failure⟩, [], s, fs⟩ := by
  rw [Compilation.run, plan, refused]
  rfl

/-- A compilation whose input is accepted. -/
theorem run_of_accepted {c : Compilation} {source : Source} {fs : FileSystem}
    (accepted : Source.validate fs c.input = .ok source) (tools : Toolchain σ) (s : σ) :
    c.run tools s fs =
      let piped := perform tools (Pipeline.execute source c.cutoff c.keepAssembly) s fs
      { piped with
        result := piped.result.mapError fun failure => ⟨some source.path, failure⟩
        events := c.opening source :: (piped.events ++ closing piped.result) } := by
  rw [Compilation.run, plan, accepted]
  simp only [compile, Plan.run, Bind.bind, run_bind, perform, opening]
  cases (Plan.run tools (Pipeline.execute source c.cutoff c.keepAssembly).run s fs).result <;> rfl

/-- What the pipeline does is all that a compilation does, if its input is accepted. -/
theorem actions_of_accepted {c : Compilation} {source : Source} {fs : FileSystem}
    (accepted : Source.validate fs c.input = .ok source) (tools : Toolchain σ) (s : σ) :
    (c.run tools s fs).actions =
      (perform tools (Pipeline.execute source c.cutoff c.keepAssembly) s fs).actions := by
  rw [run_of_accepted accepted]
  simp only [Run.actions, List.filterMap_cons, action?_opening, List.filterMap_append,
    filterMap_closing, List.append_nil]

/-- A compilation has an outcome only if its input is accepted, and then it is that of the pipeline. -/
theorem accepted_of_result {c : Compilation} {tools : Toolchain σ} {s : σ} {fs : FileSystem}
    {outcome : Pipeline.Outcome} (done : (c.run tools s fs).result = .ok outcome) :
    ∃ source, Source.validate fs c.input = .ok source ∧
      (perform tools (Pipeline.execute source c.cutoff c.keepAssembly) s fs).result =
        .ok outcome := by
  cases validated : Source.validate fs c.input with
  | error failure =>
    rw [run_of_refused validated] at done
    cases done
  | ok source =>
    rw [run_of_accepted validated] at done
    exact ⟨source, rfl, mapError_eq_ok_iff.1 done⟩

/-- **Validation guards every tool.** An input is accepted exactly if it leads to a regular file and
its last component is a name of the right shape; what leads to no regular file is not found, and
only a regular file is refused for its name; either failure carries the input as it was given. After
a refusal nothing has happened at all, and the failure is reported without a context. An accepted
input is run through the pipeline: the calls and the other actions, the state, the files and the
outcome are those of the pipeline, whose failure is reported in the context of the anchored path. -/
theorem validation_of_run (c : Compilation) (tools : Toolchain σ) (s : σ) (fs : FileSystem) :
    let run := c.run tools s fs
    ((∃ source, Source.validate fs c.input = .ok source) ↔
      fs.LeadsToFile c.input ∧ Source.EndsShapely c.input) ∧
    (¬ fs.LeadsToFile c.input → Source.validate fs c.input = .error (.inputNotFound c.input)) ∧
    (fs.LeadsToFile c.input → ¬ Source.EndsShapely c.input →
      Source.validate fs c.input = .error (.nameShape c.input)) ∧
    (∀ failure, Source.validate fs c.input = .error failure →
      run.events = [] ∧ run.state = s ∧ run.files = fs ∧
        ∃ report, run.result = .error report ∧ report.failure = failure ∧
          report.messages = failure.messages) ∧
    ∀ source, Source.validate fs c.input = .ok source →
      let piped := perform tools (Pipeline.execute source c.cutoff c.keepAssembly) s fs
      run.calls = piped.calls ∧ run.actions = piped.actions ∧ run.state = piped.state ∧
        run.files = piped.files ∧
        (∀ outcome, run.result = .ok outcome ↔ piped.result = .ok outcome) ∧
        ∀ failure, piped.result = .error failure →
          ∃ report, run.result = .error report ∧ report.failure = failure ∧
            report.messages = ("Compiling " ++ c.input.anchored.display) :: failure.messages := by
  intro run
  refine ⟨Source.exists_validate_eq_ok_iff, Source.validate_eq_inputNotFound,
    Source.validate_eq_nameShape, ?_, ?_⟩
  · intro failure refused
    have nothing : run = ⟨.error ⟨none, failure⟩, [], s, fs⟩ := run_of_refused refused tools s
    rw [nothing]
    exact ⟨rfl, rfl, rfl, ⟨none, failure⟩, rfl, rfl, rfl⟩
  · intro source accepted piped
    have actions : run.actions = piped.actions := actions_of_accepted accepted tools s
    have whole : run = _ := run_of_accepted accepted tools s
    have result : run.result =
        piped.result.mapError fun failure => ⟨some source.path, failure⟩ := by rw [whole]
    refine ⟨?_, actions, ?_, ?_, ?_, ?_⟩
    · rw [calls_eq, calls_eq, actions]
    · rw [whole]
    · rw [whole]
    · intro outcome
      rw [result, mapError_eq_ok_iff]
    · intro failure failed
      rw [failed] at result
      refine ⟨⟨some source.path, failure⟩, result, rfl, ?_⟩
      rw [← Source.path_of_validate accepted]
      rfl

end CompilerDriver.Compilation
