import CompilerDriver.Proofs.Program.ExitCode
import CompilerDriver.Proofs.CommandLine.Acceptance

/-!
# What is found wrong first

A command line is checked in three rounds: the arguments are read to their end, then the environment
is asked for what they leave open, and then an input must have been named.

* `exists_readAll_iff` — the arguments are read to their end if they say consistent items.
* `read_of_said` — **what consistent items come to**: the environment is found wrong before a missing
  input is.
* `precedence_of_run` — **what is found wrong first is what is reported**, and the environment has no
  say in what is wrong with the arguments.
-/

namespace CompilerDriver

namespace CommandLine

/-- The items leave the backend to the environment, which holds an empty one. -/
def EmptyBackend (items : List Item) (env : Environment) : Prop :=
  ¬ Names items (.setting .backend) ∧ env.get? Setting.backend.variableName = some []

variable {arguments : List Bytes} {items : List Item} {env env' : Environment}

/-! ## Reading to the end -/

/-- **The arguments that are read to their end** are those that say consistent items. -/
theorem exists_readAll_iff :
    (∃ r, Reading.readAll arguments = .ok r) ↔
      ∃ items, Says arguments items ∧ Consistent items := by
  constructor
  · rintro ⟨r, whole⟩
    obtain ⟨items, said⟩ := Reading.exists_said whole
    exact ⟨items, said, (Reading.readAll_of_said said).1.1 ⟨r, whole⟩⟩
  · rintro ⟨items, said, consistent⟩
    exact (Reading.readAll_of_said said).1.2 consistent

/-- What is met on the way ends the reading in every environment. -/
theorem read_of_met {ending : Ending} (met : Reading.readAll arguments = .error ending)
    (env : Environment) : read arguments env = .error ending := by
  rw [read, met]
  rfl

theorem read_of_whole {r : Reading} (whole : Reading.readAll arguments = .ok r)
    (env : Environment) : read arguments env = r.toCompilation env := by
  rw [read, whole]
  rfl

/-! ## After the end -/

/-- **What consistent items come to**: the environment is found wrong before a missing input is. -/
theorem read_of_said (said : Says arguments items) (consistent : Consistent items)
    (env : Environment) :
    (EmptyBackend items env ∧
      read arguments env = .error (.wrong (.valueRequired (.setting .backend)))) ∨
    (¬ EmptyBackend items env ∧ ¬ Names items .file ∧
      read arguments env = .error (.wrong .missingFile)) ∨
    (¬ EmptyBackend items env ∧ Names items .file ∧ ∃ c, read arguments env = .ok c) := by
  obtain ⟨accepted, holds⟩ := Reading.readAll_of_said said
  obtain ⟨r, whole⟩ := accepted.2 consistent
  have empty_iff : EmptyBackend items env ↔
      r.backend = none ∧ env.get? Setting.backend.variableName = some [] := by
    rw [EmptyBackend, (holds r whole).named_setting_iff, Decidable.not_not]
    rfl
  have file_iff := (holds r whole).named_file_iff
  rw [read_of_whole whole, Reading.toCompilation_eq, empty_iff, file_iff]
  by_cases empty : r.backend = none ∧ env.get? Setting.backend.variableName = some []
  · rw [if_pos empty]
    exact .inl ⟨empty, rfl⟩
  · rw [if_neg empty]
    cases r.file with
    | none => exact .inr (.inl ⟨empty, by simp, rfl⟩)
    | some file => exact .inr (.inr ⟨empty, by simp, _, rfl⟩)

/-- Where a backend is given, what the environment holds for it has no effect. -/
theorem read_of_given (said : Says arguments items) (given : Names items (.setting .backend))
    (same : env'.get? Setting.cc.variableName = env.get? Setting.cc.variableName) :
    read arguments env' = read arguments env := by
  rcases whole : Reading.readAll arguments with ending | r
  · rw [read_of_met whole, read_of_met whole]
  · have some_backend : r.backend ≠ none :=
      ((Reading.readAll_of_said said).2 r whole).named_setting_iff.1 given
    obtain ⟨backend, held⟩ := Option.ne_none_iff_exists'.1 some_backend
    have programs : r.programs env' = r.programs env := by
      simp only [Reading.programs, held, same, Option.getD_some]
    rw [read_of_whole whole, read_of_whole whole, Reading.toCompilation_eq, Reading.toCompilation_eq,
      programs]
    simp only [held, reduceCtorEq, false_and, if_false]

/-- Of the environment only the backend can be wrong. -/
theorem read_eq_error_of_backend
    (same : env'.get? Setting.backend.variableName = env.get? Setting.backend.variableName)
    {ending : Ending} (wrong : read arguments env = .error ending) :
    read arguments env' = .error ending := by
  rcases whole : Reading.readAll arguments with met | r
  · rwa [read_of_met whole] at wrong ⊢
  · rw [read_of_whole whole, Reading.toCompilation_eq] at wrong ⊢
    rw [same]
    split at wrong
    · rename_i empty
      rwa [if_pos empty]
    · rename_i filled
      rw [if_neg filled]
      cases file : r.file with
      | none => rwa [file] at wrong
      | some value =>
        rw [file] at wrong
        cases wrong

end CommandLine

namespace Program

open CommandLine

variable {σ : Type} {spawner : Environment → Spawner σ} {arguments : List Bytes}
  {env env' : Environment} {s : σ} {fs : FileSystem} {ending : Ending}

/-- What is said of an ending does not depend on the environment, but for the help. -/
theorem announce_of_ne_help (no_help : ending ≠ .help) :
    announce arguments env' ending = announce arguments env ending ∧
      endingShown arguments env' ending = endingShown arguments env ending := by
  cases ending with
  | help => exact absurd rfl no_help
  | version | wrong => exact ⟨rfl, rfl⟩

/-- A command line that starts nothing writes the same in every environment, unless it asks for
help. -/
theorem written_of_ending (no_help : ending ≠ .help)
    (ends : CommandLine.read arguments.tail env = .error ending)
    (ends' : CommandLine.read arguments.tail env' = .error ending) :
    (run spawner arguments env' s fs).output = (run spawner arguments env s fs).output ∧
      (run spawner arguments env' s fs).errors = (run spawner arguments env s fs).errors := by
  have same : announce arguments env' ending = announce arguments env ending :=
    (announce_of_ne_help no_help).1
  -- It is never a record of the log, so the filter has no say.
  have unfiltered (filter filter' : Log.Filter) :
      Ended.errorsOf filter' (announce arguments env ending) =
        Ended.errorsOf filter (announce arguments env ending) := by
    cases ending <;> rfl
  constructor
  · simp only [Ended.output, run, ends, ends', same]
  · simp only [Ended.errors, run, ends, ends', same, List.flatMap_cons, List.flatMap_nil,
      List.append_nil]
    exact unfiltered ..

theorem observedCode_of_ending (ends : CommandLine.read arguments.tail env = .error ending) :
    (run spawner arguments env s fs).observedCode = ending.exitCode :=
  (observedCode_eq (exitCode_lt ending) (code_of_ending ends)).1

/-- **What is found wrong first is what is reported.** If something is met before the arguments are
read to their end, which they are if they say consistent items, then that is the ending in every
environment, with the same exit code, and but for the help it is shown in the same words. If they
say consistent items, the ending is that a backend is required exactly if none is given and the
environment holds an empty one, whether or not an input is named; if not so, it is that the input is
missing exactly if none is named; and otherwise there is a compilation. Where a backend is given,
what the environment holds for it has no effect; and the program for the other two tools is never
wrong. The exit code is 0 for the help and the version, and 2 for all else that ends a command
line. -/
theorem precedence_of_run (spawner : Environment → Spawner σ) (arguments : List Bytes) (s : σ)
    (fs : FileSystem) :
    let result env := CommandLine.read arguments.tail env
    let ended env := run spawner arguments env s fs
    ((∃ r, Reading.readAll arguments.tail = .ok r) ↔
      ∃ items, Says arguments.tail items ∧ Consistent items) ∧
    (∀ ending, Reading.readAll arguments.tail = .error ending → ∀ env env',
      result env = .error ending ∧ (ended env').observedCode = (ended env).observedCode ∧
        (ending ≠ .help →
          endingShown arguments env' ending = endingShown arguments env ending ∧
            (ended env').output = (ended env).output ∧ (ended env').errors = (ended env).errors)) ∧
    (∀ items, Says arguments.tail items → Consistent items → ∀ env,
      (result env = .error (.wrong (.valueRequired (.setting .backend))) ↔
        EmptyBackend items env) ∧
      (result env = .error (.wrong .missingFile) ↔
        ¬ EmptyBackend items env ∧ ¬ Names items .file) ∧
      ((∃ c, result env = .ok c) ↔ ¬ EmptyBackend items env ∧ Names items .file) ∧
      (Names items (.setting .backend) → ∀ env',
        env'.get? Setting.cc.variableName = env.get? Setting.cc.variableName →
          result env' = result env)) ∧
    (∀ env env',
      env'.get? Setting.backend.variableName = env.get? Setting.backend.variableName →
        ∀ ending, result env = .error ending → result env' = .error ending) ∧
    ∀ env ending, result env = .error ending →
      (ended env).observedCode = ending.exitCode ∧
        ending.exitCode = if ending = .help ∨ ending = .version then 0 else 2 := by
  intro result ended
  refine ⟨exists_readAll_iff, ?_, ?_, ?_, ?_⟩
  · intro ending met env env'
    have ends : result env = .error ending := read_of_met met env
    have ends' : result env' = .error ending := read_of_met met env'
    refine ⟨ends, ?_, fun no_help => ⟨?_, written_of_ending no_help ends ends'⟩⟩
    · exact (observedCode_of_ending ends').trans (observedCode_of_ending ends).symm
    · exact (announce_of_ne_help no_help).2
  · intro items said consistent env
    refine ⟨?_, ?_, ?_, fun given env' same => read_of_given said given same⟩ <;>
    rcases read_of_said said consistent env with
      ⟨empty, eq⟩ | ⟨filled, no_file, eq⟩ | ⟨filled, file, c, eq⟩ <;>
    simp only [result, eq] <;> simp [*]
  · intro env env' same ending wrong
    exact read_eq_error_of_backend same wrong
  · intro env ending ends
    refine ⟨observedCode_of_ending ends, ?_⟩
    cases ending <;> rfl

/-- The backend that the environment holds is empty, and no input is named: the first of the two is
reported. -/
example :
    let env : Environment := [(Setting.backend.variableName, [])]
    CommandLine.read [] env = .error (.wrong (.valueRequired (.setting .backend))) ∧
      CommandLine.read [] [] = .error (.wrong .missingFile) :=
  ⟨rfl, rfl⟩

end Program

end CompilerDriver
