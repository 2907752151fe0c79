import CompilerDriver.Proofs.Pipeline.Failures
import CompilerDriver.Proofs.Pipeline.Verdict
import CompilerDriver.Proofs.Program.Account
import CompilerDriver.Proofs.Status.Report
import Mathlib.Data.List.Forall2

/-!
# The exit code of the program

* `Spawning.Returned` — a process was started, and its report stands for that number.
* `Accounts.exists_numbers` — unless something has gone wrong with one of its actions, every process
  of a run has returned a number, and the statuses of the run are these numbers.
* `firstFailure_eq` — the first failure among the statuses is the first number that is not zero.
* `exitCode_of_run` — **the exit code is faithful**, whatever the tools do and whatever report they
  end with.
-/

namespace CompilerDriver

open Plan

variable {σ : Type}

namespace Spawning

variable {spawning : Spawning}

/-- The process was started, and its report stands for that number. -/
def Returned (spawning : Spawning) (number : Nat) : Prop :=
  ∃ report, spawning.ended = .ok report ∧ report.Stands number

/-- The process was started and exited with code 0. -/
def Succeeded (spawning : Spawning) : Prop :=
  ∃ report, spawning.ended = .ok report ∧ report.Exited 0

theorem returned_zero_iff : spawning.Returned 0 ↔ spawning.Succeeded := by
  simp only [Returned, Succeeded, WaitReport.stands_zero_iff]

theorem Returned.lt {number : Nat} (returned : spawning.Returned number) : number < 256 := by
  obtain ⟨report, -, stands⟩ := returned
  exact stands.lt

theorem Returned.unique {number number' : Nat} (returned : spawning.Returned number)
    (returned' : spawning.Returned number') : number = number' := by
  obtain ⟨report, ended, stands⟩ := returned
  obtain ⟨report', ended', stands'⟩ := returned'
  cases ended.symm.trans ended'
  rw [← WaitReport.stands_iff.1 stands, ← WaitReport.stands_iff.1 stands']

end Spawning

/-- What processes return fits into a byte. -/
theorem lt_of_returned {account : List Spawning} {numbers : List Nat}
    (returned : List.Forall₂ Spawning.Returned account numbers) : ∀ n ∈ numbers, n < 256 := by
  induction returned with
  | nil => simp
  | cons first rest ih =>
    intro n mem
    rcases List.mem_cons.1 mem with rfl | mem
    · exact first.lt
    · exact ih n mem

/-- Only zeros are returned exactly if all processes have succeeded. -/
theorem zeros_iff_of_returned {account : List Spawning} {numbers : List Nat}
    (returned : List.Forall₂ Spawning.Returned account numbers) :
    (∀ n ∈ numbers, n = 0) ↔ ∀ spawning ∈ account, spawning.Succeeded := by
  induction returned with
  | nil => simp
  | @cons spawning n account numbers first rest ih =>
    have same : n = 0 ↔ spawning.Succeeded := by
      rw [← Spawning.returned_zero_iff]
      constructor
      · rintro rfl
        exact first
      · exact first.unique
    rw [List.forall_mem_cons, List.forall_mem_cons, same, ih]

/-- The first of some numbers that is not zero, or zero. -/
def firstNonzero (numbers : List Nat) : Nat := (numbers.find? fun n => n ≠ 0).getD 0

/-! ## The numbers of a run -/

/-- If nothing has gone wrong with the actions of a run, then each process has returned a number,
and the statuses are made from these. -/
theorem Accounts.exists_numbers {programs : Programs} {account : List Spawning}
    {actions : List Action} (accounts : Accounts programs account actions)
    (whole : ∀ action ∈ actions, ¬ Pipeline.Broken action) :
    ∃ numbers, List.Forall₂ Spawning.Returned account numbers ∧
      Pipeline.statuses actions = numbers.map Status.ofNumber := by
  induction accounts with
  | nil => exact ⟨[], .nil, rfl⟩
  | @call request ended account actions rest ih =>
    obtain ⟨numbers, returned, statuses⟩ := ih fun action mem => whole action (.tail _ mem)
    cases ended with
    | error cause => exact absurd ⟨_, rfl⟩ (whole _ (.head _))
    | ok report =>
      refine ⟨Status.ofReportNat report :: numbers, .cons ?_ returned, ?_⟩
      · exact ⟨report, rfl, WaitReport.stands_iff.2 rfl⟩
      · rw [List.map_cons, ← statuses]
        rfl
  | remove rest ih =>
    exact ih fun action mem => whole action (.tail _ mem)

/-- The first of some numbers that fit into a byte fits into a byte. -/
theorem firstNonzero_lt {numbers : List Nat} (small : ∀ n ∈ numbers, n < 256) :
    firstNonzero numbers < 256 := by
  unfold firstNonzero
  cases found : numbers.find? fun n => n ≠ 0 with
  | none => exact Nat.zero_lt_succ _
  | some n => exact small n (List.mem_of_find?_eq_some found)

theorem firstNonzero_eq_zero_iff {numbers : List Nat} :
    firstNonzero numbers = 0 ↔ ∀ n ∈ numbers, n = 0 := by
  unfold firstNonzero
  cases found : numbers.find? fun n => n ≠ 0 with
  | none => simpa using found
  | some n =>
    have nonzero : n ≠ 0 := by simpa using List.find?_some found
    refine iff_of_false nonzero fun zeros => nonzero ?_
    exact zeros n (List.mem_of_find?_eq_some found)

theorem firstNonzero_cons (n : Nat) (numbers : List Nat) :
    firstNonzero (n :: numbers) = if n = 0 then firstNonzero numbers else n := by
  unfold firstNonzero
  by_cases zero : n = 0
  · simp [zero]
  · simp [zero]

theorem firstFailure_cons (status : Status) (statuses : List Status) :
    Pipeline.firstFailure (status :: statuses) =
      if status = .success then Pipeline.firstFailure statuses else status := by
  unfold Pipeline.firstFailure
  by_cases success : status = .success
  · simp [success]
  · simp [success]

/-- The first failure is made from the first number that is not zero. -/
theorem firstFailure_eq {numbers : List Nat} (small : ∀ n ∈ numbers, n < 256) :
    Pipeline.firstFailure (numbers.map Status.ofNumber) =
      Status.ofNumber (firstNonzero numbers) := by
  induction numbers with
  | nil => rfl
  | cons n numbers ih =>
    have success_iff := Status.ofNumber_eq_success_iff (small n (.head _))
    rw [List.map_cons, firstFailure_cons, firstNonzero_cons,
      ih fun n mem => small n (.tail _ mem)]
    by_cases zero : n = 0
    · rw [if_pos (success_iff.2 zero), if_pos zero]
    · rw [if_neg (mt success_iff.1 zero), if_neg zero]

/-! ## The code that the program ends with -/

namespace Program

variable {spawner : Environment → Spawner σ} {arguments : List Bytes} {env : Environment} {s : σ}
  {fs : FileSystem} {c : Compilation}

/-- A number that fits into a byte is the exit code that the parent process sees. -/
theorem observedCode_eq {ended : Ended σ} {number : Nat} (small : number < 256)
    (code : ended.code = (Status.ofNumber number).code) :
    ended.observedCode = number ∧ ended.code.toInt = number := by
  rw [Ended.observedCode, code, Status.toNat_ofNumber small, Status.toInt_ofNumber small]
  exact ⟨Nat.mod_eq_of_lt small, rfl⟩

theorem exitCode_lt (ending : CommandLine.Ending) : ending.exitCode < 256 := by
  cases ending <;> simp [CommandLine.Ending.exitCode]

/-- The exit code of a command line that starts nothing. -/
theorem code_of_ending {ending : CommandLine.Ending}
    (read : CommandLine.read arguments.tail env = .error ending) :
    (run spawner arguments env s fs).code = (Status.ofNumber ending.exitCode).code := by
  simp only [run, read]
  rfl

/-- The exit code of a compilation that ends in a failure is 1. -/
theorem code_of_error (read : CommandLine.read arguments.tail env = .ok c) {report : Report}
    (failed : (c.run (c.programs.toolchain (spawner env)) s fs).result = .error report) :
    (run spawner arguments env s fs).code = (Status.ofNumber 1).code := by
  simp only [run, read, failed]
  rfl

/-- The exit code of any other compilation is the first number returned that is not zero, and every
process has returned one. -/
theorem code_of_ok (read : CommandLine.read arguments.tail env = .ok c)
    {outcome : Pipeline.Outcome}
    (done : (c.run (c.programs.toolchain (spawner env)) s fs).result = .ok outcome) :
    ∃ numbers, List.Forall₂ Spawning.Returned (account spawner arguments env s fs) numbers ∧
      (run spawner arguments env s fs).code = (Status.ofNumber (firstNonzero numbers)).code := by
  obtain ⟨source, accepted, piped⟩ := Compilation.accepted_of_result done
  have way := Pipeline.execution_perform (c.programs.toolchain (spawner env)) source c.cutoff
    c.keepAssembly s fs
  have accounts := accounts_of_compilation spawner arguments env s fs read
  rw [Compilation.actions_of_accepted accepted] at accounts
  obtain ⟨numbers, returned, statuses⟩ := accounts.exists_numbers (way.not_broken piped)
  refine ⟨numbers, returned, ?_⟩
  have status := (Pipeline.ended_of_execution way piped).status_eq
  rw [statuses, firstFailure_eq (lt_of_returned returned)] at status
  simp only [run, read, done, status]

/-- Every exit code is a number that fits into a byte. -/
theorem exists_number (spawner : Environment → Spawner σ) (arguments : List Bytes)
    (env : Environment) (s : σ) (fs : FileSystem) :
    ∃ number, number < 256 ∧
      (run spawner arguments env s fs).code = (Status.ofNumber number).code := by
  cases read : CommandLine.read arguments.tail env with
  | error ending => exact ⟨_, exitCode_lt ending, code_of_ending read⟩
  | ok c =>
    cases result : (c.run (c.programs.toolchain (spawner env)) s fs).result with
    | error report => exact ⟨1, by decide, code_of_error read result⟩
    | ok outcome =>
      obtain ⟨numbers, returned, code⟩ := code_of_ok read result
      exact ⟨_, firstNonzero_lt (lt_of_returned returned), code⟩

/-- **The exit code is faithful.** A command line that starts nothing spawns nothing, and ends with
0 if it asked for help or for the version, and with 2 if it is wrong. A compilation ends with 1 if
it ends in a failure, and otherwise with the first number that is not zero among those that its
processes returned. What a report stands for is converted without overflow and fits into a byte, so
that the parent process sees the very code. It sees 0 exactly if the compilation has an outcome and
every process exited with code 0. -/
theorem exitCode_of_run (spawner : Environment → Spawner σ) (arguments : List Bytes)
    (env : Environment) (s : σ) (fs : FileSystem) :
    let ended := run spawner arguments env s fs
    let spawned := account spawner arguments env s fs
    (∀ ending, CommandLine.read arguments.tail env = .error ending →
      spawned = [] ∧ ended.state = s ∧ ended.files = fs ∧
        ended.observedCode = match ending with
          | .help | .version => 0
          | .wrong _ => 2) ∧
    (∀ c, CommandLine.read arguments.tail env = .ok c →
      let compiled := c.run (c.programs.toolchain (spawner env)) s fs
      (∀ report, compiled.result = .error report → ended.observedCode = 1) ∧
      (∀ outcome, compiled.result = .ok outcome →
        ∃ numbers, List.Forall₂ Spawning.Returned spawned numbers ∧
          ended.observedCode = firstNonzero numbers) ∧
      (ended.observedCode = 0 ↔ (∃ outcome, compiled.result = .ok outcome) ∧
        ∀ spawning ∈ spawned, spawning.Succeeded)) ∧
    ended.code.toInt = ended.observedCode ∧
    ∀ report : WaitReport,
      0 ≤ (Status.ofReport report).code.toInt ∧ (Status.ofReport report).code.toInt < 256 ∧
        ∀ number : Nat, report.Stands number ↔ (Status.ofReport report).code.toInt = number := by
  intro ended spawned
  refine ⟨?_, ?_, ?_, ?_⟩
  · intro ending read
    refine ⟨account_of_ending spawner arguments env s fs read, ?_, ?_, ?_⟩
    · simp only [ended, run, read]
    · simp only [ended, run, read]
    · rw [(observedCode_eq (exitCode_lt ending) (code_of_ending read)).1]
      cases ending <;> rfl
  · intro c read compiled
    have of_error : ∀ report, compiled.result = .error report → ended.observedCode = 1 :=
      fun report failed => (observedCode_eq (by decide) (code_of_error read failed)).1
    have of_ok : ∀ outcome, compiled.result = .ok outcome →
        ∃ numbers, List.Forall₂ Spawning.Returned spawned numbers ∧
          ended.observedCode = firstNonzero numbers := by
      intro outcome done
      obtain ⟨numbers, returned, code⟩ := code_of_ok read done
      exact ⟨numbers, returned,
        (observedCode_eq (firstNonzero_lt (lt_of_returned returned)) code).1⟩
    refine ⟨of_error, of_ok, ?_⟩
    cases result : compiled.result with
    | error report =>
      rw [of_error report result]
      simp
    | ok outcome =>
      obtain ⟨numbers, returned, code⟩ := of_ok outcome result
      rw [code, firstNonzero_eq_zero_iff, zeros_iff_of_returned returned]
      simp
  · obtain ⟨number, small, code⟩ := exists_number spawner arguments env s fs
    obtain ⟨observed, whole⟩ := observedCode_eq small code
    rw [observed]
    exact whole
  · intro report
    have small := Status.ofReportNat_lt report
    rw [Status.ofReport_eq, Status.toInt_ofNumber small]
    refine ⟨by omega, by omega, fun number => ?_⟩
    rw [WaitReport.stands_iff, Int.ofNat_inj]

/-- Every tool is killed by signal 11, beginning with the preprocessor. -/
example :
    let spawner : Environment → Spawner Unit := fun _ =>
      { spawn := fun _ s fs => { ended := .ok (.killed 11), state := s, files := fs } }
    let start : FileSystem := { entries := [([Bytes.ofString "foo.c"], .file 0)], cwd := [] }
    (run spawner (["ccdriver", "foo.c"].map Bytes.ofString) [] () start).observedCode = 139 := by
  decide +kernel

end Program

end CompilerDriver
