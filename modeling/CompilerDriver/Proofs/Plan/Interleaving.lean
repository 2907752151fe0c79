import CompilerDriver.Proofs.FileSystem.Agreement
import CompilerDriver.Proofs.Plan.Moments
import Mathlib.Data.List.Induction

/-!
# Processes that take turns

* `Plan.next?` — what a plan does next, with what comes of it then and there. `run_of_next?` ties it
  to running: a plan is run by doing what comes next and then running what is left.
* `Process` — a plan on its way, with tools of its own and the directory it works in.
  `Process.steps_eq`: **alone, a process does turn by turn what running its plan does**, and after as
  many turns as there are events it is done, with the same result.
* `System` — processes that share the files. A schedule says whose turn it is; every interleaving of
  the events of the processes is the run of a schedule. `System.step_processes_of_ne`: a turn
  changes no other process, so all that processes feel of one another they feel by the files.
-/

namespace CompilerDriver.Plan

variable {ι σ α : Type}

/-! ## What comes next -/

/-- What a plan does next, with what comes of it now, and what is left to do then. -/
def next? (tools : Toolchain σ) (s : σ) (fs : FileSystem) : Plan α → Option (Event × Plan α)
  | done _ => none
  | call request next =>
    let answer := tools.answer request s fs
    some (.called request answer.reply answer.pieces, next answer.reply)
  | unlink path next =>
    let result := (removal fs path).1
    some (.unlinked path result, next result)
  | record entry rest => some (.recorded entry, rest)

section next

variable {tools : Toolchain σ} {s : σ} {fs : FileSystem} {plan rest : Plan α} {event : Event}

/-- Nothing comes next once a plan is done. -/
theorem done_of_next? (ended : plan.next? tools s fs = none) : ∃ result, plan = done result := by
  cases plan with
  | done result => exact ⟨result, rfl⟩
  | call | unlink | record => cases ended

/-- **Running a plan** is doing what comes next and then running what is left. -/
theorem run_of_next? (goes_on : plan.next? tools s fs = some (event, rest)) :
    plan.run tools s fs =
      let left := rest.run tools (event.after tools s fs).1 (event.after tools s fs).2
      { left with events := event :: left.events } := by
  cases plan <;> cases goes_on <;> rfl

/-- A plan that does nothing is done. -/
theorem eq_done_of_run (idle : (plan.run tools s fs).events = []) :
    plan = done (plan.run tools s fs).result := by
  cases plan with
  | done result => rfl
  | call | unlink | record => cases idle

end next

/-! ## Processes -/

/-- A plan on its way. -/
structure Process (σ α : Type) where
  tools : Toolchain σ
  /-- What is left to do. -/
  plan : Plan α
  /-- The state of the tools. -/
  state : σ
  /-- Where the process works. -/
  directory : Location
  /-- What it has done, in order. -/
  past : List (Moment σ) := []

namespace Process

/-- The process and the files after a moment of it, with what is left to do. -/
def went (process : Process σ α) (m : Moment σ) (rest : Plan α) : Process σ α × FileSystem :=
  ({ process with
      plan := rest
      state := (m.next process.tools).1
      directory := (m.next process.tools).2.cwd
      past := process.past ++ [m] }, (m.next process.tools).2)

/-- One turn of a process: what comes next in its plan. -/
def step (process : Process σ α) (fs : FileSystem) : Process σ α × FileSystem :=
  match process.plan.next? process.tools process.state (fs.seenFrom process.directory) with
  | some (event, rest) =>
    process.went ⟨event, process.state, fs.seenFrom process.directory⟩ rest
  | none => (process, fs)

/-- So many turns of a process, with nobody else at work. -/
def steps (process : Process σ α) (fs : FileSystem) : Nat → Process σ α × FileSystem
  | 0 => (process, fs)
  | n + 1 => (process.steps fs n).1.step (process.steps fs n).2

variable (process : Process σ α) (fs : FileSystem)

/-- The first turn may be taken first. -/
theorem steps_succ (n : Nat) :
    process.steps fs (n + 1) = (process.step fs).1.steps (process.step fs).2 n := by
  induction n with
  | zero => rfl
  | succ n ih => rw [steps, ih, steps]

/-- A process that is done stays as it is. -/
theorem steps_of_next? (ended : process.plan.next? process.tools process.state
    (fs.seenFrom process.directory) = none) (n : Nat) : process.steps fs n = (process, fs) := by
  induction n with
  | zero => rfl
  | succ n ih =>
    rw [steps, ih]
    simp only [step, ended]

section turns

variable {process : Process σ α} {fs : FileSystem}

theorem step_of_done {result : α} (plan : process.plan = .done result) :
    process.step fs = (process, fs) := by
  simp only [step, next?, plan]

theorem step_of_call {request : ToolCall} {next : Except Failure Status → Plan α}
    (plan : process.plan = .call request next) :
    process.step fs =
      let answer := process.tools.answer request process.state (fs.seenFrom process.directory)
      process.went ⟨.called request answer.reply answer.pieces, process.state,
        fs.seenFrom process.directory⟩ (next answer.reply) := by
  simp only [step, next?, plan]

theorem step_of_unlink {path : Path} {next : Except Cause Unit → Plan α}
    (plan : process.plan = .unlink path next) :
    process.step fs =
      let result := (removal (fs.seenFrom process.directory) path).1
      process.went ⟨.unlinked path result, process.state, fs.seenFrom process.directory⟩
        (next result) := by
  simp only [step, next?, plan]

theorem step_of_record {entry : Log.Record} {rest : Plan α}
    (plan : process.plan = .record entry rest) :
    process.step fs =
      process.went ⟨.recorded entry, process.state, fs.seenFrom process.directory⟩ rest := by
  simp only [step, next?, plan]

/-- A process whose turn it is to call a tool has called it after its turn. -/
theorem call_mem_step (fs : FileSystem) {request : ToolCall}
    {next : Except Failure Status → Plan α} (plan : process.plan = .call request next) :
    ∃ m ∈ (process.step fs).1.past, m.event.call? = some request ∧ m.state = process.state ∧
      m.files = fs.seenFrom process.directory := by
  rw [step_of_call plan]
  exact ⟨_, List.mem_append_right _ List.mem_cons_self, rfl, rfl, rfl⟩

/-- A process whose turn it is to remove something has removed it after its turn. -/
theorem unlink_mem_step (fs : FileSystem) {path : Path} {next : Except Cause Unit → Plan α}
    (plan : process.plan = .unlink path next) :
    ∃ m ∈ (process.step fs).1.past, ∃ result, m.event = .unlinked path result := by
  rw [step_of_unlink plan]
  exact ⟨_, List.mem_append_right _ List.mem_cons_self, _, rfl⟩

end turns

/-- A turn forgets nothing. -/
theorem past_step : process.past ⊆ (process.step fs).1.past := by
  unfold step
  split
  · exact List.subset_append_left _ _
  · exact List.Subset.refl _

/-- **Alone, a process does turn by turn what running its plan does.** -/
theorem steps_eq (n : Nat) :
    let run := process.plan.run process.tools process.state (fs.seenFrom process.directory)
    let (after, files) := process.steps fs n
    after.past = process.past ++
        (moments process.tools process.state (fs.seenFrom process.directory) run.events).take n ∧
      (after.state, files.seenFrom after.directory) =
        ending process.tools process.state (fs.seenFrom process.directory) (run.events.take n) ∧
      after.tools = process.tools ∧
      after.plan.run process.tools after.state (files.seenFrom after.directory) =
        { run with events := run.events.drop n } := by
  induction n generalizing process fs with
  | zero => simp [steps, ending]
  | succ n ih =>
    cases next : process.plan.next? process.tools process.state
        (fs.seenFrom process.directory) with
    | none =>
      obtain ⟨result, ended⟩ := done_of_next? next
      rw [steps_of_next? process fs next]
      simp [ended, run, moments, ending]
    | some found =>
      obtain ⟨event, rest⟩ := found
      have turn : process.step fs =
          process.went ⟨event, process.state, fs.seenFrom process.directory⟩ rest := by
        simp only [step, next]
      obtain ⟨past, after, tools, left⟩ := ih (process.step fs).1 (process.step fs).2
      rw [steps_succ, run_of_next? next]
      rw [turn] at past after tools left ⊢
      refine ⟨?_, after, tools, left⟩
      exact past.trans (List.append_assoc process.past _ _)

/-- After as many turns as there are events, a process is done. -/
theorem done_of_steps {n : Nat} (enough : (process.plan.run process.tools process.state
    (fs.seenFrom process.directory)).events.length ≤ n) :
    let run := process.plan.run process.tools process.state (fs.seenFrom process.directory)
    (process.steps fs n).1.plan = .done run.result ∧
      (process.steps fs n).2.seenFrom (process.steps fs n).1.directory = run.files := by
  intro run
  obtain ⟨-, after, -, left⟩ := process.steps_eq fs n
  rw [List.drop_eq_nil_of_le enough] at left
  rw [List.take_of_length_le enough, run_ending] at after
  refine ⟨?_, (Prod.mk.inj after).2⟩
  have ended := eq_done_of_run (congrArg Run.events left)
  rwa [left] at ended

end Process

/-! ## Systems -/

/-- Processes that share the files. -/
structure System (ι σ α : Type) where
  processes : ι → Process σ α
  files : FileSystem

namespace System

variable [DecidableEq ι] (system : System ι σ α) (schedule : List ι) {i j : ι}

/-- A process takes its turn. -/
def step (i : ι) : System ι σ α where
  processes j :=
    if j = i then ((system.processes i).step system.files).1 else system.processes j
  files := ((system.processes i).step system.files).2

/-- The processes take turns as the schedule has it. -/
def run : System ι σ α := schedule.foldl step system

@[simp] theorem run_nil : system.run [] = system := rfl

theorem run_concat : system.run (schedule ++ [i]) = (system.run schedule).step i := by
  simp [run]

theorem step_processes_self :
    (system.step i).processes i = ((system.processes i).step system.files).1 := by
  simp [step]

/-- A turn changes no other process. -/
theorem step_processes_of_ne (other : j ≠ i) :
    (system.step i).processes j = system.processes j := by
  simp [step, other]

/-- A turn of any process forgets nothing of the past of any. -/
theorem past_step (j : ι) :
    (system.processes j).past ⊆ ((system.step i).processes j).past := by
  by_cases same : j = i
  · subst same
    rw [step_processes_self]
    exact Process.past_step _ _
  · rw [step_processes_of_ne _ same]
    exact List.Subset.refl _

end System

end CompilerDriver.Plan
