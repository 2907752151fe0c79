import CompilerDriver.Program
import CompilerDriver.Proofs.Compilation.Run

/-!
# What a program spawns

* `Spawner.recorded` — a spawner that also keeps account of the commands it spawns and of how each
  of them ended. `answer_recorded`: to one call the tools give the same answer with either.
* `Plan.run_recorded` — **recording changes nothing else in a run, and the account is one of its
  calls**, for every plan and every spawner. `Accounts` says what that means.
* `Program.account` — what a program spawns. `Program.run_recorded`, `account_of_ending`,
  `accounts_of_compilation` — the same for the whole program.
-/

namespace CompilerDriver

open Plan

variable {α σ : Type}

/-- A command that was spawned, and how it ended. -/
structure Spawning where
  command : Command
  ended : Except Cause WaitReport

/-- The spawner that also keeps account of what it spawns. -/
def Spawner.recorded (spawner : Spawner σ) : Spawner (σ × List Spawning) where
  spawn command s fs :=
    let spawned := spawner.spawn command s.1 fs
    { ended := spawned.ended
      state := (spawned.state, s.2 ++ [⟨command, spawned.ended⟩])
      files := spawned.files
      pieces := spawned.pieces }

/-! ## One call -/

namespace Programs

variable (programs : Programs) (spawner : Spawner σ)

/-- The answer to a call whose command ended in that way. -/
def reply (call : ToolCall) : Except Cause WaitReport → Except Failure Status
  | .ok report => .ok (Status.ofReport report)
  | .error cause =>
    .error (.notStarted call.tool (Text.Utf8.display (Command.fit (programs.command call).program))
      cause)

/-- A call is answered by how its command ended. -/
theorem reply_toolchain (call : ToolCall) (s : σ) (fs : FileSystem) :
    ((programs.toolchain spawner).answer call s fs).reply =
      programs.reply call (spawner.spawn (programs.command call) s fs).ended := by
  simp only [toolchain]
  cases (spawner.spawn (programs.command call) s fs).ended <;> rfl

/-- Recording adds one command to the account and changes no answer. -/
theorem answer_recorded (call : ToolCall) (s : σ) (account : List Spawning) (fs : FileSystem) :
    let answer := (programs.toolchain spawner).answer call s fs
    (programs.toolchain spawner.recorded).answer call (s, account) fs =
      { reply := answer.reply
        state := (answer.state, account ++ [⟨programs.command call,
          (spawner.spawn (programs.command call) s fs).ended⟩])
        files := answer.files
        pieces := answer.pieces } := by
  simp only [toolchain, Spawner.recorded]
  cases (spawner.spawn (programs.command call) s fs).ended <;> rfl

end Programs

/-! ## A run -/

/-- An account of what the calls among some actions have spawned. -/
inductive Accounts (programs : Programs) : List Spawning → List Action → Prop where
  | nil : Accounts programs [] []
  | call {request : ToolCall} {ended : Except Cause WaitReport} {account : List Spawning}
      {actions : List Action} (rest : Accounts programs account actions) :
      Accounts programs (⟨programs.command request, ended⟩ :: account)
        (.call request (programs.reply request ended) :: actions)
  | remove {path : Path} {result : Except Cause Unit} {account : List Spawning}
      {actions : List Action} (rest : Accounts programs account actions) :
      Accounts programs account (.remove path result :: actions)

/-- **Recording changes nothing but the account**, to which a run adds what its calls spawn. -/
theorem Plan.run_recorded (programs : Programs) (spawner : Spawner σ) (plan : Plan α) (s : σ)
    (before : List Spawning) (fs : FileSystem) :
    let run := plan.run (programs.toolchain spawner) s fs
    ∃ account, Accounts programs account run.actions ∧
      plan.run (programs.toolchain spawner.recorded) (s, before) fs =
        ⟨run.result, run.events, (run.state, before ++ account), run.files⟩ := by
  induction plan generalizing s before fs with
  | done a => exact ⟨[], .nil, by simp [Plan.run]⟩
  | call request next ih =>
    let answer := (programs.toolchain spawner).answer request s fs
    let spawning : Spawning :=
      ⟨programs.command request, (spawner.spawn (programs.command request) s fs).ended⟩
    obtain ⟨account, accounts, same⟩ :=
      ih answer.reply answer.state (before ++ [spawning]) answer.files
    refine ⟨spawning :: account, ?_, ?_⟩
    · have first : (Plan.run (programs.toolchain spawner) (.call request next) s fs).actions =
          .call request (programs.reply request spawning.ended) ::
            ((next answer.reply).run (programs.toolchain spawner) answer.state
              answer.files).actions := by
        rw [← programs.reply_toolchain spawner request s fs]
        rfl
      rw [first]
      exact accounts.call
    · simp only [Plan.run, programs.answer_recorded]
      rw [same, List.append_assoc]
      rfl
  | unlink path next ih =>
    obtain ⟨account, accounts, same⟩ := ih (removal fs path).1 s before (removal fs path).2
    refine ⟨account, accounts.remove, ?_⟩
    simp only [Plan.run, same]
  | record entry rest ih =>
    obtain ⟨account, accounts, same⟩ := ih s before fs
    refine ⟨account, accounts, ?_⟩
    simp only [Plan.run, same]

/-! ## The whole program -/

namespace Program

variable (spawner : Environment → Spawner σ) (arguments : List Bytes) (env : Environment) (s : σ)
  (fs : FileSystem)

/-- What a program spawns, in order. -/
def account : List Spawning :=
  (run (fun env => (spawner env).recorded) arguments env (s, []) fs).state.2

/-- A command line that starts nothing spawns nothing. -/
theorem account_of_ending {ending : CommandLine.Ending}
    (read : CommandLine.read arguments.tail env = .error ending) :
    account spawner arguments env s fs = [] := by
  simp only [account, run, read]

/-- Other command lines spawn what the calls of a compilation do. -/
theorem accounts_of_compilation {c : Compilation}
    (read : CommandLine.read arguments.tail env = .ok c) :
    Accounts c.programs (account spawner arguments env s fs)
      (c.run (c.programs.toolchain (spawner env)) s fs).actions := by
  obtain ⟨spawned, accounts, same⟩ :=
    Plan.run_recorded c.programs (spawner env) (c.plan fs) s [] fs
  have kept : account spawner arguments env s fs = spawned := by
    simp only [account, run, read, Compilation.run, same]
    cases ((c.plan fs).run (c.programs.toolchain (spawner env)) s fs).result <;> rfl
  rw [kept]
  exact accounts

/-- **A program does the same if it is recorded**, and keeps its account besides. -/
theorem run_recorded :
    let ended := run spawner arguments env s fs
    run (fun env => (spawner env).recorded) arguments env (s, []) fs =
      { ended with state := (ended.state, account spawner arguments env s fs) } := by
  intro ended
  simp only [ended, account, run]
  cases CommandLine.read arguments.tail env with
  | error ending => rfl
  | ok c =>
    obtain ⟨spawned, -, same⟩ :=
      Plan.run_recorded c.programs (spawner env) (c.plan fs) s [] fs
    simp only [Compilation.run, same]
    cases ((c.plan fs).run (c.programs.toolchain (spawner env)) s fs).result <;> rfl

end Program

end CompilerDriver
