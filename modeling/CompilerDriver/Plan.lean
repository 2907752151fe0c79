import CompilerDriver.FileSystem.Update
import CompilerDriver.Toolchain

/-!
# Plans

A plan says what the driver asks of the world and how it goes on after each reply. It fixes no
meaning for the tools: running a plan takes a toolchain and the files, and gives the result
together with everything that happened, in order. So what the driver does is one thing, and what
the tools and the operating system make of it is another.
-/

namespace CompilerDriver

/-- A finite tree of requests, each followed by what is done after its reply. -/
inductive Plan (α : Type) where
  | done (result : α)
  /-- Call a tool. -/
  | call (request : ToolCall) (next : Except Failure Status → Plan α)
  /-- Ask the operating system to remove a file. -/
  | unlink (path : Path) (next : Except Cause Unit → Plan α)
  /-- Write a record into the log. -/
  | record (entry : Log.Record) (rest : Plan α)

namespace Plan

variable {α β σ : Type}

/-- One plan after another. -/
def bind : Plan α → (α → Plan β) → Plan β
  | done a, k => k a
  | call request next, k => call request fun reply => (next reply).bind k
  | unlink path next, k => unlink path fun result => (next result).bind k
  | record entry rest, k => record entry (rest.bind k)

instance : Monad Plan where
  pure := done
  bind := bind

/-- Something that happened while a plan ran. -/
inductive Event where
  | called (request : ToolCall) (reply : Except Failure Status) (pieces : List Piece)
  | unlinked (path : Path) (result : Except Cause Unit)
  | recorded (entry : Log.Record)

namespace Event

/-- What an event adds to the log and the output streams. -/
def pieces : Event → List Piece
  | called _ _ pieces => pieces
  | unlinked .. => []
  | recorded entry => [.logged entry]

/-- The tool call of an event. -/
def call? : Event → Option ToolCall
  | called request .. => some request
  | _ => none

end Event

/-- A plan that has been run. -/
structure Run (σ α : Type) where
  result : α
  /-- What happened, in order. -/
  events : List Event
  /-- The toolchain's own state at the end. -/
  state : σ
  /-- The files at the end. -/
  files : FileSystem

/-- What was written during a run, in order. -/
def Run.pieces (r : Run σ α) : List Piece := r.events.flatMap Event.pieces

/-- The calls of a run, in order. -/
def Run.calls (r : Run σ α) : List ToolCall := r.events.filterMap Event.call?

/-- A request to remove a file, put to the file system. -/
def removal (fs : FileSystem) (p : Path) : Except Cause Unit × FileSystem :=
  match fs.unlink p with
  | .ok fs => (.ok (), fs)
  | .error cause => (.error cause, fs)

/-- Runs a plan with a toolchain. -/
def run (tools : Toolchain σ) : Plan α → σ → FileSystem → Run σ α
  | done a, s, fs => ⟨a, [], s, fs⟩
  | call request next, s, fs =>
    let answer := tools.answer request s fs
    let rest := (next answer.reply).run tools answer.state answer.files
    { rest with events := .called request answer.reply answer.pieces :: rest.events }
  | unlink path next, s, fs =>
    let (result, fs) := removal fs path
    let rest := (next result).run tools s fs
    { rest with events := .unlinked path result :: rest.events }
  | record entry plan, s, fs =>
    let rest := plan.run tools s fs
    { rest with events := .recorded entry :: rest.events }

/-! ## Plans that may fail -/

/-- A plan with a failure as a second way to end. -/
abbrev Attempt (α : Type) := ExceptT Failure Plan α

/-- Goes on with a value or ends with a failure that has been met before. -/
def settle (outcome : Except Failure α) : Attempt α := (done outcome : Plan _)

/-- Calls a tool; a tool that could not be started ends the attempt. -/
def callTool (request : ToolCall) : Attempt Status := (call request done : Plan _)

/-- Calls a tool and hands on whatever came of it. -/
def tryTool (request : ToolCall) : Attempt (Except Failure Status) :=
  ExceptT.lift (call request done)

/-- Writes a record. -/
def note (entry : Log.Record) : Attempt Unit := ExceptT.lift (record entry (done ()))

/-- Asks for a file to be removed and hands on what came of it. -/
def tryUnlink (path : Path) : Attempt (Except Cause Unit) := ExceptT.lift (unlink path done)

/-! ## What running does -/

/-- Running one plan after another is running the first and then, from where it ended, the
second. -/
theorem run_bind (tools : Toolchain σ) (plan : Plan α) (k : α → Plan β) (s : σ)
    (fs : FileSystem) :
    (plan.bind k).run tools s fs =
      let first := plan.run tools s fs
      let second := (k first.result).run tools first.state first.files
      { second with events := first.events ++ second.events } := by
  induction plan generalizing s fs with
  | done a => rfl
  | call request next ih => simp [bind, run, ih]
  | unlink path next ih => simp [bind, run, ih]
  | record entry rest ih => simp [bind, run, ih]

/-- Runs an attempt with a toolchain. -/
def perform (tools : Toolchain σ) (attempt : Attempt α) (s : σ) (fs : FileSystem) :
    Run σ (Except Failure α) :=
  run tools attempt.run s fs

/-- After a failure nothing more happens; after a success the next attempt goes on from there. -/
theorem perform_bind (tools : Toolchain σ) (attempt : Attempt α) (k : α → Attempt β) (s : σ)
    (fs : FileSystem) :
    perform tools (attempt >>= k) s fs =
      let first := perform tools attempt s fs
      match first.result with
      | .ok a =>
        let second := perform tools (k a) first.state first.files
        { second with events := first.events ++ second.events }
      | .error failure => ⟨.error failure, first.events, first.state, first.files⟩ := by
  have h : (attempt >>= k).run = Plan.bind attempt.run (ExceptT.bindCont k) := rfl
  rw [perform, h, run_bind]
  simp only [perform]
  cases (run tools attempt.run s fs).result with
  | ok a => rfl
  | error failure => simp [ExceptT.bindCont, pure, run]

@[simp] theorem perform_pure (tools : Toolchain σ) (a : α) (s : σ) (fs : FileSystem) :
    perform tools (pure a) s fs = ⟨.ok a, [], s, fs⟩ := rfl

@[simp] theorem perform_settle (tools : Toolchain σ) (outcome : Except Failure α) (s : σ)
    (fs : FileSystem) : perform tools (settle outcome) s fs = ⟨outcome, [], s, fs⟩ := rfl

@[simp] theorem perform_note (tools : Toolchain σ) (entry : Log.Record) (s : σ)
    (fs : FileSystem) :
    perform tools (note entry) s fs = ⟨.ok (), [.recorded entry], s, fs⟩ := rfl

@[simp] theorem perform_callTool (tools : Toolchain σ) (request : ToolCall) (s : σ)
    (fs : FileSystem) :
    perform tools (callTool request) s fs =
      let answer := tools.answer request s fs
      ⟨answer.reply, [.called request answer.reply answer.pieces], answer.state,
        answer.files⟩ := rfl

@[simp] theorem perform_tryTool (tools : Toolchain σ) (request : ToolCall) (s : σ)
    (fs : FileSystem) :
    perform tools (tryTool request) s fs =
      let answer := tools.answer request s fs
      ⟨.ok answer.reply, [.called request answer.reply answer.pieces], answer.state,
        answer.files⟩ := rfl

@[simp] theorem perform_tryUnlink (tools : Toolchain σ) (path : Path) (s : σ)
    (fs : FileSystem) :
    perform tools (tryUnlink path) s fs =
      let (result, files) := removal fs path
      ⟨.ok result, [.unlinked path result], s, files⟩ := rfl

end Plan

end CompilerDriver
