import CompilerDriver.Plan

/-!
# Runs, moment by moment

* `Action` — what a plan does to the world, with what came of it: a call of a tool, or a request
  to remove a file. `Run.actions` lists the actions of a run in order; the log is left out of it.
* `Moment` — an event together with the toolchain's state and the files just before it. `moments`
  lays a list of events out in this way, `ending` says where it leads.
* `run_genuine` and `run_ending`, for **every plan and every toolchain**: each event of a run tells
  what the toolchain or the operating system really gave at its moment, and the events account for
  all that has become of the state and the files. So whatever a plan does to the files it does by
  its actions.
* `ending_invariant` — what every event of a list keeps, the whole list keeps.
-/

namespace CompilerDriver.Plan

variable {α σ : Type}

/-! ## Actions -/

/-- An action of a plan, with what came of it. -/
inductive Action where
  /-- A call of a tool. -/
  | call (request : ToolCall) (reply : Except Failure Status)
  /-- A request to remove a file. -/
  | remove (path : Path) (result : Except Cause Unit)

/-- The action that an event is, if it is more than a record. -/
def Event.action? : Event → Option Action
  | called request reply _ => some (.call request reply)
  | unlinked path result => some (.remove path result)
  | recorded _ => none

/-- The actions of a run, in order. -/
def Run.actions (r : Run σ α) : List Action := r.events.filterMap Event.action?

/-- The path that an action is aimed at, to write or to remove what is there. -/
def Action.target? : Action → Option Path
  | call request _ => request.output?
  | remove path _ => some path

/-- The call that an action is, if it is one. -/
def Action.call? : Action → Option ToolCall
  | call request _ => some request
  | remove .. => none

/-- The action is a call of that tool. -/
def Action.Calls (tool : Tool) : Action → Prop
  | call request _ => request.tool = tool
  | remove .. => False

/-- The calls of a run are those among its actions. -/
theorem calls_eq (r : Run σ α) : r.calls = r.actions.filterMap Action.call? := by
  rw [Run.calls, Run.actions, List.filterMap_filterMap]
  congr 1
  funext e
  cases e <;> rfl

/-! ## Moments -/

/-- The state and the files once an event has happened. A record changes neither. -/
def Event.after (tools : Toolchain σ) (s : σ) (fs : FileSystem) : Event → σ × FileSystem
  | called request _ _ => ((tools.answer request s fs).state, (tools.answer request s fs).files)
  | unlinked path _ => (s, (removal fs path).2)
  | recorded _ => (s, fs)

/-- An event, with the state and the files just before it. -/
structure Moment (σ : Type) where
  event : Event
  state : σ
  files : FileSystem

namespace Moment

/-- The state and the files just after a moment. -/
def next (tools : Toolchain σ) (m : Moment σ) : σ × FileSystem :=
  m.event.after tools m.state m.files

/-- The event tells what the toolchain, or the operating system, gives at this moment. -/
def Genuine (tools : Toolchain σ) (m : Moment σ) : Prop :=
  match m.event with
  | .called request reply pieces =>
    reply = (tools.answer request m.state m.files).reply ∧
      pieces = (tools.answer request m.state m.files).pieces
  | .unlinked path result => result = (removal m.files path).1
  | .recorded _ => True

end Moment

/-- The moments at which some events happen one after the other. -/
def moments (tools : Toolchain σ) (s : σ) (fs : FileSystem) : List Event → List (Moment σ)
  | [] => []
  | e :: events => ⟨e, s, fs⟩ :: moments tools (e.after tools s fs).1 (e.after tools s fs).2 events

/-- The state and the files after some events. -/
def ending (tools : Toolchain σ) (s : σ) (fs : FileSystem) : List Event → σ × FileSystem
  | [] => (s, fs)
  | e :: events => ending tools (e.after tools s fs).1 (e.after tools s fs).2 events

/-- Events that follow others start where those have led. -/
theorem ending_append (tools : Toolchain σ) (events more : List Event) (s : σ) (fs : FileSystem) :
    ending tools s fs (events ++ more) =
      ending tools (ending tools s fs events).1 (ending tools s fs events).2 more := by
  induction events generalizing s fs with
  | nil => rfl
  | cons e events ih => exact ih _ _

theorem moments_append (tools : Toolchain σ) (events more : List Event) (s : σ)
    (fs : FileSystem) :
    moments tools s fs (events ++ more) =
      moments tools s fs events ++
        moments tools (ending tools s fs events).1 (ending tools s fs events).2 more := by
  induction events generalizing s fs with
  | nil => rfl
  | cons e events ih => exact congrArg (List.cons _) (ih _ _)

@[simp] theorem map_event_moments (tools : Toolchain σ) (events : List Event) (s : σ)
    (fs : FileSystem) : (moments tools s fs events).map Moment.event = events := by
  induction events generalizing s fs with
  | nil => rfl
  | cons e events ih => exact congrArg (List.cons e) (ih _ _)

/-- The moments of some events are moments of these. -/
theorem event_mem_of_mem_moments {tools : Toolchain σ} {events : List Event} {s : σ}
    {fs : FileSystem} {m : Moment σ} (mem : m ∈ moments tools s fs events) : m.event ∈ events := by
  rw [← map_event_moments tools events s fs]
  exact List.mem_map_of_mem mem

/-- What every event of a list keeps of the files, the list keeps. -/
theorem ending_invariant {P : FileSystem → Prop} (tools : Toolchain σ) (events : List Event) :
    ∀ s fs, P fs → (∀ m ∈ moments tools s fs events, P m.files → P (m.next tools).2) →
      P (ending tools s fs events).2 := by
  induction events with
  | nil => intro s fs start _; exact start
  | cons e events ih =>
    intro s fs start step
    apply ih
    · exact step ⟨e, s, fs⟩ List.mem_cons_self start
    · intro m hm
      exact step m (List.mem_cons_of_mem _ hm)

/-! ## What holds of every run -/

/-- **No event of a run is made up**: each tells what came of it at its moment. -/
theorem run_genuine (tools : Toolchain σ) (plan : Plan α) (s : σ) (fs : FileSystem) :
    ∀ m ∈ moments tools s fs (plan.run tools s fs).events, m.Genuine tools := by
  induction plan generalizing s fs with
  | done a => simp [run, moments]
  | call request next ih =>
    intro m hm
    rcases List.mem_cons.1 hm with rfl | hm
    · exact ⟨rfl, rfl⟩
    · exact ih _ _ _ m hm
  | unlink path next ih =>
    intro m hm
    rcases List.mem_cons.1 hm with rfl | hm
    · rfl
    · exact ih _ _ _ m hm
  | record entry rest ih =>
    intro m hm
    rcases List.mem_cons.1 hm with rfl | hm
    · trivial
    · exact ih _ _ m hm

/-- **A run leaves what its events lead to**: nothing else changes the state or the files. -/
theorem run_ending (tools : Toolchain σ) (plan : Plan α) (s : σ) (fs : FileSystem) :
    ending tools s fs (plan.run tools s fs).events =
      ((plan.run tools s fs).state, (plan.run tools s fs).files) := by
  induction plan generalizing s fs with
  | done a => rfl
  | call request next ih => exact ih _ _ _
  | unlink path next ih => exact ih _ _ _
  | record entry rest ih => exact ih _ _

end CompilerDriver.Plan
