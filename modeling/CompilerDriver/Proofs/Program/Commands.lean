import CompilerDriver.Proofs.CommandLine.StopFlags
import CompilerDriver.Proofs.Pipeline.Course
import CompilerDriver.Proofs.Program.Account
import CompilerDriver.Proofs.Source.Anchor

/-!
# What the tools are told

* `Accounts.commands` — the commands of an account are those of the calls of the run.
* `Course.calls` — the calls of a run are the first of three, and of the first two if it is to stop.
* `commands_of_run` — **the commands of a whole run**, from the words of the command line to the
  words of the tools: each path is one word, byte for byte, and none of them looks like an option.
-/

namespace CompilerDriver

open Plan

variable {σ : Type}

/-- The commands of an account are those of the calls. -/
theorem Accounts.commands {programs : Programs} {account : List Spawning} {actions : List Action}
    (accounts : Accounts programs account actions) :
    account.map Spawning.command = (actions.filterMap Action.call?).map programs.command := by
  induction accounts with
  | nil => rfl
  | call rest ih =>
    rw [List.map_cons, ih]
    rfl
  | remove rest ih => exact ih

namespace Pipeline

/-- The three calls that a run may make, in order. -/
def plannedCalls (source : Source) (cutoff : Stage) : List ToolCall :=
  [.preprocess source.path source.preprocessed, .compile source.preprocessed cutoff.selection,
    .assemble source.assembly source.executable]

/-- On a course the first of these calls are made, and the last only in a full run. -/
theorem Course.calls {source : Source} {cutoff : Stage} {keepAssembly : Bool}
    {actions : List Action} (course : Course source cutoff keepAssembly actions) :
    actions.filterMap Action.call? ≠ [] ∧
      actions.filterMap Action.call? <+: plannedCalls source cutoff ∧
      (cutoff ≠ .full → actions.filterMap Action.call? <+: (plannedCalls source cutoff).take 2) := by
  cases course with
  | unstarted | unprocessed | compiled =>
    simp [plannedCalls, List.filterMap_cons, Action.call?]
  | assembled gone full stays =>
    simp [plannedCalls, List.filterMap_cons, Action.call?, full]
  | swept gone full discards removed =>
    simp [plannedCalls, List.filterMap_cons, Action.call?, full]

end Pipeline

/-! ## Words that look like options -/

/-- The words that the tools are to take for options. -/
def optionWords : List Bytes :=
  [Bytes.ofString "-E", Bytes.ofString "-P", Bytes.ofString "-o"]

/-- What the backend is told besides its input does not begin with a dash. -/
theorem head?_selection_ne_dash (cutoff : Stage) :
    (Programs.switch cutoff.selection.stop).head? ≠ some Bytes.dash ∧
      (Bytes.decimal cutoff.selection.cutoff).head? ≠ some Bytes.dash := by
  cases cutoff <;> decide

/-- No other word of a command begins with a dash. -/
theorem mem_optionWords {fs : FileSystem} {p : Path} {source : Source}
    (accepted : Source.validate fs p = .ok source) (programs : Programs) (cutoff : Stage) :
    ∀ call ∈ Pipeline.plannedCalls source cutoff, ∀ word ∈ (programs.command call).arguments,
      word.head? = some Bytes.dash → word ∈ optionWords := by
  obtain ⟨path, preprocessed, assembly, executable⟩ := Source.guarded_of_validate accepted
  obtain ⟨switch, number⟩ := head?_selection_ne_dash cutoff
  intro call mem word arguments dash
  simp only [Pipeline.plannedCalls, List.mem_cons, List.not_mem_nil, or_false] at mem
  rcases mem with rfl | rfl | rfl
  · simp only [Programs.command, List.mem_cons, List.not_mem_nil, or_false] at arguments
    rcases arguments with rfl | rfl | rfl | rfl | rfl
    · decide
    · decide
    · exact absurd dash path.head?_ne_dash
    · decide
    · exact absurd dash preprocessed.head?_ne_dash
  · simp only [Programs.command, List.mem_cons, List.not_mem_nil, or_false] at arguments
    rcases arguments with rfl | rfl | rfl
    · exact absurd dash preprocessed.head?_ne_dash
    · exact absurd dash switch
    · exact absurd dash number
  · simp only [Programs.command, List.mem_cons, List.not_mem_nil, or_false] at arguments
    rcases arguments with rfl | rfl | rfl
    · exact absurd dash assembly.head?_ne_dash
    · decide
    · exact absurd dash executable.head?_ne_dash

/-! ## The commands of a program -/

namespace Program

/-- **What the tools are told.** The commands that a program spawns are the first of three: to
preprocess the source, to compile what comes of that, and to assemble and link; and if some stop
flag was given, they are the first of two, whatever the tools return. The backend is told whether
there is such a flag, and the place of the earliest of them among the stages, or 5. Each path is one
word, as it is, and begins with a dot or a slash; so what begins with a dash is one of the options
that the tools are to be given. -/
theorem commands_of_run (spawner : Environment → Spawner σ) {arguments : List Bytes}
    {env : Environment} (s : σ) {fs : FileSystem} {c : Compilation} {source : Source}
    (read : CommandLine.read arguments.tail env = .ok c)
    (accepted : Source.validate fs c.input = .ok source) :
    let asked := CommandLine.stopsAsked arguments.tail
    let number := match Stage.stopping.findIdx? fun stage => stage ∈ asked with
      | some index => index + 1
      | none => 5
    let preprocess : Command :=
      ⟨c.programs.cc, [Bytes.ofString "-E", Bytes.ofString "-P", source.path.bytes,
        Bytes.ofString "-o", source.preprocessed.bytes]⟩
    let compile : Command :=
      ⟨c.programs.backend, [source.preprocessed.bytes,
        Bytes.ofString (if asked = [] then "False" else "True"), Bytes.decimal number]⟩
    let assemble : Command :=
      ⟨c.programs.cc, [source.assembly.bytes, Bytes.ofString "-o", source.executable.bytes]⟩
    let commands := (account spawner arguments env s fs).map Spawning.command
    commands ≠ [] ∧ commands <+: [preprocess, compile, assemble] ∧
      (asked ≠ [] → commands <+: [preprocess, compile]) ∧
      (∀ path ∈ [source.path, source.preprocessed, source.assembly, source.executable],
        path.bytes.head? = some Bytes.dot ∨ path.bytes.head? = some Bytes.slash) ∧
      ∀ command ∈ commands, ∀ word ∈ command.arguments,
        word.head? = some Bytes.dash → word ∈ optionWords := by
  intro asked number preprocess compile assemble commands
  have selection : c.cutoff.selection = ⟨asked ≠ [], number⟩ := CommandLine.selection_of_read read
  have planned : (Pipeline.plannedCalls source c.cutoff).map c.programs.command =
      [preprocess, compile, assemble] := by
    have switch : Programs.switch (decide (asked ≠ [])) =
        Bytes.ofString (if asked = [] then "False" else "True") := by
      by_cases none_asked : asked = [] <;> simp [Programs.switch, none_asked]
    simp only [Pipeline.plannedCalls, List.map_cons, List.map_nil, Programs.command, selection,
      switch]
    rfl
  have made : commands =
      ((c.run (c.programs.toolchain (spawner env)) s fs).actions.filterMap
        Action.call?).map c.programs.command :=
    (accounts_of_compilation spawner arguments env s fs read).commands
  rw [Compilation.actions_of_accepted accepted] at made
  obtain ⟨some_call, first_calls, stopped_calls⟩ := (Pipeline.course_perform
    (c.programs.toolchain (spawner env)) source c.cutoff c.keepAssembly s fs).calls
  refine ⟨?_, ?_, ?_, ?_, ?_⟩
  · rw [made]
    simpa using some_call
  · rw [made, ← planned]
    exact first_calls.map _
  · intro stops
    have not_full : c.cutoff ≠ .full := by
      intro full
      rw [full] at selection
      have stop : false = decide (asked ≠ []) := congrArg Selection.stop selection
      rw [decide_eq_true stops] at stop
      cases stop
    have first_two := (stopped_calls not_full).map c.programs.command
    rw [List.map_take, planned] at first_two
    rw [made]
    exact first_two
  · obtain ⟨path, preprocessed, assembly, executable⟩ := Source.guarded_of_validate accepted
    simpa using ⟨path, preprocessed, assembly, executable⟩
  · intro command mem
    rw [made] at mem
    obtain ⟨call, called, rfl⟩ := List.mem_map.1 mem
    exact mem_optionWords accepted c.programs c.cutoff call (first_calls.subset called)

/-- An input whose name begins with a dash, with a stop flag before it: tools that succeed are told
to preprocess and to parse it, by paths that begin with a dot. -/
theorem commands_of_dashed_input :
    let spawner : Environment → Spawner Unit := fun _ =>
      { spawn := fun _ s fs => { ended := .ok (.exited 0), state := s, files := fs } }
    let arguments := ["ccdriver", "--parse", "--", "-foo.c"].map Bytes.ofString
    let start : FileSystem := { entries := [([Bytes.ofString "-foo.c"], .file 0)], cwd := [] }
    let commands := (account spawner arguments [] () start).map Spawning.command
    let preprocess : Command :=
      ⟨Bytes.ofString "clang", ["-E", "-P", "./-foo.c", "-o", "./-foo.i"].map Bytes.ofString⟩
    let compile : Command :=
      ⟨Bytes.ofString "bin/compiler", ["./-foo.i", "True", "2"].map Bytes.ofString⟩
    commands = [preprocess, compile] ∧
      ∀ command ∈ commands, ∀ word ∈ command.arguments,
        word.head? = some Bytes.dash → word ∈ optionWords := by
  intro spawner arguments start commands preprocess compile
  have read : CommandLine.read arguments.tail [] =
      .ok { input := Path.ofString "-foo.c", cutoff := .parse } := rfl
  have accepted : Source.validate start (Path.ofString "-foo.c") =
      .ok ⟨Path.ofString "./-foo.c", Path.ofString "./-foo"⟩ := rfl
  obtain ⟨-, -, -, -, words⟩ := commands_of_run spawner () read accepted
  refine ⟨?_, words⟩
  decide +kernel

end Program

end CompilerDriver
