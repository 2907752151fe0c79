import CompilerDriver.Compilation
import CompilerDriver.Text.Quoted

/-!
# Tools as commands

The toolchain that runs programs: each call becomes a command, a program and a list of words that
no shell ever splits. How a command is run is left to a `Spawner`; this file fixes the words, the
two records around each command, and how the way it ended becomes a status.
-/

namespace CompilerDriver

/-- A program and its arguments. -/
structure Command where
  program : Bytes
  arguments : List Bytes
deriving DecidableEq, Repr

namespace Command

/-- What stands for a word with a zero byte, which no program can be given. -/
def unfit : Bytes := Bytes.ofString "<string-with-nul>"

/-- The word as it can be shown and passed on. -/
def fit (word : Bytes) : Bytes := if 0 ∈ word then unfit else word

/-- The command in the log: its words in quotes. -/
def display (c : Command) : String :=
  " ".intercalate (Text.Quoted.quoteProgram (fit c.program) ::
    c.arguments.map fun word => Text.Quoted.quote (fit word))

/-- Whether some word holds a zero byte. -/
def holdsNul (c : Command) : Bool := (c.program :: c.arguments).any fun word => 0 ∈ word

end Command

/-- How a command went: the operating system's report, or why there is none, the state and the
files afterwards, and what the command wrote. -/
structure Spawned (σ : Type) where
  ended : Except Cause WaitReport
  state : σ
  files : FileSystem
  pieces : List Piece := []

/-- A way to run commands to their end. -/
structure Spawner (σ : Type) where
  spawn : Command → σ → FileSystem → Spawned σ

namespace Programs

/-- The backend's spelling of its stop switch. -/
def switch (stop : Bool) : Bytes := Bytes.ofString (if stop then "True" else "False")

/-- The command of a call. -/
def command (programs : Programs) : ToolCall → Command
  | .preprocess input output =>
    ⟨programs.cc, [Bytes.ofString "-E", Bytes.ofString "-P", input.bytes, Bytes.ofString "-o",
      output.bytes]⟩
  | .compile input selection =>
    ⟨programs.backend,
      [input.bytes, switch selection.stop, Bytes.ofString selection.cutoff.repr]⟩
  | .assemble assembly output =>
    ⟨programs.cc, [assembly.bytes, Bytes.ofString "-o", output.bytes]⟩

/-- A record of the toolchain. -/
def noted (message : String) : Piece := .logged ⟨.debug, .toolchain, message⟩

/-- The toolchain that runs these programs. -/
def toolchain {σ : Type} (programs : Programs) (spawner : Spawner σ) : Toolchain σ where
  answer call s fs :=
    let command := programs.command call
    let started := noted s!"running {call.tool.name}: {command.display}"
    let spawned := spawner.spawn command s fs
    match spawned.ended with
    | .ok report =>
      let status := Status.ofReport report
      { reply := .ok status
        state := spawned.state
        files := spawned.files
        pieces := started :: spawned.pieces ++
          [noted s!"{call.tool.name} exited with status {status}"] }
    | .error cause =>
      let program := Text.Utf8.display (Command.fit command.program)
      { reply := .error (.notStarted call.tool program cause)
        state := spawned.state
        files := spawned.files
        pieces := started :: spawned.pieces }

end Programs

end CompilerDriver
