import CompilerDriver.CommandLine.Help
import CompilerDriver.Log.Filter
import CompilerDriver.Toolchain.Command

/-!
# The whole program

From a command line to an exit code. A command line that starts nothing gets its text; any other
is compiled, and the status of the compilation becomes the exit code. Everything that is written
is kept in order, and the log filter decides afterwards which records are shown. So the filter can
change nothing else.
-/

namespace CompilerDriver.Program

open Text.ControlSequence

/-- A program that has ended. -/
structure Ended (σ : Type) where
  /-- The number that the program ends with. -/
  code : Int32
  /-- What was written, in order, with every record of the log. -/
  pieces : List Piece
  /-- The log filter that is in force. -/
  filter : Log.Filter
  state : σ
  files : FileSystem

/-- The variable that sets the log filter. -/
def filterName : Bytes := Bytes.ofString "RUST_LOG"

/-- The log filter: what the environment says, or else everything up to a level that depends on
whether the log is to be verbose. -/
def filterFor (env : Environment) (verbose : Bool) : Log.Filter :=
  match env.get? filterName with
  | some value =>
    if Text.Utf8.IsText value then .ofText (Text.Utf8.display value) else usual
  | none => usual
where
  usual : Log.Filter := .upTo (if verbose then .debug else .warn)

/-- What a command line that starts nothing writes. Of the account of an error only the first line
is kept. -/
def announce (arguments : List Bytes) (env : Environment) (ending : CommandLine.Ending) : Piece :=
  let text := stripWritten (Bytes.ofString (CommandLine.endingText arguments env ending))
  match ending with
  | .wrong _ => .standardError ((Bytes.lines text).headD [] ++ [Bytes.newline])
  | _ => .standardOutput text

/-- The last line of a program that failed. -/
def complaint (report : Report) : Piece :=
  .standardError (Bytes.ofString ("error: " ++ report.chain ++ "\n"))

/-- Runs the program. The first argument is the name it was called by. -/
def run {σ : Type} (spawner : Environment → Spawner σ) (arguments : List Bytes)
    (env : Environment) (s : σ) (fs : FileSystem) : Ended σ :=
  match CommandLine.read arguments.tail env with
  | .error ending =>
    { code := Int32.ofNat ending.exitCode
      pieces := [announce arguments env ending]
      filter := filterFor env false
      state := s
      files := fs }
  | .ok compilation =>
    let run := compilation.run (compilation.programs.toolchain (spawner env)) s fs
    let filter := filterFor env compilation.verbose
    match run.result with
    | .ok outcome =>
      { code := outcome.status.code
        pieces := run.pieces
        filter
        state := run.state
        files := run.files }
    | .error report =>
      { code := 1
        pieces := run.pieces ++ [complaint report]
        filter
        state := run.state
        files := run.files }

namespace Ended

variable {σ : Type}

/-- The exit code that the parent process sees: the low byte. -/
def observedCode (e : Ended σ) : Nat := e.code.toUInt32.toNat % 256

/-- What one piece shows on the output. -/
def outputOf : Piece → Bytes
  | .standardOutput text => text
  | _ => []

/-- What one piece shows on the error output, under a filter. -/
def errorsOf (filter : Log.Filter) : Piece → Bytes
  | .standardError text => text
  | .logged record =>
    if filter.passes record then stripWritten (Bytes.ofString record.render) else []
  | .standardOutput _ => []

/-- All that the output shows. -/
def output (e : Ended σ) : Bytes := e.pieces.flatMap outputOf

/-- All that the error output shows. -/
def errors (e : Ended σ) : Bytes := e.pieces.flatMap (errorsOf e.filter)

end Ended

end CompilerDriver.Program
