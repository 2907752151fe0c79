import CompilerDriver.CommandLine.Option
import CompilerDriver.Text.ControlSequence

/-!
# Command lines that start nothing

A command line may ask for information or be wrong. What is wrong is told in one line; the program
then ends with 2, and with 0 when it was only asked something.
-/

namespace CompilerDriver.CommandLine

open Text.ControlSequence

/-- What may be missing a value. -/
inductive Slot where
  | file
  | setting (setting : Setting)
deriving DecidableEq, Repr

/-- A slot as messages show it. -/
def Slot.display : Slot → String
  | file => "<FILE>"
  | setting s => (Switch.setting s).display

/-- What is wrong with a command line. -/
inductive UsageError where
  /-- No input is named. -/
  | missingFile
  /-- An argument that means nothing here, as it is shown. -/
  | unknownArgument (shown : String)
  /-- A switch that was given before. -/
  | repeated (switch : Switch)
  /-- A value attached to a switch that takes none. -/
  | unexpectedValue (value : String) (switch : Switch)
  /-- No value, or an empty one where that will not do. -/
  | valueRequired (slot : Slot)
deriving DecidableEq, Repr

/-- The account of an error. What the user wrote stands out on a terminal. -/
def UsageError.account (e : UsageError) : String :=
  let account := match e with
    | missingFile => "the following required arguments were not provided:"
    | unknownArgument shown => "unexpected argument '" ++ emphasized shown ++ "' found"
    | repeated switch => "the argument '" ++ switch.display ++ "' cannot be used multiple times"
    | unexpectedValue value switch =>
      "unexpected value '" ++ emphasized value ++ "' for '" ++ switch.display ++
        "' found; no more were expected"
    | valueRequired slot =>
      "a value is required for '" ++ slot.display ++ "' but none was supplied"
  "error: " ++ account ++ "\n"

/-- The first line of an account, less all control sequences: a line end in what the user wrote cuts
it off. -/
def UsageError.message (e : UsageError) : String :=
  Text.Utf8.display ((Bytes.lines (stripText (Bytes.ofString e.account))).headD [])

/-- Why a command line starts no compilation. -/
inductive Ending where
  | help
  | version
  | wrong (error : UsageError)
deriving DecidableEq, Repr

/-- The exit code that goes with an ending. -/
def Ending.exitCode : Ending → Nat
  | help | version => 0
  | wrong _ => 2

end CompilerDriver.CommandLine
