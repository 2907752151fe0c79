import CompilerDriver.OsError
import CompilerDriver.Path

/-!
# Failures

What can go wrong on the driver's own side, and the text that reports it. A tool that runs and
ends with a status other than zero is no failure: its status is passed on. A failure may have a
cause, and the pipeline wraps its failures in the source that was being compiled; the full report
is all these texts, outermost first, with a colon between them.
-/

namespace CompilerDriver

/-- Why a request to the operating system came to nothing. -/
inductive Cause where
  /-- The operating system refused. -/
  | os (error : OsError)
  /-- The request never reached it: a path holds a zero byte. -/
  | nulInPath
  /-- The request never reached it: a word of a command holds a zero byte. -/
  | nulInCommand
  /-- Any other reason, told by its text. -/
  | other (text : String)
deriving DecidableEq, Repr

namespace Cause

/-- The text of a cause. -/
def message : Cause → String
  | os error => error.message
  | nulInPath => "file name contained an unexpected NUL byte"
  | nulInCommand => "nul byte found in provided data"
  | other text => text

/-- The text of a cause without its number. -/
def plainText : Cause → String
  | os error => error.text
  | cause => cause.message

/-- The number of a cause that the operating system gave. -/
def osCode? : Cause → Option Int
  | os error => some error.code
  | _ => none

end Cause

/-- The tools the driver delegates to. -/
inductive Tool where
  | preprocessor
  | backend
  | assembler
deriving DecidableEq, Repr

/-- The name of a tool in messages. -/
def Tool.name : Tool → String
  | preprocessor => "preprocessor"
  | backend => "backend"
  | assembler => "assembler"

/-- What can go wrong on the driver's own side. -/
inductive Failure where
  /-- The input is no regular file. -/
  | inputNotFound (path : Path)
  /-- The name of the input is not a stem, one dot and an extension. -/
  | nameShape (path : Path)
  /-- A tool could not be started. -/
  | notStarted (tool : Tool) (program : String) (cause : Cause)
  /-- An intermediate file could not be removed. -/
  | notRemoved (path : Path) (cause : Cause)
deriving DecidableEq, Repr

namespace Failure

/-- The text of a failure, without its cause. -/
def message : Failure → String
  | inputNotFound path => "input file `" ++ path.display ++ "` does not exist"
  | nameShape path =>
    "input file `" ++ path.display ++
      "` must have exactly one extension separator (`name.ext`)"
  | notStarted tool program _ => "failed to run " ++ tool.name ++ " `" ++ program ++ "`"
  | notRemoved path _ => "failed to remove intermediate file `" ++ path.display ++ "`"

/-- The cause behind a failure. -/
def cause? : Failure → Option Cause
  | notStarted _ _ cause | notRemoved _ cause => some cause
  | _ => none

/-- The texts of a failure and of its cause. -/
def messages (f : Failure) : List String :=
  f.message :: (f.cause?.map Cause.message).toList

end Failure

/-- A failure with the source that was being compiled, if the compilation had begun. -/
structure Report where
  compiling : Option Path := none
  failure : Failure
deriving DecidableEq, Repr

namespace Report

/-- The texts of a report, outermost first. -/
def messages (r : Report) : List String :=
  match r.compiling with
  | some path => ("Compiling " ++ path.display) :: r.failure.messages
  | none => r.failure.messages

/-- The outermost text. -/
def message (r : Report) : String := r.messages.headD r.failure.message

/-- All texts, with a colon between them. -/
def chain (r : Report) : String := ": ".intercalate r.messages

end Report

end CompilerDriver
