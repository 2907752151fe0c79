import CompilerDriver.FileSystem.Lookup
import CompilerDriver.Log.Record
import CompilerDriver.Stage
import CompilerDriver.Status

/-!
# Toolchains

The three tools that the driver delegates to, seen from outside: a call goes in, and an answer
comes back that says how the tool ended, what it did to the files, and what was written meanwhile.
A toolchain may answer anything and change the files in any way, and it may keep a state of its
own between calls.
-/

namespace CompilerDriver

/-- One call of a tool. -/
inductive ToolCall where
  /-- Preprocess `input` into `output`. -/
  | preprocess (input output : Path)
  /-- Run the backend on a preprocessed file. -/
  | compile (input : Path) (selection : Selection)
  /-- Assemble and link into `output`. -/
  | assemble (assembly output : Path)
deriving DecidableEq, Repr

namespace ToolCall

/-- The tool that is called. -/
def tool : ToolCall → Tool
  | preprocess .. => .preprocessor
  | compile .. => .backend
  | assemble .. => .assembler

/-- The file that the tool reads. -/
def input : ToolCall → Path
  | preprocess input _ | compile input _ | assemble input _ => input

/-- The file that the tool is told to write; the backend finds that out by itself. -/
def output? : ToolCall → Option Path
  | preprocess _ output | assemble _ output => some output
  | compile .. => none

end ToolCall

/-- Something written while the driver runs: to the log, or to one of the two output streams. -/
inductive Piece where
  | logged (record : Log.Record)
  | standardOutput (text : Bytes)
  | standardError (text : Bytes)
deriving DecidableEq, Repr

/-- What a call leaves behind. -/
structure Answer (σ : Type) where
  /-- The status of a tool that ran, or why it did not. -/
  reply : Except Failure Status
  /-- The toolchain's own state afterwards. -/
  state : σ
  /-- The files afterwards. -/
  files : FileSystem
  /-- What was written meanwhile, in order. -/
  pieces : List Piece := []

/-- The tools of a compilation. -/
structure Toolchain (σ : Type) where
  answer : ToolCall → σ → FileSystem → Answer σ

/-- The toolchain whose tools always succeed and do nothing. -/
def Toolchain.idle : Toolchain Unit where
  answer _ _ fs := { reply := .ok .success, state := (), files := fs }

end CompilerDriver
