import CompilerDriver.FileSystem.Action
import CompilerDriver.Toolchain

/-!
# Scripted tools

A toolchain without programs: for each tool it is laid down what a call does to the files and what
it answers. It keeps an account of the calls it was given.
-/

namespace CompilerDriver.Scripted

/-- What a call of one tool does and answers. -/
structure Turn where
  actions : List FileAction := []
  status : Status := .success
  /-- The failure that the call ends in instead, if any. -/
  failure : Option Failure := none

/-- A turn for each tool. -/
structure Script where
  preprocess : Turn := {}
  compile : Turn := {}
  assemble : Turn := {}

/-- The turn for a call. -/
def Script.turn (s : Script) : ToolCall → Turn
  | .preprocess .. => s.preprocess
  | .compile .. => s.compile
  | .assemble .. => s.assemble

/-- The account of one call. -/
structure Entry where
  call : ToolCall
  /-- Whether the input was there before the call did anything. -/
  inputExists : Bool
  /-- Which of the actions were done. -/
  actions : List Bool

/-- The path that stands for the input of a call. -/
def inputWord : Path := Path.ofString "@in"

/-- The path that stands for the output of a call, or for the input if there is no output. -/
def outputWord : Path := Path.ofString "@out"

/-- A path of a script in the light of a call. -/
def interpret (call : ToolCall) (p : Path) : Path :=
  if p = inputWord then call.input
  else if p = outputWord then call.output?.getD call.input
  else p

/-- The toolchain of a script. -/
def toolchain (script : Script) : Toolchain (List Entry) where
  answer call entries fs :=
    let turn := script.turn call
    let (done, after) :=
      FileAction.applyAll fs (turn.actions.map (FileAction.mapPaths (interpret call)))
    { reply := match turn.failure with
        | some failure => .error failure
        | none => .ok turn.status
      state := entries ++ [⟨call, fs.isPresent call.input, done⟩]
      files := after }

end CompilerDriver.Scripted
