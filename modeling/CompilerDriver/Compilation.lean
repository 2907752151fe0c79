import CompilerDriver.Pipeline

/-!
# Compilations

One compilation as the user asks for it: an input, where to stop, what to keep and which programs
to use. The input is checked first, and no tool is called unless it passes. A failure of the check
is reported as it is; a failure of the pipeline is reported with the source it was met on.
-/

namespace CompilerDriver

/-- The programs that serve as tools. -/
structure Programs where
  /-- Preprocesses, and assembles and links. -/
  cc : Bytes := Bytes.ofString "clang"
  /-- The backend. -/
  backend : Bytes := Bytes.ofString "bin/compiler"
deriving DecidableEq, Repr

/-- A compilation as it is asked for. -/
structure Compilation where
  input : Path
  cutoff : Stage := .full
  keepAssembly : Bool := false
  verbose : Bool := false
  programs : Programs := {}
deriving DecidableEq, Repr

namespace Compilation

open Plan

/-- A record of the driver. -/
def noted (message : String) : Log.Record := ⟨.debug, .driver, message⟩

/-- The compilation of a source that has been checked. -/
def compile (c : Compilation) (source : Source) : Plan (Except Report Pipeline.Outcome) :=
  .record (noted <|
      s!"input {source.path.display} accepted, cutoff {c.cutoff.name} ({c.cutoff.cutoff})") do
    match ← (Pipeline.execute source c.cutoff c.keepAssembly).run with
    | .ok outcome =>
      .record (noted s!"finished in state {outcome.state.name}") (.done (.ok outcome))
    | .error failure => .done (.error ⟨some source.path, failure⟩)

/-- The plan of a compilation, with the files as they are when it begins. -/
def plan (c : Compilation) (fs : FileSystem) : Plan (Except Report Pipeline.Outcome) :=
  match Source.validate fs c.input with
  | .error failure => .done (.error ⟨none, failure⟩)
  | .ok source => c.compile source

/-- A compilation run with a toolchain. -/
def run {σ : Type} (c : Compilation) (tools : Toolchain σ) (s : σ) (fs : FileSystem) :
    Run σ (Except Report Pipeline.Outcome) :=
  (c.plan fs).run tools s fs

end Compilation

end CompilerDriver
