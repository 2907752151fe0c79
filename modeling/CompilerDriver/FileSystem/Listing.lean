import CompilerDriver.FileSystem.Basic

/-!
# Listings

All that lies inside a directory, each entry with its path from there, in the order of the bytes
of these paths. Links are listed and not followed.
-/

namespace CompilerDriver.FileSystem

/-- One line of a listing. -/
structure Listed where
  path : Path
  node : Node
deriving DecidableEq, Repr

/-- The names that lead from `top` to a location inside it, outermost first. -/
def namesBelow (top l : Location) : List Bytes := (l.take (l.length - top.length)).reverse

/-- The entries strictly inside `top`, without those that `hidden` names at its first level. -/
def listing (fs : FileSystem) (top : Location) (hidden : List Bytes) : List Listed :=
  let inside := fs.entries.filter fun e =>
    isWithin top e.1 && e.1 ≠ top && (namesBelow top e.1).head?.all fun name => name ∉ hidden
  let lines := inside.map fun e => ⟨Path.ofSegments (namesBelow top e.1), fs.view e.2⟩
  lines.mergeSort fun a b => a.path.bytes.precedes b.path.bytes

end CompilerDriver.FileSystem
