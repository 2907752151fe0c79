import CompilerDriver.FileSystem.Lookup

/-!
# Sources

An input file that has been checked, and the files made from it. The name of a source is a stem, a
dot and an extension; what is made from it stands in the same directory under the same stem. A
plain relative path gets `./` in front, so that no derived path can be read as an option of a tool.
-/

namespace CompilerDriver

/-- A checked input: its path, and the same path with the extension taken off the name. -/
structure Source where
  path : Path
  stem : Path
deriving DecidableEq, Repr

namespace Source

/-- The stem of a name that is text and is a stem, one dot and an extension, both not empty. -/
def stemOfName? (name : Bytes) : Option Bytes :=
  if Text.Utf8.IsText name then
    match Bytes.cut? Bytes.dot name with
    | some (stem, extension) =>
      if stem ≠ [] ∧ extension ≠ [] ∧ Bytes.dot ∉ extension then some stem else none
    | none => none
  else none

/-- The source of a path whose name has the right shape. -/
def ofPath? (p : Path) : Option Source :=
  (p.fileName?.bind stemOfName?).map fun stem => ⟨p.anchored, p.anchored.withFileName stem⟩

/-- Checks an input. A path that leads to no regular file is not found, whatever its name looks
like; both failures carry the path as it was given. -/
def validate (fs : FileSystem) (p : Path) : Except Failure Source :=
  if fs.isFile p then
    match ofPath? p with
    | some source => .ok source
    | none => .error (.nameShape p)
  else .error (.inputNotFound p)

/-- Where the preprocessed source goes. -/
def preprocessed (s : Source) : Path := s.stem.withExtension (Bytes.ofString "i")

/-- Where the assembly goes. -/
def assembly (s : Source) : Path := s.stem.withExtension (Bytes.ofString "s")

/-- Where the executable goes. -/
def executable (s : Source) : Path := s.stem

/-- Two sources are the same when their paths go through the same components. -/
def Same (s t : Source) : Prop :=
  s.path.components = t.path.components ∧ s.stem.components = t.stem.components

instance (s t : Source) : Decidable (Same s t) := inferInstanceAs (Decidable (_ ∧ _))

end Source

end CompilerDriver
