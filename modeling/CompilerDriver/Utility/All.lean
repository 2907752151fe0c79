import CompilerDriver.Utility.Blocks
import CompilerDriver.Utility.Calculating
import CompilerDriver.Utility.Characters
import CompilerDriver.Utility.Columns
import CompilerDriver.Utility.Comparing
import CompilerDriver.Utility.Finding
import CompilerDriver.Utility.Ordering
import CompilerDriver.Utility.Searching
import CompilerDriver.Utility.StreamEditor.Run
import CompilerDriver.Utility.Words

/-!
# The utilities of the system

All native programs but the shell, by name.
-/

namespace CompilerDriver.Utility

/-- The utilities. -/
def all : List Utility :=
  wordUtilities ++ pathUtilities ++ removingUtilities ++ permissionUtilities ++ copyingUtilities ++
    textUtilities ++ launchers ++ searchingUtilities ++ orderingUtilities ++ columnUtilities ++
    comparingUtilities ++ inspectingUtilities ++ findingUtilities ++ blockUtilities ++
    [⟨"sed", StreamEditor.sed⟩, ⟨"tr", tr⟩, ⟨"expr", expr⟩]

/-- The utility of a name. -/
def find? (name : Bytes) : Option Utility := all.find? fun u => Bytes.ofString u.name = name

end CompilerDriver.Utility
