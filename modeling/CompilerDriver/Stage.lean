/-!
# Stages

The points at which a compilation may stop, in the order in which they are passed, and the
switches that choose one. The earliest stop that is asked for wins; with none the compilation runs
to its end. The backend is told only whether to stop and after how many of its five stages.
-/

namespace CompilerDriver

/-- One point the compilation may stop at, in execution order. `full` alone does not stop. -/
inductive Stage where
  | lex
  | parse
  | tacky
  | assemble
  | codegen
  | full
deriving DecidableEq, Repr

namespace Stage

/-- Position in execution order. -/
def rank : Stage → Nat
  | lex => 0
  | parse => 1
  | tacky => 2
  | assemble => 3
  | codegen => 4
  | full => 5

instance : Ord Stage := ⟨fun a b => compare a.rank b.rank⟩

instance : LE Stage := ⟨fun a b => a.rank ≤ b.rank⟩

instance (a b : Stage) : Decidable (a ≤ b) := inferInstanceAs (Decidable (a.rank ≤ b.rank))

/-- The stages that stop, earliest first. -/
def stopping : List Stage := [lex, parse, tacky, assemble, codegen]

/-- How many of its stages the backend runs, counted from one. The last two stages are alike to
it: code generation is the last thing it does. -/
def cutoff : Stage → Nat
  | lex => 1
  | parse => 2
  | tacky => 3
  | assemble => 4
  | codegen | full => 5

/-- Every stage but the full compilation stops. -/
def stops (s : Stage) : Bool := s != full

/-- The name shown to the user. -/
def name : Stage → String
  | lex => "lex"
  | parse => "parse"
  | tacky => "tacky"
  | assemble => "assemble"
  | codegen => "codegen"
  | full => "full"

/-- Stages in execution order; equal ones keep their places. -/
def sort (stages : List Stage) : List Stage := stages.mergeSort fun a b => a.rank ≤ b.rank

/-- The earliest of some stages. -/
def earliest? (stages : List Stage) : Option Stage := (sort stages).head?

/-- A stage stops exactly when it is one of the stopping ones. -/
theorem mem_stopping_iff (s : Stage) : s ∈ stopping ↔ s.stops = true := by
  cases s <;> decide

end Stage

/-- The switches "stop after …" of a command line. -/
structure StopFlags where
  lex : Bool := false
  parse : Bool := false
  tacky : Bool := false
  assemble : Bool := false
  codegen : Bool := false
deriving DecidableEq, Repr

namespace StopFlags

/-- Whether the switch of a stage is set. The full compilation has no switch. -/
def isSet (f : StopFlags) : Stage → Bool
  | .lex => f.lex
  | .parse => f.parse
  | .tacky => f.tacky
  | .assemble => f.assemble
  | .codegen => f.codegen
  | .full => false

/-- The switch of a stage set as well. -/
def insert (f : StopFlags) : Stage → StopFlags
  | .lex => { f with lex := true }
  | .parse => { f with parse := true }
  | .tacky => { f with tacky := true }
  | .assemble => { f with assemble := true }
  | .codegen => { f with codegen := true }
  | .full => f

/-- Where the compilation stops: at the earliest switch that is set, or not at all. -/
def cutoff (f : StopFlags) : Stage := (Stage.stopping.find? f.isSet).getD .full

end StopFlags

/-- What the backend is told: whether to stop early, and after how many stages. -/
structure Selection where
  stop : Bool
  cutoff : Nat
deriving DecidableEq, Repr

/-- The selection that stands for a stage. -/
def Stage.selection (s : Stage) : Selection := ⟨s.stops, s.cutoff⟩

end CompilerDriver
