import CompilerDriver.Proofs.CommandLine.Verbosity
import CompilerDriver.Proofs.Program.Account
import Mathlib.Data.List.Basic

/-!
# Logging interferes with nothing

* `Piece.isShown` — whether a filter lets a piece through to the error output. `Ended.shown`: the
  pieces there, in order; `Ended.errors_eq` says that they are all of it.
* `record?_shown`, `said_shown` — of the records those that pass are shown, and what is not a record
  is shown whatever the filter.
* `run_of_read` — a run written out: what the compilation writes, and after it the complaint if it
  has failed.
* `run_of_log` — **a run with other settings of the log is the same but for its filter**.
* `logging_of_run` — what that means for the error output, and for all else that a run leaves.
-/

namespace CompilerDriver

variable {σ : Type}

/-! ## What a filter shows -/

namespace Piece

/-- The record that a piece is. -/
def record? : Piece → Option Log.Record
  | logged record => some record
  | _ => none

/-- Whether a piece is shown on the error output, under a filter. -/
def isShown (filter : Log.Filter) : Piece → Bool
  | logged record => filter.passes record
  | standardError _ => true
  | standardOutput _ => false

/-- Whether a piece is shown on the error output whatever the filter. -/
def isSaid : Piece → Bool
  | standardError _ => true
  | _ => false

/-- Of the records those that pass are shown, in order. -/
theorem record?_shown (filter : Log.Filter) (pieces : List Piece) :
    (pieces.filter (isShown filter)).filterMap record? =
      (pieces.filterMap record?).filter filter.passes := by
  induction pieces with
  | nil => rfl
  | cons piece pieces ih =>
    cases piece with
    | logged entry =>
      by_cases passes : filter.passes entry = true <;> simp [isShown, record?, passes, ih]
    | standardOutput text | standardError text =>
      rw [List.filterMap_cons_none (by rfl), ← ih]
      rfl

/-- What is not a record is shown whatever the filter. -/
theorem said_shown (filter : Log.Filter) (pieces : List Piece) :
    (pieces.filter (isShown filter)).filter (fun piece => piece.record? = none) =
      pieces.filter isSaid := by
  rw [List.filter_filter]
  refine List.filter_congr fun piece _ => ?_
  cases piece <;> simp [isShown, isSaid, record?]

/-- A filter that lets more records pass shows more pieces. -/
theorem shown_sublist {filter filter' : Log.Filter}
    (wider : ∀ record, filter.passes record = true → filter'.passes record = true)
    (pieces : List Piece) :
    (pieces.filter (isShown filter)).Sublist (pieces.filter (isShown filter')) := by
  refine List.monotone_filter_right pieces fun piece shown => ?_
  cases piece with
  | logged record => exact wider record shown
  | standardOutput | standardError => exact shown

end Piece

/-- A filter up to a level lets pass what is no less important. -/
theorem Log.Filter.passes_upTo (level : Log.Level) (record : Log.Record) :
    (upTo level).passes record = decide (record.level.rank ≤ level.rank) := rfl

namespace Program

namespace Ended

variable {ended : Ended σ}

/-- The pieces on the error output, in order. -/
def shown (ended : Ended σ) : List Piece := ended.pieces.filter (Piece.isShown ended.filter)

/-- The error output is the pieces that are shown there. -/
theorem errors_eq (ended : Ended σ) :
    ended.errors = ended.shown.flatMap (errorsOf ended.filter) := by
  rw [errors, shown]
  induction ended.pieces with
  | nil => rfl
  | cons piece pieces ih =>
    by_cases is : piece.isShown ended.filter = true
    · rw [List.filter_cons_of_pos is, List.flatMap_cons, List.flatMap_cons, ih]
    · have nothing : errorsOf ended.filter piece = [] := by
        cases piece with
        | logged entry => exact if_neg is
        | standardError => exact absurd rfl is
        | standardOutput => rfl
      rw [List.filter_cons_of_neg is, List.flatMap_cons, nothing, List.nil_append, ih]

end Ended

/-! ## The run of a program -/

variable {spawner : Environment → Spawner σ} {arguments : List Bytes} {env env' : Environment}
  {c : Compilation}

/-- What a program says of the result of its compilation. -/
def complaints : Except Report Pipeline.Outcome → List Piece
  | .ok _ => []
  | .error report => [complaint report]

/-- The number that a program ends with after a compilation. -/
def codeOf : Except Report Pipeline.Outcome → Int32
  | .ok outcome => outcome.status.code
  | .error _ => 1

section accepted

variable (spawner : Environment → Spawner σ) (s : σ) (fs : FileSystem)

/-- A run of an accepted command line. -/
theorem run_of_read (accepted : CommandLine.read arguments.tail env = .ok c) :
    run spawner arguments env s fs =
      let compiled := c.run (c.programs.toolchain (spawner env)) s fs
      { code := codeOf compiled.result
        pieces := compiled.pieces ++ complaints compiled.result
        filter := filterFor env c.verbose
        state := compiled.state
        files := compiled.files } := by
  simp only [run, accepted]
  cases (c.run (c.programs.toolchain (spawner env)) s fs).result with
  | ok outcome => simp only [complaints, codeOf, List.append_nil]
  | error report => rfl

/-- What a run shows on the error output: what the compilation writes there, less the records that do
not pass, and then the complaint. -/
theorem shown_of_read (accepted : CommandLine.read arguments.tail env = .ok c) :
    let compiled := c.run (c.programs.toolchain (spawner env)) s fs
    (run spawner arguments env s fs).shown =
      compiled.pieces.filter (Piece.isShown (filterFor env c.verbose)) ++
        complaints compiled.result := by
  intro compiled
  rw [run_of_read spawner s fs accepted, Ended.shown, List.filter_append]
  -- A complaint is no record, so it is shown.
  have kept : ∀ filter, (complaints compiled.result).filter (Piece.isShown filter) =
      complaints compiled.result := by
    intro filter
    cases compiled.result <;> rfl
  rw [kept]

/-- The records that a run shows are those of the compilation that pass. -/
theorem records_of_read (accepted : CommandLine.read arguments.tail env = .ok c) :
    let compiled := c.run (c.programs.toolchain (spawner env)) s fs
    (run spawner arguments env s fs).shown.filterMap Piece.record? =
      (compiled.pieces.filterMap Piece.record?).filter (filterFor env c.verbose).passes := by
  intro compiled
  have none_there : (complaints compiled.result).filterMap Piece.record? = [] := by
    cases compiled.result <;> rfl
  rw [shown_of_read spawner s fs accepted, List.filterMap_append, Piece.record?_shown, none_there,
    List.append_nil]

end accepted

/-! ## Runs with other settings of the log -/

/-- The tools do the same in both environments. -/
def Indifferent (spawner : Environment → Spawner σ) (programs : Programs)
    (env env' : Environment) : Prop :=
  ∀ call s fs, (spawner env').spawn (programs.command call) s fs =
    (spawner env).spawn (programs.command call) s fs

/-- What is recorded of tools that do the same is the same. -/
theorem Indifferent.recorded {programs : Programs}
    (indifferent : Indifferent spawner programs env env') :
    Indifferent (fun env => (spawner env).recorded) programs env env' := by
  intro call s fs
  simp only [Spawner.recorded, indifferent call]

theorem Indifferent.toolchain {programs : Programs}
    (indifferent : Indifferent spawner programs env env') :
    programs.toolchain (spawner env') = programs.toolchain (spawner env) := by
  simp only [Programs.toolchain, indifferent _]

/-- Whether a compilation is verbose makes no difference to its run. -/
theorem run_verbose (c : Compilation) (verbose : Bool) (tools : Toolchain σ) (s : σ)
    (fs : FileSystem) :
    ({ c with verbose } : Compilation).run tools s fs = c.run tools s fs := rfl

/-- **A run with other settings of the log is the same but for its filter.** -/
theorem run_of_log {arguments' : List Bytes} {verbose : Bool}
    (accepted : CommandLine.read arguments.tail env = .ok c)
    (accepted' : CommandLine.read arguments'.tail env' = .ok { c with verbose })
    (indifferent : Indifferent spawner c.programs env env') (s : σ) (fs : FileSystem) :
    run spawner arguments' env' s fs =
      { run spawner arguments env s fs with filter := filterFor env' verbose } := by
  rw [run_of_read spawner s fs accepted, run_of_read spawner s fs accepted']
  simp only [run_verbose, indifferent.toolchain]

section settings

open CommandLine (Item Setting EndsWhole endWord read_of_verbose read_of_environment)

variable {before words after : List Bytes}

/-- A command line with or without a word for the log, where only the log filter of the environment
may be another. -/
theorem read_of_log (accepted : CommandLine.read (before ++ after) env = .ok c)
    (quiet : c.verbose = false) (options : endWord ∉ before) (whole : EndsWhole before)
    (added : words = [] ∨ (Item.flag .verbose).Spelled words)
    (elsewhere : ∀ name, name ≠ filterName → env'.get? name = env.get? name) :
    CommandLine.read (before ++ words ++ after) env' =
      .ok { c with verbose := decide (words ≠ []) } := by
  have settings (s : Setting) : env'.get? s.variableName = env.get? s.variableName := by
    refine elsewhere _ ?_
    cases s <;> decide
  rw [read_of_environment settings]
  rcases added with rfl | spelled
  · have same : ({ c with verbose := false } : Compilation) = c := by rw [← quiet]
    rw [List.append_nil, accepted]
    exact congrArg _ same.symm
  · have some_words : words ≠ [] := by cases spelled <;> simp
    rw [read_of_verbose accepted quiet options whole spelled, decide_eq_true some_words]

/-- Without a filter in the environment, the word for the log lets more records pass. -/
theorem passes_filterFor {verbose : Bool} (unset : env.get? filterName = none)
    (unset' : env'.get? filterName = none) (entry : Log.Record)
    (passes : (filterFor env false).passes entry = true) :
    (filterFor env' verbose).passes entry = true := by
  rw [filterFor, unset] at passes
  rw [filterFor, unset']
  simp only [filterFor.usual, Log.Filter.passes_upTo, decide_eq_true_iff] at passes ⊢
  refine Nat.le_trans passes ?_
  cases verbose <;> decide

end settings

end Program

end CompilerDriver
