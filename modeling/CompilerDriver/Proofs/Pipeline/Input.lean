import CompilerDriver.Proofs.Pipeline.Cleanup

/-!
# What becomes of the input

* `AimsAt` — an action is to write or to remove what is at a path.
* `aimsAt_source_iff` — **when a run aims at its own input**: always if the extension is `i`, since
  the preprocessed file is the input then; and if it is `s`, exactly in the runs that remove the
  assembly.
* `Confined` — tools that touch nothing but what they are to make.
* `input_of_run` — with any other extension no action of a run is aimed at the input, and confined
  tools leave it as it was.
-/

namespace CompilerDriver.Pipeline

open Plan FileSystem

variable {σ : Type}

/-- An action is to write or to remove what is at a path, or at another path through the same
components. -/
def AimsAt (path : Path) (action : Action) : Prop :=
  ∃ target, action.target? = some target ∧ target.components = path.components

section aims

variable {source : Source} {cutoff : Stage} {keepAssembly : Bool} {actions : List Action}

/-- The actions of a course are aimed at the preprocessed file first, at the executable if the
assembler is called, and at the assembly if it is removed. -/
theorem Course.target_iff (course : Course source cutoff keepAssembly actions) (path : Path) :
    (∃ a ∈ actions, AimsAt path a) ↔
      source.preprocessed.components = path.components ∨
      ((∃ a ∈ actions, a.Calls .assembler) ∧ source.executable.components = path.components) ∨
      (keepAssembly = false ∧
        .call (.assemble source.assembly source.executable) (.ok .success) ∈ actions ∧
        source.assembly.components = path.components) := by
  cases course with
  | unstarted | unprocessed | compiled =>
    simp [AimsAt, Action.target?, ToolCall.output?, Action.Calls, ToolCall.tool]
  | @assembled cleared reply gone full stays =>
    cases keepAssembly with
    | true => simp [AimsAt, Action.target?, ToolCall.output?, Action.Calls, ToolCall.tool]
    | false =>
      have failed : .ok .success ≠ reply := fun served => stays ⟨served.symm, rfl⟩
      simp [AimsAt, Action.target?, ToolCall.output?, Action.Calls, ToolCall.tool, failed]
  | swept gone full discards removed =>
    simp [AimsAt, Action.target?, ToolCall.output?, Action.Calls, ToolCall.tool, discards]

end aims

/-! ## When a run is aimed at its input -/

/-- **When a run is aimed at its own input**: always if the extension is `i`; if it is `s`, exactly
in the runs that remove the assembly, so in those in which the assembler succeeds and the assembly
is not to be kept; and never otherwise. -/
theorem aimsAt_source_iff {source : Source} {directory : List Bytes} {stem extension : Bytes}
    (named : source.Named directory stem extension) {cutoff : Stage} {keepAssembly : Bool}
    {actions : List Action} (course : Course source cutoff keepAssembly actions) :
    (∃ a ∈ actions, AimsAt source.path a) ↔
      source.extension = Bytes.ofString "i" ∨
      (source.extension = Bytes.ofString "s" ∧ keepAssembly = false ∧
        .call (.assemble source.assembly source.executable) (.ok .success) ∈ actions) := by
  obtain ⟨same_i, same_s, other⟩ := named.components_iff
  rw [course.target_iff, same_i, same_s]
  simp only [other, and_false, false_or]
  constructor
  · rintro (i | ⟨discards, assembled, s⟩)
    · exact .inl i
    · exact .inr ⟨s, discards, assembled⟩
  · rintro (i | ⟨s, discards, assembled⟩)
    · exact .inl i
    · exact .inr ⟨discards, assembled, s⟩

/-! ## What becomes of the input -/

/-- Where a call of a tool is to write. The backend is not told; it writes the assembly. -/
def destination (source : Source) (request : ToolCall) : Path :=
  request.output?.getD source.assembly

/-- If a tool is called at a moment, it touches no entry but the one at the path where it is to
write. A tool that writes through a link found there touches another. -/
def Confined (source : Source) (tools : Toolchain σ) (m : Moment σ) : Prop :=
  ∀ request, m.event.call? = some request →
    ∀ l, ¬ m.files.Names (destination source request) l →
      (m.next tools).2.get? l = m.files.get? l

/-- On a course each call is to write one of the three files that are made from the source. -/
theorem Course.destination_of_call {source : Source} {cutoff : Stage} {keepAssembly : Bool}
    {actions : List Action} (course : Course source cutoff keepAssembly actions) :
    ∀ request ∈ actions.filterMap Action.call?,
      destination source request ∈ [source.preprocessed, source.assembly, source.executable] := by
  cases course <;>
  simp [List.filterMap_cons, Action.call?, destination, ToolCall.output?]

/-- What is not named like one of the three files stays as it is at a moment of a run, if a tool
that is called then is confined. -/
theorem get?_next_of_confined {source : Source} {tools : Toolchain σ} {m : Moment σ}
    (confined : Confined source tools m) {l : Location}
    (other : ∀ path ∈ [source.preprocessed, source.assembly, source.executable],
      l.head? ≠ path.fileName?)
    (aimed : ∀ request, m.event.call? = some request →
      destination source request ∈ [source.preprocessed, source.assembly, source.executable])
    (removed : ∀ path result, m.event = .unlinked path result →
      path = source.preprocessed ∨ path = source.assembly) :
    (m.next tools).2.get? l = m.files.get? l := by
  obtain ⟨event, state, files⟩ := m
  cases event with
  | called request reply pieces =>
    refine confined request rfl l fun names => ?_
    exact other _ (aimed request rfl) names.head
  | unlinked path result =>
    refine get?_removal fun names => ?_
    rcases removed path result rfl with rfl | rfl
    · exact other _ (by simp) names.head
    · exact other _ (by simp) names.head
  | recorded entry => rfl

/-- **The driver and confined tools leave alone all that is not named like one of the three files
they make.** -/
theorem get?_of_confined {source : Source} {tools : Toolchain σ} {cutoff : Stage}
    {keepAssembly : Bool} {s : σ} {fs : FileSystem}
    (confined : ∀ m ∈ moments tools s fs
      (perform tools (execute source cutoff keepAssembly) s fs).events, Confined source tools m)
    {l : Location}
    (other : ∀ path ∈ [source.preprocessed, source.assembly, source.executable],
      l.head? ≠ path.fileName?) :
    (perform tools (execute source cutoff keepAssembly) s fs).files.get? l = fs.get? l := by
  have way := execution_perform tools source cutoff keepAssembly s fs
  have course := course_of_execution way
  have arrived := run_ending tools (execute source cutoff keepAssembly).run s fs
  have kept : (ending tools s fs
      (perform tools (execute source cutoff keepAssembly) s fs).events).2.get? l = fs.get? l := by
    refine ending_invariant (P := fun files => files.get? l = fs.get? l) tools _ s fs rfl ?_
    intro m mem before
    refine (get?_next_of_confined (confined m mem) other ?_ ?_).trans before
    · intro request called
      refine course.destination_of_call request ?_
      rw [← calls_eq]
      exact List.mem_filterMap.2 ⟨m.event, event_mem_of_mem_moments mem, called⟩
    · intro path result event
      exact (way.of_unlinked mem event).2
  rw [perform, arrived] at kept
  exact kept

/-- **What becomes of the input.** No action of a run is aimed at it, exactly if its extension is
not `i`, and is not `s` either in a run that removes the assembly. With any other extension the
entry that the path of the input names is there at the end of a run of confined tools, as it was. -/
theorem input_of_run {fs : FileSystem} {p : Path} {source : Source}
    (accepted : Source.validate fs p = .ok source) (tools : Toolchain σ) (cutoff : Stage)
    (keepAssembly : Bool) (s : σ) :
    let run := perform tools (execute source cutoff keepAssembly) s fs
    ((∀ a ∈ run.actions, ¬ AimsAt source.path a) ↔
      source.extension ≠ Bytes.ofString "i" ∧
        ¬ (source.extension = Bytes.ofString "s" ∧ keepAssembly = false ∧
          .call (.assemble source.assembly source.executable) (.ok .success) ∈ run.actions)) ∧
      ((∀ m ∈ moments tools s fs run.events, Confined source tools m) →
        source.extension ≠ Bytes.ofString "i" → source.extension ≠ Bytes.ofString "s" →
          ∃ l node, fs.locateEntry p = .ok l ∧ fs.get? l = some node ∧ node ≠ .directory ∧
            run.files.get? l = some node) := by
  intro run
  obtain ⟨directory, stem, extension, named, name⟩ := Source.named_of_validate accepted
  have course := course_perform tools source cutoff keepAssembly s fs
  constructor
  · rw [← not_or, ← aimsAt_source_iff named course]
    simp [run]
  · intro confined not_i not_s
    obtain ⟨file, -⟩ := Source.of_validate accepted
    obtain ⟨place, node, located, there, kind⟩ := entry_of_isFile file name
    refine ⟨_, node, located, there, kind, ?_⟩
    rw [← there]
    exact get?_of_confined confined (named.path_fileName?_ne not_i not_s)

/-- An input `foo.c` is there after a full run of tools that do nothing, as it was. -/
theorem input_kept_by_idle_tools :
    let start : FileSystem := { entries := [([Bytes.ofString "foo.c"], .file 0)], cwd := [] }
    let source : Source := ⟨Path.ofString "./foo.c", Path.ofString "./foo"⟩
    let run := perform Toolchain.idle (execute source .full false) () start
    Source.validate start (Path.ofString "foo.c") = .ok source ∧
      (∀ a ∈ run.actions, ¬ AimsAt source.path a) ∧
      ∃ l node, start.locateEntry (Path.ofString "foo.c") = .ok l ∧ start.get? l = some node ∧
        node ≠ .directory ∧ run.files.get? l = some node := by
  intro start source run
  have accepted : Source.validate start (Path.ofString "foo.c") = .ok source := rfl
  have not_i : source.extension ≠ Bytes.ofString "i" := by decide
  have not_s : source.extension ≠ Bytes.ofString "s" := by decide
  obtain ⟨spared, kept⟩ := input_of_run accepted Toolchain.idle .full false ()
  refine ⟨accepted, spared.2 ⟨not_i, fun h => not_s h.1⟩, kept ?_ not_i not_s⟩
  intro m mem request called l other
  obtain ⟨event, state, files⟩ := m
  cases event with
  | called => rfl
  | unlinked | recorded => cases called

/-- An input `foo.s` is accepted, and a full run of tools that do nothing removes it: it is taken
for the assembly that the run has made. -/
theorem input_removed_as_assembly :
    let start : FileSystem := { entries := [([Bytes.ofString "foo.s"], .file 0)], cwd := [] }
    let source : Source := ⟨Path.ofString "./foo.s", Path.ofString "./foo"⟩
    let run := perform Toolchain.idle (execute source .full false) () start
    Source.validate start (Path.ofString "foo.s") = .ok source ∧
      (∃ result, .remove source.path result ∈ run.actions) ∧
      (start.get? [Bytes.ofString "foo.s"]).isSome ∧
      (run.files.get? [Bytes.ofString "foo.s"]).isNone := by
  intro start source run
  refine ⟨rfl, ⟨.ok (), ?_⟩, ?_, ?_⟩
  · exact List.mem_of_getLast? rfl
  · decide +kernel
  · decide +kernel

end CompilerDriver.Pipeline
