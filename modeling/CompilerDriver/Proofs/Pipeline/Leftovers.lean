import CompilerDriver.Proofs.Pipeline.Failures
import CompilerDriver.Proofs.Pipeline.Input
import CompilerDriver.Proofs.Plan.Footprint
import CompilerDriver.Proofs.Source.Place

/-!
# Leftovers of earlier runs

* `Repeatable` — what is asked of the tools of two runs: a call writes nothing but its output, and
  two calls that find the same input are answered alike, with the same output if they succeed.
* `Twins` — two states of the files that agree outside what a run makes, and at some of what it
  makes as well. `Twins.call` and `Twins.removal` say what a call and a removal make of them.
* `SameBuild` — what two runs have in common that differ at most in what was left behind.
* `sameBuild_of_run` — **leftovers do not influence a build**: two runs from states that agree
  outside what the run makes take the same way to the same result.
-/

namespace CompilerDriver.Pipeline

open Plan FileSystem

variable {σ γ : Type}

/-! ## What is asked of the tools -/

/-- Two entries are files with the same contents, and their modes look the same. -/
def SameFile (look : Mode → γ) (a b : Option Node) : Prop :=
  ∃ contents mode mode', a = some (.file contents mode) ∧ b = some (.file contents mode') ∧
    look mode = look mode'

/-- Whether a tool that succeeds is to have written its output: a backend that is to stop is not. -/
def makes : ToolCall → Bool
  | .compile _ selection => !selection.stop
  | .preprocess .. | .assemble .. => true

/-- After a call there is a file at its output, with these contents and a mode of this look. -/
def Overwritten (look : Mode → γ) (path : Path) (contents : Bytes) (appearance : γ)
    (before after : FileSystem) : Prop :=
  ∀ l, before.Names path l →
    ∃ mode, after.get? l = some (.file contents mode) ∧ look mode = appearance

/-- A call is answered alike in two states of the files, and has the same output in both if it
succeeds. -/
structure AnsweredAlike (look : Mode → γ) (source : Source) (tools : Toolchain σ)
    (request : ToolCall) (s : σ) (fs fs' : FileSystem) : Prop where
  reply : (tools.answer request s fs').reply = (tools.answer request s fs).reply
  state : (tools.answer request s fs').state = (tools.answer request s fs).state
  output : makes request = true → (tools.answer request s fs).reply = .ok .success →
    ∃ contents appearance,
      Overwritten look (destination source request) contents appearance fs
          (tools.answer request s fs).files ∧
        Overwritten look (destination source request) contents appearance fs'
          (tools.answer request s fs').files

/-- What is asked of the tools at the moments of two runs: each call keeps to its output, and two
calls that find the same contents in their input are answered alike. -/
structure Repeatable (look : Mode → γ) (source : Source) (tools : Toolchain σ)
    (past past' : List (Moment σ)) : Prop where
  keeps : ∀ m ∈ past ++ past', ∀ request, m.event.call? = some request →
    WritesOnly (m.files.Names (destination source request)) tools request m.state m.files
  alike : ∀ m ∈ past, ∀ m' ∈ past', ∀ request, m.event.call? = some request →
    m'.event.call? = some request → m'.state = m.state →
      m'.files.read request.input = m.files.read request.input →
        AnsweredAlike look source tools request m.state m.files m'.files

/-! ## What a run makes -/

/-- A location is named by the path of something that is made from a source. -/
def Made (fs : FileSystem) (source : Source) (l : Location) : Prop :=
  ∃ path ∈ source.made, fs.Names path l

section made

variable {fs f f' : FileSystem} {source : Source} {tools : Toolchain σ} {s : σ}
  {request : ToolCall} {path : Path} {p : Path}

/-- What is named by the path of something that is made is a place of what the run makes. -/
theorem made_of_names (alike : AlikeOutside (Made fs source) fs f) (mem : path ∈ source.made) :
    ∀ l, f.Names path l → Made fs source l :=
  fun _ names => ⟨path, mem, alike.names_iff.1 names⟩

/-- Nothing stands where a path leads. -/
def Lacks (fs : FileSystem) (path : Path) (f : FileSystem) : Prop :=
  ∀ l, fs.Names path l → f.get? l = none

/-- Two removals have come to the same for the driver. -/
structure SameRemoval (result result' : Except Cause Unit) : Prop where
  gone : Gone result → Gone result'
  refused : ∀ {cause}, result = .error cause → cause ≠ .os .notFound → result' = .error cause

theorem SameRemoval.discarded {result result' : Except Cause Unit}
    (same : SameRemoval result result') (path : Path) :
    discarded path result' = Pipeline.discarded path result := by
  by_cases gone : Gone result
  · rw [discarded_of_gone path gone, discarded_of_gone path (same.gone gone)]
  · obtain ⟨cause, other, failed, -⟩ := discarded_of_not_gone path gone
    rw [failed, same.refused failed other]

/-- A removal of what a run makes leaves nothing there, and comes to the same in states that agree
outside what the run makes. -/
theorem removal_of_made (accepted : Source.validate fs p = .ok source)
    (alike : AlikeOutside (Made fs source) fs f) (alike' : AlikeOutside (Made fs source) fs f')
    (mem : path ∈ source.made) :
    Lacks fs path (removal f path).2 ∧ Lacks fs path (removal f' path).2 ∧
      SameRemoval (removal f path).1 (removal f' path).1 := by
  obtain ⟨d, located⟩ := Source.located_of_validate accepted
  rcases located path (List.mem_cons_of_mem _ mem) with ⟨cause, refused⟩ | ⟨name, located⟩
  · have lacks (f : FileSystem) : Lacks fs path f := by
      rintro l ⟨directory, name, slashAfter, located, rfl⟩
      have taken := (locate_eq_ok_iff.1 located).1
      rw [refused] at taken
      cases taken
    rw [removal_of_refused refused, removal_of_refused refused]
    exact ⟨lacks f, lacks f', id, fun failed _ => failed⟩
  · have only {l : Location} := names_iff_of_locate located (l := l)
    have removed {f : FileSystem} (alike : AlikeOutside (Made fs source) fs f) :
        Gone (removal f path).1 ∧ Lacks fs path (removal f path).2 := by
      have leaf := alike.leaf' (name :: d) ⟨path, mem, only.2 rfl⟩
      rw [removal_of_locate (alike.locate located) leaf]
      by_cases empty : f.get? (name :: d) = none
      · rw [if_pos empty]
        refine ⟨.inr rfl, fun l names => ?_⟩
        rw [only.1 names]
        exact empty
      · rw [if_neg empty]
        refine ⟨.inl rfl, fun l names => ?_⟩
        rw [only.1 names, get?_erase f leaf.ne_nil, if_pos rfl]
    obtain ⟨gone, lacks⟩ := removed alike
    obtain ⟨gone', lacks'⟩ := removed alike'
    refine ⟨lacks, lacks', fun _ => gone', fun failed other => ?_⟩
    rw [failed] at gone
    exact absurd (gone_error.1 gone) other

end made

/-! ## Two runs side by side -/

/-- The states of the files in two runs: they agree outside what the runs make, and of that they
have these files in common. -/
structure Twins (look : Mode → γ) (fs : FileSystem) (source : Source) (common : List Path)
    (f f' : FileSystem) : Prop where
  alike : AlikeOutside (Made fs source) fs f
  alike' : AlikeOutside (Made fs source) fs f'
  same : ∀ path ∈ common, ∀ l, fs.Names path l → SameFile look (f.get? l) (f'.get? l)

/-- What is asked of a tool that is called in both runs. -/
structure Paired (look : Mode → γ) (source : Source) (tools : Toolchain σ) (request : ToolCall)
    (s : σ) (f f' : FileSystem) : Prop where
  keeps : WritesOnly (f.Names (destination source request)) tools request s f
  keeps' : WritesOnly (f'.Names (destination source request)) tools request s f'
  alike : f'.read request.input = f.read request.input →
    AnsweredAlike look source tools request s f f'

section twins

variable {look : Mode → γ} {fs f f' : FileSystem} {source : Source} {common : List Path}
  {tools : Toolchain σ} {request : ToolCall} {s : σ} {path : Path} {p : Path}

/-- A common file reads the same in both runs. -/
theorem Twins.read (twins : Twins look fs source common f f')
    (accepted : Source.validate fs p = .ok source) (made : path ∈ source.made)
    (mem : path ∈ common) : f'.read path = f.read path := by
  obtain ⟨d, located⟩ := Source.located_of_validate accepted
  rcases located path (List.mem_cons_of_mem _ made) with ⟨cause, refused⟩ | ⟨name, located⟩
  · rw [read_of_refused refused, read_of_refused refused]
  · obtain ⟨contents, mode, mode', file, file', -⟩ :=
      twins.same path mem (name :: d) ⟨d, name, false, located, rfl⟩
    rw [read_of_locate (twins.alike.locate located) file,
      read_of_locate (twins.alike'.locate located) file']

/-- **A call that finds the same input in both runs** is answered alike. The runs keep in common what
is not its output, and its output if it is made. -/
theorem Twins.call (twins : Twins look fs source common f f')
    (paired : Paired look source tools request s f f')
    (mem : destination source request ∈ source.made)
    (same_input : f'.read request.input = f.read request.input) (less : List Path)
    (others : ∀ path ∈ less,
      path ∈ common ∧ path.fileName? ≠ (destination source request).fileName?) :
    (tools.answer request s f').reply = (tools.answer request s f).reply ∧
      (tools.answer request s f').state = (tools.answer request s f).state ∧
      Twins look fs source less (tools.answer request s f).files
        (tools.answer request s f').files ∧
      (makes request = true → (tools.answer request s f).reply = .ok .success →
        Twins look fs source (destination source request :: less)
          (tools.answer request s f).files (tools.answer request s f').files) := by
  have answered := paired.alike same_input
  have alike := paired.keeps.alike twins.alike (made_of_names twins.alike mem)
  have alike' := paired.keeps'.alike twins.alike' (made_of_names twins.alike' mem)
  have kept : ∀ path ∈ less, ∀ l, fs.Names path l →
      SameFile look ((tools.answer request s f).files.get? l)
        ((tools.answer request s f').files.get? l) := by
    intro path mem l names
    obtain ⟨before, other⟩ := others path mem
    have off : ¬ fs.Names (destination source request) l :=
      not_names_of_fileName?_ne names other.symm
    rw [paired.keeps.elsewhere l (mt twins.alike.names_iff.1 off),
      paired.keeps'.elsewhere l (mt twins.alike'.names_iff.1 off)]
    exact twins.same path before l names
  refine ⟨answered.reply, answered.state, ⟨alike, alike', kept⟩, fun made succeeded => ?_⟩
  obtain ⟨contents, appearance, output, output'⟩ := answered.output made succeeded
  refine ⟨alike, alike', fun path mem l names => ?_⟩
  rcases List.mem_cons.1 mem with rfl | mem
  · obtain ⟨mode, file, looks⟩ := output l (twins.alike.names_iff.2 names)
    obtain ⟨mode', file', looks'⟩ := output' l (twins.alike'.names_iff.2 names)
    exact ⟨contents, mode, mode', file, file', looks.trans looks'.symm⟩
  · exact kept path mem l names

/-- A removal in both runs leaves in common all but what is removed. -/
theorem Twins.removal (twins : Twins look fs source common f f') (mem : path ∈ source.made)
    (less : List Path)
    (others : ∀ other ∈ less, other ∈ common ∧ other.fileName? ≠ path.fileName?) :
    Twins look fs source less (removal f path).2 (removal f' path).2 := by
  have named : ∀ l, fs.Names path l → Made fs source l := fun _ names => ⟨path, mem, names⟩
  refine ⟨alike_removal twins.alike named, alike_removal twins.alike' named, ?_⟩
  intro other mem l names
  obtain ⟨before, apart⟩ := others other mem
  have off : ¬ fs.Names path l := not_names_of_fileName?_ne names apart.symm
  rw [get?_removal (mt twins.alike.names_iff.1 off), get?_removal (mt twins.alike'.names_iff.1 off)]
  exact twins.same other before l names

/-- What is not there is not there after a call with another output. -/
theorem Lacks.call (lacks : Lacks fs path f)
    (keeps : WritesOnly (f.Names (destination source request)) tools request s f)
    (alike : AlikeOutside (Made fs source) fs f)
    (other : path.fileName? ≠ (destination source request).fileName?) :
    Lacks fs path (tools.answer request s f).files := by
  intro l names
  have off : ¬ fs.Names (destination source request) l :=
    not_names_of_fileName?_ne names other.symm
  rw [keeps.elsewhere l (mt alike.names_iff.1 off)]
  exact lacks l names

/-- What is not there is not there after something else has been removed. -/
theorem Lacks.removal {other : Path} (lacks : Lacks fs path f)
    (alike : AlikeOutside (Made fs source) fs f) (apart : path.fileName? ≠ other.fileName?) :
    Lacks fs path (removal f other).2 := by
  intro l names
  have off : ¬ fs.Names other l := not_names_of_fileName?_ne names apart.symm
  rw [get?_removal (mt alike.names_iff.1 off)]
  exact lacks l names

end twins

/-! ## The moments of the calls -/

section moments

variable {tools : Toolchain σ} {source : Source} {cutoff : Stage} {keepAssembly : Bool} {s : σ}
  {fs : FileSystem} {run : Run σ (Except Failure Outcome)}

/-- What a run has done by the answer of each tool that it calls. -/
theorem Execution.events_eq (way : Execution tools source cutoff s fs keepAssembly run) :
    (∃ rest, run.events = preprocessEvents tools source s fs ++ rest) ∧
      ((preprocessing tools source s fs).reply = .ok .success →
        ∃ rest, run.events = backendEvents tools source cutoff s fs ++ rest) ∧
      ((preprocessing tools source s fs).reply = .ok .success →
        (compiling tools source cutoff s fs).reply = .ok .success →
        Gone (clearing tools source cutoff s fs).1 → cutoff = .full →
          ∃ rest, run.events = assemblerEvents tools source cutoff s fs ++ rest) := by
  cases way <;> simp_all [assemblerEvents, backendEvents]

/-- The moment at which the preprocessor is called. -/
theorem Execution.preprocessing_mem (way : Execution tools source cutoff s fs keepAssembly run) :
    ⟨answered (.preprocess source.path source.preprocessed) (preprocessing tools source s fs), s,
      fs⟩ ∈ moments tools s fs run.events := by
  obtain ⟨⟨rest, events⟩, -⟩ := way.events_eq
  rw [events]
  exact List.mem_cons_self

/-- The moment at which the backend is called. -/
theorem Execution.compiling_mem (way : Execution tools source cutoff s fs keepAssembly run)
    (preprocessed : (preprocessing tools source s fs).reply = .ok .success) :
    ⟨answered (.compile source.preprocessed cutoff.selection) (compiling tools source cutoff s fs),
      (preprocessing tools source s fs).state, (preprocessing tools source s fs).files⟩ ∈
        moments tools s fs run.events := by
  obtain ⟨-, backend, -⟩ := way.events_eq
  obtain ⟨rest, events⟩ := backend preprocessed
  rw [events, backendEvents, List.append_assoc, List.append_assoc, moments_append,
    ending_preprocessEvents]
  exact List.mem_append_right _ (.tail _ (.tail _ (.head _)))

/-- The moment at which the assembler is called. -/
theorem Execution.assembling_mem (way : Execution tools source cutoff s fs keepAssembly run)
    (preprocessed : (preprocessing tools source s fs).reply = .ok .success)
    (compiled : (compiling tools source cutoff s fs).reply = .ok .success)
    (cleared : Gone (clearing tools source cutoff s fs).1) (full : cutoff = .full) :
    assemblerMoment tools source cutoff s fs ∈ moments tools s fs run.events := by
  obtain ⟨-, -, assembler⟩ := way.events_eq
  obtain ⟨rest, events⟩ := assembler preprocessed compiled cleared full
  rw [events, assemblerEvents, List.append_assoc, moments_append, ending_backendEvents]
  exact List.mem_append_right _ (.tail _ (.head _))

end moments

/-! ## Two runs, stage by stage -/

/-- Two runs from states that agree outside what the runs make. -/
structure SideBySide (look : Mode → γ) (tools : Toolchain σ) (source : Source) (cutoff : Stage)
    (keepAssembly : Bool) (s : σ) (fs fs' : FileSystem)
    (run run' : Run σ (Except Failure Outcome)) : Prop where
  accepted : ∃ p, Source.validate fs p = .ok source
  alike : AlikeOutside (Made fs source) fs fs'
  apart : ∀ l, fs.resolve source.path = .ok l → ¬ Made fs source l
  way : Execution tools source cutoff s fs keepAssembly run
  way' : Execution tools source cutoff s fs' keepAssembly run'
  repeatable : Repeatable look source tools (moments tools s fs run.events)
    (moments tools s fs' run'.events)

namespace SideBySide

variable {look : Mode → γ} {tools : Toolchain σ} {source : Source} {cutoff : Stage}
  {keepAssembly : Bool} {s : σ} {fs fs' : FileSystem}
  {run run' : Run σ (Except Failure Outcome)}
  (beside : SideBySide look tools source cutoff keepAssembly s fs fs' run run')

include beside

/-- What is asked of the tools, for a call that is made in both runs. -/
theorem paired {request : ToolCall} {state state' : σ} {f f' : FileSystem}
    {answer answer' : Answer σ} (same_state : state' = state)
    (mem : ⟨answered request answer, state, f⟩ ∈ moments tools s fs run.events)
    (mem' : ⟨answered request answer', state', f'⟩ ∈ moments tools s fs' run'.events) :
    Paired look source tools request state f f' := by
  subst same_state
  exact
    { keeps := beside.repeatable.keeps _ (List.mem_append_left _ mem) request rfl
      keeps' := beside.repeatable.keeps _ (List.mem_append_right _ mem') request rfl
      alike := beside.repeatable.alike _ mem _ mem' request rfl rfl rfl }

/-- The source reads the same in both runs. -/
theorem read_source : fs'.read source.path = fs.read source.path := by
  obtain ⟨p, accepted⟩ := beside.accepted
  rcases Source.resolved_of_validate accepted with ⟨cause, refused⟩ | ⟨l, resolved⟩
  · rw [read_of_refused refused, read_of_refused refused]
  · exact beside.alike.read resolved (beside.apart l resolved)

/-- Three different files are made. -/
theorem fileNames_ne :
    source.preprocessed.fileName? ≠ source.assembly.fileName? ∧
      source.preprocessed.fileName? ≠ source.executable.fileName? ∧
      source.assembly.fileName? ≠ source.executable.fileName? := by
  obtain ⟨p, accepted⟩ := beside.accepted
  obtain ⟨before, stem, extension, named, -⟩ := Source.named_of_validate accepted
  exact named.fileNames_ne

theorem twins_start : Twins look fs source [] fs fs' :=
  ⟨.refl beside.alike.leaf, beside.alike, by simp⟩

/-- After the preprocessor. -/
theorem after_preprocessing :
    (preprocessing tools source s fs').reply = (preprocessing tools source s fs).reply ∧
      (preprocessing tools source s fs').state = (preprocessing tools source s fs).state ∧
      Twins look fs source [] (preprocessing tools source s fs).files
        (preprocessing tools source s fs').files ∧
      ((preprocessing tools source s fs).reply = .ok .success →
        Twins look fs source [source.preprocessed] (preprocessing tools source s fs).files
          (preprocessing tools source s fs').files) := by
  have paired := beside.paired rfl beside.way.preprocessing_mem beside.way'.preprocessing_mem
  have made : source.preprocessed ∈ source.made := by simp [Source.made]
  obtain ⟨reply, state, twins, output⟩ :=
    beside.twins_start.call paired made beside.read_source [] (by simp)
  exact ⟨reply, state, twins, output rfl⟩

section compiled

variable (preprocessed : (preprocessing tools source s fs).reply = .ok .success)

include preprocessed

/-- After the backend. -/
theorem after_compiling :
    (compiling tools source cutoff s fs').reply = (compiling tools source cutoff s fs).reply ∧
      (compiling tools source cutoff s fs').state = (compiling tools source cutoff s fs).state ∧
      Twins look fs source [] (compiling tools source cutoff s fs).files
        (compiling tools source cutoff s fs').files ∧
      (cutoff = .full → (compiling tools source cutoff s fs).reply = .ok .success →
        Twins look fs source [source.assembly] (compiling tools source cutoff s fs).files
          (compiling tools source cutoff s fs').files) := by
  obtain ⟨p, accepted⟩ := beside.accepted
  obtain ⟨reply, state, -, output⟩ := beside.after_preprocessing
  have paired := beside.paired state (beside.way.compiling_mem preprocessed)
    (beside.way'.compiling_mem (reply.trans preprocessed))
  have twins := output preprocessed
  have same_input := twins.read accepted (by simp [Source.made]) List.mem_cons_self
  have made : source.assembly ∈ source.made := by simp [Source.made]
  obtain ⟨reply', state', twins', output'⟩ :=
    twins.call paired made same_input [] (by simp)
  rw [compiling, compiling, state]
  refine ⟨reply', state', twins', ?_⟩
  rintro rfl
  exact output' rfl

/-- After the removal of the preprocessed file. -/
theorem after_clearing :
    Lacks fs source.preprocessed (clearing tools source cutoff s fs).2 ∧
      Lacks fs source.preprocessed (clearing tools source cutoff s fs').2 ∧
      SameRemoval (clearing tools source cutoff s fs).1 (clearing tools source cutoff s fs').1 ∧
      Twins look fs source [] (clearing tools source cutoff s fs).2
        (clearing tools source cutoff s fs').2 ∧
      (cutoff = .full → (compiling tools source cutoff s fs).reply = .ok .success →
        Twins look fs source [source.assembly] (clearing tools source cutoff s fs).2
          (clearing tools source cutoff s fs').2) := by
  obtain ⟨p, accepted⟩ := beside.accepted
  obtain ⟨-, -, twins, output⟩ := beside.after_compiling preprocessed
  have made : source.preprocessed ∈ source.made := by simp [Source.made]
  obtain ⟨lacks, lacks', same⟩ := removal_of_made accepted twins.alike twins.alike' made
  refine ⟨lacks, lacks', same, twins.removal made [] (by simp), fun full succeeded => ?_⟩
  refine (output full succeeded).removal made [source.assembly] fun other mem => ?_
  rw [List.mem_singleton.1 mem]
  exact ⟨List.mem_cons_self, beside.fileNames_ne.1.symm⟩

section assembled

variable (compiled : (compiling tools source cutoff s fs).reply = .ok .success)
  (cleared : Gone (clearing tools source cutoff s fs).1) (full : cutoff = .full)

include compiled cleared full

/-- After the assembler. -/
theorem after_assembling :
    (assembling tools source cutoff s fs').reply = (assembling tools source cutoff s fs).reply ∧
      Lacks fs source.preprocessed (assembling tools source cutoff s fs).files ∧
      Lacks fs source.preprocessed (assembling tools source cutoff s fs').files ∧
      Twins look fs source [source.assembly] (assembling tools source cutoff s fs).files
        (assembling tools source cutoff s fs').files ∧
      ((assembling tools source cutoff s fs).reply = .ok .success →
        Twins look fs source [source.executable, source.assembly]
          (assembling tools source cutoff s fs).files
          (assembling tools source cutoff s fs').files) := by
  obtain ⟨p, accepted⟩ := beside.accepted
  obtain ⟨reply, -, -, -⟩ := beside.after_preprocessing
  obtain ⟨reply', state', -, -⟩ := beside.after_compiling preprocessed
  obtain ⟨lacks, lacks', same, -, output⟩ := beside.after_clearing preprocessed
  obtain ⟨i_ne_s, i_ne_name, s_ne_name⟩ := beside.fileNames_ne
  have paired := beside.paired state'
    (beside.way.assembling_mem preprocessed compiled cleared full)
    (beside.way'.assembling_mem (reply.trans preprocessed) (reply'.trans compiled)
      (same.gone cleared) full)
  have twins := output full compiled
  have same_input := twins.read accepted (by simp [Source.made]) List.mem_cons_self
  have made : source.executable ∈ source.made := by simp [Source.made]
  obtain ⟨reply'', -, twins', output'⟩ :=
    twins.call paired made same_input [source.assembly] fun path mem => by
      rw [List.mem_singleton.1 mem]
      exact ⟨List.mem_cons_self, s_ne_name⟩
  have lacks := lacks.call paired.keeps twins.alike i_ne_name
  have lacks' := lacks'.call paired.keeps' twins.alike' i_ne_name
  rw [assembling, assembling, state']
  exact ⟨reply'', lacks, lacks', twins', output' rfl⟩

/-- After the removal of the assembly. -/
theorem after_sweeping (assembled : (assembling tools source cutoff s fs).reply = .ok .success) :
    Lacks fs source.preprocessed (sweeping tools source cutoff s fs).2 ∧
      Lacks fs source.preprocessed (sweeping tools source cutoff s fs').2 ∧
      Lacks fs source.assembly (sweeping tools source cutoff s fs).2 ∧
      Lacks fs source.assembly (sweeping tools source cutoff s fs').2 ∧
      SameRemoval (sweeping tools source cutoff s fs).1 (sweeping tools source cutoff s fs').1 ∧
      Twins look fs source [source.executable] (sweeping tools source cutoff s fs).2
        (sweeping tools source cutoff s fs').2 := by
  obtain ⟨p, accepted⟩ := beside.accepted
  obtain ⟨-, lacks, lacks', -, output⟩ := beside.after_assembling preprocessed compiled cleared full
  obtain ⟨i_ne_s, i_ne_name, s_ne_name⟩ := beside.fileNames_ne
  have twins := output assembled
  have made : source.assembly ∈ source.made := by simp [Source.made]
  obtain ⟨swept, swept', same⟩ := removal_of_made accepted twins.alike twins.alike' made
  refine ⟨lacks.removal twins.alike i_ne_s, lacks'.removal twins.alike' i_ne_s, swept, swept',
    same, twins.removal made [source.executable] fun other mem => ?_⟩
  rw [List.mem_singleton.1 mem]
  exact ⟨List.mem_cons_self, s_ne_name.symm⟩

end assembled

end compiled

end SideBySide

/-! ## The same build -/

/-- Two entries are the same file, or both are missing. -/
def SameEntry (look : Mode → γ) (a b : Option Node) : Prop :=
  SameFile look a b ∨ (a = none ∧ b = none)

/-- The call that an action is, with its reply, if it is one. -/
def answer? : Action → Option (ToolCall × Except Failure Status)
  | .call request reply => some (request, reply)
  | .remove .. => none

/-- What two runs have in common that differ at most in what was left behind. -/
structure SameBuild (look : Mode → γ) (fs : FileSystem) (source : Source)
    (run run' : Run σ (Except Failure Outcome)) : Prop where
  calls : run'.calls = run.calls
  replies : run'.actions.filterMap answer? = run.actions.filterMap answer?
  result : run'.result = run.result
  /-- There is no preprocessed file if the preprocessor has returned a status. -/
  preprocessed : ∀ status,
    .call (.preprocess source.path source.preprocessed) (.ok status) ∈ run.actions →
      Lacks fs source.preprocessed run.files ∧ Lacks fs source.preprocessed run'.files
  /-- The assembly is the same if the assembler was called. -/
  assembly : (∃ action ∈ run.actions, action.Calls .assembler) →
    ∀ l, fs.Names source.assembly l → SameEntry look (run.files.get? l) (run'.files.get? l)
  /-- The executable is the same if the assembler has succeeded. -/
  executable :
    .call (.assemble source.assembly source.executable) (.ok .success) ∈ run.actions →
      ∀ l, fs.Names source.executable l → SameEntry look (run.files.get? l) (run'.files.get? l)
  /-- Everything else is the same. -/
  elsewhere : ∀ l, ¬ Made fs source l → run'.files.get? l = run.files.get? l

section same

variable {look : Mode → γ} {tools : Toolchain σ} {source : Source} {cutoff : Stage}
  {keepAssembly : Bool} {s : σ} {fs fs' f f' : FileSystem} {common : List Path}
  {run run' : Run σ (Except Failure Outcome)}

/-- Runs with the same replies make the same calls. -/
theorem calls_of_replies
    (replies : run'.actions.filterMap answer? = run.actions.filterMap answer?) :
    run'.calls = run.calls := by
  have calls (run : Run σ (Except Failure Outcome)) :
      run.calls = (run.actions.filterMap answer?).map Prod.fst := by
    rw [calls_eq, List.map_filterMap]
    congr 1
    funext action
    cases action <;> rfl
  rw [calls, calls, replies]

theorem Twins.elsewhere (twins : Twins look fs source common f f') (l : Location)
    (off : ¬ Made fs source l) : f'.get? l = f.get? l := by
  rw [twins.alike.same l off, twins.alike'.same l off]

namespace SideBySide

variable (beside : SideBySide look tools source cutoff keepAssembly s fs fs' run run')
  (replies : run'.actions.filterMap answer? = run.actions.filterMap answer?)
  (result : run'.result = run.result)

include beside replies result

/-- Two runs that end with the removal of the preprocessed file. -/
theorem sameBuild_of_clearing
    (preprocessed : (preprocessing tools source s fs).reply = .ok .success)
    (files : run.files = (clearing tools source cutoff s fs).2)
    (files' : run'.files = (clearing tools source cutoff s fs').2)
    (quiet : ∀ action ∈ run.actions, ¬ action.Calls .assembler) :
    SameBuild look fs source run run' := by
  obtain ⟨lacks, lacks', -, twins, -⟩ := beside.after_clearing preprocessed
  rw [← files] at lacks
  rw [← files'] at lacks'
  rw [← files, ← files'] at twins
  refine ⟨calls_of_replies replies, replies, result, fun _ _ => ⟨lacks, lacks'⟩, ?_, ?_,
    twins.elsewhere⟩
  · rintro ⟨action, mem, called⟩
    exact absurd called (quiet action mem)
  · intro mem
    exact absurd rfl (quiet _ mem)

/-- Two runs that end with the answer of the assembler. -/
theorem sameBuild_of_assembling
    (preprocessed : (preprocessing tools source s fs).reply = .ok .success)
    (compiled : (compiling tools source cutoff s fs).reply = .ok .success)
    (cleared : Gone (clearing tools source cutoff s fs).1) (full : cutoff = .full)
    (files : run.files = (assembling tools source cutoff s fs).files)
    (files' : run'.files = (assembling tools source cutoff s fs').files)
    (genuine : .call (.assemble source.assembly source.executable) (.ok .success) ∈ run.actions →
      (assembling tools source cutoff s fs).reply = .ok .success) :
    SameBuild look fs source run run' := by
  obtain ⟨-, lacks, lacks', twins, output⟩ :=
    beside.after_assembling preprocessed compiled cleared full
  rw [← files] at lacks
  rw [← files'] at lacks'
  rw [← files, ← files'] at twins output
  refine ⟨calls_of_replies replies, replies, result, fun _ _ => ⟨lacks, lacks'⟩,
    fun _ l names => ?_, fun mem l names => ?_, twins.elsewhere⟩
  · exact .inl (twins.same source.assembly (by simp) l names)
  · exact .inl ((output (genuine mem)).same source.executable (by simp) l names)

/-- Two runs that end with the removal of the assembly. -/
theorem sameBuild_of_sweeping
    (preprocessed : (preprocessing tools source s fs).reply = .ok .success)
    (compiled : (compiling tools source cutoff s fs).reply = .ok .success)
    (cleared : Gone (clearing tools source cutoff s fs).1) (full : cutoff = .full)
    (assembled : (assembling tools source cutoff s fs).reply = .ok .success)
    (files : run.files = (sweeping tools source cutoff s fs).2)
    (files' : run'.files = (sweeping tools source cutoff s fs').2) :
    SameBuild look fs source run run' := by
  obtain ⟨lacks, lacks', swept, swept', -, twins⟩ :=
    beside.after_sweeping preprocessed compiled cleared full assembled
  rw [← files] at lacks swept
  rw [← files'] at lacks' swept'
  rw [← files, ← files'] at twins
  refine ⟨calls_of_replies replies, replies, result, fun _ _ => ⟨lacks, lacks'⟩,
    fun _ l names => ?_, fun _ l names => ?_, twins.elsewhere⟩
  · exact .inr ⟨swept l names, swept' l names⟩
  · exact .inl (twins.same source.executable (by simp) l names)

end SideBySide

/-- **Two runs side by side take the same way.** -/
theorem SideBySide.sameBuild
    (beside : SideBySide look tools source cutoff keepAssembly s fs fs' run run') :
    SameBuild look fs source run run' := by
  have unique {second : Run σ (Except Failure Outcome)}
      (way : Execution tools source cutoff s fs' keepAssembly second) : run' = second :=
    beside.way'.unique way
  obtain ⟨p, accepted⟩ := beside.accepted
  obtain ⟨reply_i, -, twins_i, -⟩ := beside.after_preprocessing
  cases beside.way with
  | preprocessorUnstarted reply =>
    obtain rfl := unique (.preprocessorUnstarted (reply_i.trans reply))
    refine ⟨calls_of_replies ?_, ?_, rfl, ?_, ?_, ?_, twins_i.elsewhere⟩ <;>
    simp [Run.actions, answer?, reply_i, reply, Action.Calls, ToolCall.tool]
  | preprocessorFailed reply failed removed =>
    subst removed
    have made : source.preprocessed ∈ source.made := by simp [Source.made]
    have twins := twins_i.removal made [] (by simp)
    obtain ⟨lacks, lacks', same⟩ := removal_of_made accepted twins_i.alike twins_i.alike' made
    obtain rfl := unique (.preprocessorFailed (reply_i.trans reply) failed rfl)
    refine ⟨calls_of_replies ?_, ?_, ?_, fun _ _ => ⟨lacks, lacks'⟩, ?_, ?_, twins.elsewhere⟩
    · simp [Run.actions, List.filterMap_cons, answer?, reply_i]
    · simp [Run.actions, List.filterMap_cons, answer?, reply_i]
    · simp only [same.discarded]
    · simp [Run.actions, List.filterMap_cons, reply, Action.Calls, ToolCall.tool]
    · simp [Run.actions, List.filterMap_cons, reply]
  | backendUnstarted preprocessed reply =>
    obtain ⟨reply_s, -⟩ := beside.after_compiling preprocessed
    obtain rfl := unique (.backendUnstarted (reply_i.trans preprocessed) (reply_s.trans reply))
    refine beside.sameBuild_of_clearing ?_ rfl preprocessed rfl rfl ?_
    · simp [Run.actions, List.filterMap_cons, answer?, reply_i, reply_s]
    · simp [Run.actions, Action.Calls, ToolCall.tool]
  | notCleared preprocessed reply refused other =>
    obtain ⟨reply_s, -⟩ := beside.after_compiling preprocessed
    obtain ⟨-, -, same_i, -⟩ := beside.after_clearing preprocessed
    obtain rfl := unique (.notCleared (reply_i.trans preprocessed) (reply_s.trans reply)
      (same_i.refused refused other) other)
    refine beside.sameBuild_of_clearing ?_ rfl preprocessed rfl rfl ?_
    · simp [Run.actions, List.filterMap_cons, answer?, reply_i, reply_s]
    · simp [Run.actions, Action.Calls, ToolCall.tool]
  | stopped preprocessed reply cleared stops =>
    obtain ⟨reply_s, -⟩ := beside.after_compiling preprocessed
    obtain ⟨-, -, same_i, -⟩ := beside.after_clearing preprocessed
    obtain rfl := unique (.stopped (reply_i.trans preprocessed) (reply_s.trans reply)
      (same_i.gone cleared) stops)
    refine beside.sameBuild_of_clearing ?_ rfl preprocessed rfl rfl ?_
    · simp [Run.actions, List.filterMap_cons, answer?, reply_i, reply_s]
    · simp [Run.actions, List.filterMap_cons, Action.Calls, ToolCall.tool]
  | backendFailed preprocessed reply cleared full failed =>
    obtain ⟨reply_s, -⟩ := beside.after_compiling preprocessed
    obtain ⟨-, -, same_i, -⟩ := beside.after_clearing preprocessed
    obtain rfl := unique (.backendFailed (reply_i.trans preprocessed) (reply_s.trans reply)
      (same_i.gone cleared) full failed)
    refine beside.sameBuild_of_clearing ?_ rfl preprocessed rfl rfl ?_
    · simp [Run.actions, List.filterMap_cons, answer?, reply_i, reply_s]
    · simp [Run.actions, List.filterMap_cons, Action.Calls, ToolCall.tool]
  | assemblerUnstarted preprocessed compiled cleared full reply =>
    obtain ⟨reply_s, -⟩ := beside.after_compiling preprocessed
    obtain ⟨-, -, same_i, -⟩ := beside.after_clearing preprocessed
    obtain ⟨reply_name, -⟩ := beside.after_assembling preprocessed compiled cleared full
    obtain rfl := unique (.assemblerUnstarted (reply_i.trans preprocessed) (reply_s.trans compiled)
      (same_i.gone cleared) full (reply_name.trans reply))
    refine beside.sameBuild_of_assembling ?_ rfl preprocessed compiled cleared full rfl rfl ?_
    · simp [Run.actions, List.filterMap_cons, answer?, reply_i, reply_s, reply_name]
    · simp [Run.actions, eq_comm]
  | assemblerFailed preprocessed compiled cleared full reply failed =>
    obtain ⟨reply_s, -⟩ := beside.after_compiling preprocessed
    obtain ⟨-, -, same_i, -⟩ := beside.after_clearing preprocessed
    obtain ⟨reply_name, -⟩ := beside.after_assembling preprocessed compiled cleared full
    obtain rfl := unique (.assemblerFailed (reply_i.trans preprocessed) (reply_s.trans compiled)
      (same_i.gone cleared) full (reply_name.trans reply) failed)
    refine beside.sameBuild_of_assembling ?_ rfl preprocessed compiled cleared full rfl rfl ?_
    · simp [Run.actions, List.filterMap_cons, answer?, reply_i, reply_s, reply_name]
    · simp [Run.actions, List.filterMap_cons, eq_comm]
  | kept preprocessed compiled cleared full assembled keep =>
    obtain ⟨reply_s, -⟩ := beside.after_compiling preprocessed
    obtain ⟨-, -, same_i, -⟩ := beside.after_clearing preprocessed
    obtain ⟨reply_name, -⟩ := beside.after_assembling preprocessed compiled cleared full
    obtain rfl := unique (.kept (reply_i.trans preprocessed) (reply_s.trans compiled)
      (same_i.gone cleared) full (reply_name.trans assembled) keep)
    refine beside.sameBuild_of_assembling ?_ rfl preprocessed compiled cleared full rfl rfl
      fun _ => assembled
    simp [Run.actions, List.filterMap_cons, answer?, reply_i, reply_s, reply_name]
  | notSwept preprocessed compiled cleared full assembled keep refused other =>
    obtain ⟨reply_s, -⟩ := beside.after_compiling preprocessed
    obtain ⟨-, -, same_i, -⟩ := beside.after_clearing preprocessed
    obtain ⟨reply_name, -⟩ := beside.after_assembling preprocessed compiled cleared full
    obtain ⟨-, -, -, -, same_s, -⟩ :=
      beside.after_sweeping preprocessed compiled cleared full assembled
    obtain rfl := unique (.notSwept (reply_i.trans preprocessed) (reply_s.trans compiled)
      (same_i.gone cleared) full (reply_name.trans assembled) keep
      (same_s.refused refused other) other)
    refine beside.sameBuild_of_sweeping ?_ rfl preprocessed compiled cleared full assembled rfl rfl
    simp [Run.actions, List.filterMap_cons, answer?, reply_i, reply_s, reply_name]
  | swept preprocessed compiled cleared full assembled keep served =>
    obtain ⟨reply_s, -⟩ := beside.after_compiling preprocessed
    obtain ⟨-, -, same_i, -⟩ := beside.after_clearing preprocessed
    obtain ⟨reply_name, -⟩ := beside.after_assembling preprocessed compiled cleared full
    obtain ⟨-, -, -, -, same_s, -⟩ :=
      beside.after_sweeping preprocessed compiled cleared full assembled
    obtain rfl := unique (.swept (reply_i.trans preprocessed) (reply_s.trans compiled)
      (same_i.gone cleared) full (reply_name.trans assembled) keep (same_s.gone served))
    refine beside.sameBuild_of_sweeping ?_ rfl preprocessed compiled cleared full assembled rfl rfl
    simp [Run.actions, List.filterMap_cons, answer?, reply_i, reply_s, reply_name]

end same

/-- **Leftovers do not influence a build.** Take an accepted source and a state of the files that
differs from the one it was accepted in at most where the preprocessed file, the assembly and the
executable go, a regular file or nothing being there in either; and let the source lead to none of
these. Tools that write nothing but their output and depend on nothing but the contents of their
input then make the same build from both. -/
theorem sameBuild_of_run (look : Mode → γ) {fs fs' : FileSystem} {p : Path} {source : Source}
    (accepted : Source.validate fs p = .ok source) (alike : AlikeOutside (Made fs source) fs fs')
    (apart : ∀ l, fs.resolve source.path = .ok l → ¬ Made fs source l) (tools : Toolchain σ)
    (cutoff : Stage) (keepAssembly : Bool) (s : σ) :
    let run := perform tools (execute source cutoff keepAssembly) s fs
    let run' := perform tools (execute source cutoff keepAssembly) s fs'
    Repeatable look source tools (moments tools s fs run.events) (moments tools s fs' run'.events) →
      SameBuild look fs source run run' := by
  intro run run' repeatable
  have beside : SideBySide look tools source cutoff keepAssembly s fs fs' run run' :=
    { accepted := ⟨p, accepted⟩
      alike
      apart
      way := execution_perform tools source cutoff keepAssembly s fs
      way' := execution_perform tools source cutoff keepAssembly s fs'
      repeatable }
  exact beside.sameBuild

/-! ## Tools that copy -/

/-- Tools that copy their input to where they are to write, and fail if there is none. -/
def copying (source : Source) : Toolchain Unit where
  answer request _ fs :=
    { reply := .ok (if (fs.read request.input).toOption.isSome then .success else ⟨1⟩)
      state := ()
      files :=
        match fs.read request.input, fs.locate (destination source request) with
        | .ok contents, .ok (.entry directory name _) =>
          fs.put (name :: directory) (.file contents .plain)
        | _, _ => fs }

/-- Copying keeps to the output, and gives back what is read. -/
theorem copied (source : Source) (request : ToolCall) (fs : FileSystem) :
    WritesOnly (fs.Names (destination source request)) (copying source) request () fs ∧
      ∀ contents, fs.read request.input = .ok contents →
        Overwritten id (destination source request) contents .plain fs
          ((copying source).answer request () fs).files := by
  rcases read : fs.read request.input with cause | contents
  · refine ⟨.of_same ?_, fun contents found => by cases found⟩
    simp only [copying, read]
  · by_cases located : ∃ directory name slashAfter,
        fs.locate (destination source request) = .ok (.entry directory name slashAfter)
    · obtain ⟨directory, name, slashAfter, located⟩ := located
      have put : ((copying source).answer request () fs).files =
          fs.put (name :: directory) (.file contents .plain) := by
        simp only [copying, read, located]
      have below := List.cons_ne_nil name directory
      have only {l : Location} := names_iff_of_locate located (l := l)
      refine ⟨.of_put (only.2 rfl) below put, ?_⟩
      rintro contents' ⟨⟩ l names
      rw [put, only.1 names, get?_put fs below, if_pos rfl]
      exact ⟨.plain, rfl, rfl⟩
    · refine ⟨.of_same ?_, fun contents _ l names => ?_⟩
      · simp only [copying, read]
        split
        · rename_i located'
          exact absurd ⟨_, _, _, located'⟩ located
        · rfl
      · obtain ⟨directory, name, slashAfter, located', -⟩ := names
        exact absurd ⟨directory, name, slashAfter, located'⟩ located

/-- Copying depends on nothing but what is read. -/
theorem repeatable_copying (source : Source) (past past' : List (Moment Unit)) :
    Repeatable id source (copying source) past past' where
  keeps m _ request _ := (copied source request m.files).1
  alike := by
    intro m _ m' _ request _ _ _ same
    refine ⟨?_, rfl, fun _ succeeded => ?_⟩
    · simp only [copying, same]
    · rcases read : m.files.read request.input with cause | contents
      · simp [copying, read, Except.toOption, Status.success] at succeeded
      · exact ⟨contents, .plain, (copied source request m.files).2 contents read,
          (copied source request m'.files).2 contents (same.trans read)⟩

/-- The same file, left at some places. -/
def litter (contents : Bytes) (mode : Mode) (places : List Location) (fs : FileSystem) :
    FileSystem :=
  places.foldl (fun fs l => fs.put l (.file contents mode)) fs

/-- Littering leaf places is felt nowhere else. -/
theorem alike_litter (contents : Bytes) (mode : Mode) {fs : FileSystem} {places : List Location}
    (leaf : ∀ l ∈ places, fs.Leaf l) :
    AlikeOutside (· ∈ places) fs (litter contents mode places fs) := by
  suffices ∀ (left : List Location) (before : FileSystem), (∀ l ∈ left, l ∈ places) →
      AlikeOutside (· ∈ places) fs before →
        AlikeOutside (· ∈ places) fs (litter contents mode left before) from
    this places fs (fun _ => id) (.refl leaf)
  intro left
  induction left with
  | nil => exact fun before _ alike => alike
  | cons l left ih =>
    intro before within alike
    obtain ⟨mem, within⟩ := List.forall_mem_cons.1 within
    exact ih _ within (alike.put mem contents mode)

/-- A build in an empty directory, and one over stale files. -/
theorem sameBuild_of_copying_tools :
    let source : Source := ⟨Path.ofString "./foo.c", Path.ofString "./foo"⟩
    let places := ["foo.i", "foo.s", "foo"].map fun name => [Bytes.ofString name]
    let start : FileSystem := { entries := [([Bytes.ofString "foo.c"], .file 0)], cwd := [] }
    let littered := litter (Bytes.ofString "stale") .executable places start
    let run (fs : FileSystem) := perform (copying source) (execute source .full true) () fs
    Source.validate start (Path.ofString "foo.c") = .ok source ∧
      AlikeOutside (Made start source) start littered ∧
      (∀ l, start.resolve source.path = .ok l → ¬ Made start source l) ∧
      SameBuild id start source (run start) (run littered) ∧
      (run littered).result.toOption = some ⟨.assembled, .success⟩ := by
  intro source places start littered run
  have accepted : Source.validate start (Path.ofString "foo.c") = .ok source := rfl
  have located_i : start.locate source.preprocessed =
      .ok (.entry [] (Bytes.ofString "foo.i") false) := rfl
  have located_s : start.locate source.assembly =
      .ok (.entry [] (Bytes.ofString "foo.s") false) := rfl
  have located : start.locate source.executable =
      .ok (.entry [] (Bytes.ofString "foo") false) := rfl
  have made : Made start source = (· ∈ places) := by
    funext l
    simp [Made, Source.made, names_iff_of_locate located_i, names_iff_of_locate located_s,
      names_iff_of_locate located, places]
  have leaf : ∀ l ∈ places, start.Leaf l := by
    have vacant : ∀ l ∈ places, start.get? l = none ∧ isWithin l [] = false := by decide +kernel
    intro l mem
    obtain ⟨empty, outside⟩ := vacant l mem
    refine ⟨fun node found => ?_, outside⟩
    rw [empty] at found
    cases found
  have alike : AlikeOutside (Made start source) start littered := by
    rw [made]
    exact alike_litter _ _ leaf
  have apart : ∀ l, start.resolve source.path = .ok l → ¬ Made start source l := by
    intro l resolved
    obtain rfl : [Bytes.ofString "foo.c"] = l := Except.ok.inj resolved
    rw [made]
    decide +kernel
  have same := sameBuild_of_run id accepted alike apart (copying source) .full true ()
    (repeatable_copying source _ _)
  exact ⟨accepted, alike, apart, same, by decide +kernel⟩

end CompilerDriver.Pipeline
