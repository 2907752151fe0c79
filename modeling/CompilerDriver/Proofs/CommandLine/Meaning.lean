import CompilerDriver.Proofs.CommandLine.Acceptance

/-!
# What an accepted command line means

* `Means` — the compilation that some items ask for in an environment, told from what is among
  the items and not from where it stands. `Means.unique`: there is one at most; `Means.perm`: the
  order of the items does not matter.
* `means_of_read` — an accepted command line is read as what its items mean.
* `meaning_of_read` — **order and spelling do not matter**: arguments that say the same items in any
  order are read as the same compilation, and the environment has a say in nothing but the programs
  that are not given.
-/

namespace CompilerDriver

/-- Of two stages none of which is later than the other there is only one. -/
theorem Stage.eq_of_le_of_le {a b : Stage} (le : a ≤ b) (ge : b ≤ a) : a = b := by
  revert le ge
  cases a <;> cases b <;> decide

namespace CommandLine

/-- The program that a setting chooses. -/
def Setting.program (programs : Programs) : Setting → Bytes
  | cc => programs.cc
  | backend => programs.backend

/-- The compilation that some items ask for in an environment. -/
structure Means (items : List Item) (env : Environment) (c : Compilation) : Prop where
  /-- The one input. -/
  input : ∀ value, .file value ∈ items ↔ c.input = ⟨value⟩
  /-- No stop that is asked for is earlier. -/
  least : ∀ f stage, .flag f ∈ items → f.stage? = some stage → c.cutoff ≤ stage
  /-- The stop is asked for, unless there is none. -/
  asked : c.cutoff = .full ∨ ∃ f, .flag f ∈ items ∧ f.stage? = some c.cutoff
  keepAssembly : c.keepAssembly = true ↔ .flag .keepAssembly ∈ items
  verbose : c.verbose = true ↔ .flag .verbose ∈ items
  /-- A program that is given. -/
  given : ∀ s value, .setting s value ∈ items → s.program c.programs = value
  /-- A program that is not given: that of the environment, or else the usual one. -/
  otherwise : ∀ s, ¬ Names items (.setting s) →
    s.program c.programs = (env.get? s.variableName).getD (s.program {})

section

variable {items items' : List Item} {env env' : Environment} {c c' : Compilation}
  {arguments : List Bytes} {r : Reading}

/-! ## There is one meaning -/

/-- What asks for the same flags stops at the same stage. -/
theorem Means.cutoff_le (means : Means items env c) (means' : Means items env' c') :
    c.cutoff ≤ c'.cutoff := by
  rcases means'.asked with full | ⟨f, mem, stops⟩
  · rw [full]
    cases c.cutoff <;> decide
  · exact means.least f _ mem stops

/-- What the environment has no say in. -/
theorem Means.eq_of_programs (means : Means items env c) (means' : Means items env' c') :
    c' = { c with programs := c'.programs } := by
  have input : c'.input = c.input := (means'.input _).1 ((means.input c.input.bytes).2 rfl)
  have cutoff : c'.cutoff = c.cutoff :=
    Stage.eq_of_le_of_le (means'.cutoff_le means) (means.cutoff_le means')
  have keepAssembly : c'.keepAssembly = c.keepAssembly :=
    Bool.eq_iff_iff.2 (means'.keepAssembly.trans means.keepAssembly.symm)
  have verbose : c'.verbose = c.verbose :=
    Bool.eq_iff_iff.2 (means'.verbose.trans means.verbose.symm)
  obtain ⟨input', cutoff', keepAssembly', verbose', programs'⟩ := c'
  cases input
  cases cutoff
  cases keepAssembly
  cases verbose
  rfl

/-- A program that is given does not depend on the environment. -/
theorem Means.program_of_names (means : Means items env c) (means' : Means items env' c')
    {s : Setting} (names : Names items (.setting s)) :
    s.program c'.programs = s.program c.programs := by
  obtain ⟨value, mem⟩ := names_setting_iff.1 names
  rw [means'.given s value mem, means.given s value mem]

/-- Items have one meaning in an environment. -/
theorem Means.unique (means : Means items env c) (means' : Means items env c') : c' = c := by
  have program (s : Setting) : s.program c'.programs = s.program c.programs := by
    by_cases names : Names items (.setting s)
    · exact means.program_of_names means' names
    · rw [means'.otherwise s names, means.otherwise s names]
  have programs : c'.programs = c.programs := by
    have cc := program .cc
    have backend := program .backend
    revert cc backend
    cases c'.programs
    rintro ⟨⟩ ⟨⟩
    rfl
  rw [means.eq_of_programs means', programs]

/-! ## The order of the items does not matter -/

theorem names_iff_of_perm (perm : items'.Perm items) {subject : Subject} :
    Names items' subject ↔ Names items subject := (perm.map Item.subject).mem_iff

theorem Means.perm (means : Means items env c) (perm : items'.Perm items) : Means items' env c where
  input value := perm.mem_iff.trans (means.input value)
  least f stage mem := means.least f stage (perm.mem_iff.1 mem)
  asked := means.asked.imp_right fun ⟨f, mem, stops⟩ => ⟨f, perm.mem_iff.2 mem, stops⟩
  keepAssembly := means.keepAssembly.trans perm.mem_iff.symm
  verbose := means.verbose.trans perm.mem_iff.symm
  given s value mem := means.given s value (perm.mem_iff.1 mem)
  otherwise s names := means.otherwise s fun mem => names ((names_iff_of_perm perm).2 mem)

theorem Admissible.perm (admissible : Admissible items env) (perm : items'.Perm items) :
    Admissible items' env where
  once := (perm.map Item.subject).nodup_iff.2 admissible.once
  fits item mem := admissible.fits item (perm.mem_iff.1 mem)
  has_file := (names_iff_of_perm perm).2 admissible.has_file
  environment names := admissible.environment fun mem => names ((names_iff_of_perm perm).2 mem)

/-! ## What is read is what is meant -/

/-- The earliest of some stages that stop. -/
theorem find?_stopping (asked : Stage → Bool) :
    (∀ stage ∈ Stage.stopping, asked stage → (Stage.stopping.find? asked).getD .full ≤ stage) ∧
      ((Stage.stopping.find? asked).getD .full = .full ∨
        asked ((Stage.stopping.find? asked).getD .full) = true) := by
  simp only [Stage.stopping, List.find?_cons]
  cases lex : asked .lex <;> cases parse : asked .parse <;> cases tacky : asked .tacky <;>
    cases assemble : asked .assemble <;> cases codegen : asked .codegen <;> simp_all <;> decide

/-- The stages that the words ask for are those that the items ask for. -/
theorem mem_stopsAsked_iff (said : Says arguments items) (whole : Reading.readAll arguments = .ok r)
    {stage : Stage} :
    stage ∈ stopsAsked arguments ↔ ∃ f, .flag f ∈ items ∧ f.stage? = some stage := by
  have holds := (Reading.readAll_of_said said).2 r whole
  rw [← Reading.mem_stages_iff whole, Reading.stages, List.mem_filterMap]
  simp only [holds.flags]

/-- **An accepted command line is read as what its items mean.** -/
theorem means_of_read (said : Says arguments items) (accepted : read arguments env = .ok c) :
    Means items env c := by
  obtain ⟨r, whole, ok⟩ := bind_eq_ok_iff.1 accepted
  have holds := (Reading.readAll_of_said said).2 r whole
  obtain ⟨-, file, named, rfl⟩ := Reading.toCompilation_eq_ok_iff.1 ok
  obtain ⟨least, asked⟩ := find?_stopping fun stage => stage ∈ stopsAsked arguments
  rw [← Reading.cutoff_of_readAll whole] at least asked
  simp only [decide_eq_true_eq, mem_stopsAsked_iff said whole] at least asked
  refine
    { input := fun value => ?_
      least := fun f stage mem stops => least stage ?_ ⟨f, mem, stops⟩
      asked := asked
      keepAssembly := ?_
      verbose := ?_
      given := fun s value mem => ?_
      otherwise := fun s names => ?_ }
  · rw [← holds.file, named]
    simp
  · cases f <;> cases stops <;> decide
  · rw [decide_eq_true_iff, holds.flags]
  · rw [decide_eq_true_iff, holds.flags]
  · have held := (holds.settings s value).2 mem
    cases s with
    | cc | backend =>
      simp only [Reading.value?] at held
      simp [Setting.program, Reading.programs, held]
  · have free : r.value? s = none := by
      rwa [holds.named_setting_iff, Decidable.not_not] at names
    cases s with
    | cc | backend =>
      simp only [Reading.value?] at free
      simp [Setting.program, Reading.programs, free]

/-- Arguments that say the items of an accepted command line, in any order, are read as the same. -/
theorem read_of_perm (said : Says arguments items) (accepted : read arguments env = .ok c)
    {words : List Bytes} (perm : items'.Perm items) (said' : Says words items') :
    read words env = .ok c := by
  have admissible := (exists_read_iff_of_said said).1 ⟨c, accepted⟩
  obtain ⟨c', ok⟩ := (exists_read_iff_of_said said').2 (admissible.perm perm)
  rw [ok, ((means_of_read said accepted).perm perm).unique (means_of_read said' ok)]

end

/-- **Order and spelling do not matter.** An accepted command line says some items and is read as what
they mean. Any other that says them, in whatever order and spelling, is read as the same compilation;
so is one with the input behind a last `--`. In another environment nothing but the programs may
differ, and no program that is given. -/
theorem meaning_of_read {arguments : List Bytes} {env : Environment} {c : Compilation}
    (accepted : read arguments.tail env = .ok c) :
    (∃ items, Says arguments.tail items) ∧
      ∀ items, Says arguments.tail items →
        Means items env c ∧
        (∀ stage, stage ∈ stopsAsked arguments.tail ↔
          ∃ f, .flag f ∈ items ∧ f.stage? = some stage) ∧
        (∀ items' words, items'.Perm items → Says words items' → read words env = .ok c) ∧
        (∀ others words value, Spelled others words → (others ++ [Item.file value]).Perm items →
          read (words ++ [endWord, value]) env = .ok c) ∧
        ∀ env' c', read arguments.tail env' = .ok c' →
          c' = { c with programs := c'.programs } ∧
            ∀ s, Names items (.setting s) → s.program c'.programs = s.program c.programs := by
  refine ⟨exists_said_of_read accepted, fun items said => ?_⟩
  have means := means_of_read said accepted
  refine ⟨means, fun stage => ?_, fun items' words perm said' => ?_,
    fun others words value spelled perm => ?_, fun env' c' accepted' => ?_⟩
  · obtain ⟨r, whole, -⟩ := bind_eq_ok_iff.1 accepted
    exact mem_stopsAsked_iff said whole
  · exact read_of_perm said accepted perm said'
  · exact read_of_perm said accepted perm (.inputs spelled [value])
  · have means' := means_of_read said accepted'
    exact ⟨means.eq_of_programs means', fun s => means.program_of_names means'⟩

/-- A command line, and another that says the same with every item elsewhere and spelled otherwise. -/
theorem read_of_respelled :
    let arguments := ["ccdriver", "-v", "--backend", "be", "--parse", "--cc=", "--lex", "in.c"]
    let others := ["--lex", "--cc", "", "--parse", "--verbose", "--backend=be", "--", "in.c"]
    let env : Environment := [(Setting.backend.variableName, Bytes.ofString "other")]
    ∃ c, read (arguments.map Bytes.ofString).tail env = .ok c ∧
      read (others.map Bytes.ofString) env = .ok c := by
  intro arguments others env
  let options : List Item := [.flag .lex, .setting .cc [], .flag .parse, .flag .verbose,
    .setting .backend (Bytes.ofString "be")]
  let items : List Item := [.flag .verbose, .setting .backend (Bytes.ofString "be"), .flag .parse,
    .setting .cc [], .flag .lex, .file (Bytes.ofString "in.c")]
  have accepted : read (arguments.map Bytes.ofString).tail env = .ok
      { input := ⟨Bytes.ofString "in.c"⟩, cutoff := .lex, verbose := true,
        programs := ⟨[], Bytes.ofString "be"⟩ } := rfl
  have said : Says (arguments.map Bytes.ofString).tail items :=
    .options (.cons .letter (.cons (.detached .backend (by decide)) (.cons (.flag .parse)
      (.cons (.attached .cc []) (.cons (.flag .lex) (.cons (.file (by decide)) .nil))))))
  have spelled : Spelled options
      (["--lex", "--cc", "", "--parse", "--verbose", "--backend=be"].map Bytes.ofString) :=
    .cons (.flag .lex) (.cons (.detached .cc (by decide)) (.cons (.flag .parse)
      (.cons (.flag .verbose) (.cons (.attached .backend (Bytes.ofString "be")) .nil))))
  have perm : (options ++ [Item.file (Bytes.ofString "in.c")]).Perm items := by decide
  obtain ⟨-, -, -, behind, -⟩ := (meaning_of_read accepted).2 items said
  exact ⟨_, accepted, behind options _ _ spelled perm⟩

end CommandLine

end CompilerDriver
