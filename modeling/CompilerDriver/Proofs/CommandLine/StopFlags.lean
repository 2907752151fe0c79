import CompilerDriver.CommandLine.Reading

/-!
# Which stop flags a command line asks for

* `stopsAsked` — the stages whose flags stand among the arguments before a `--`, said of the words
  as they were typed.
* `Reading.stages` — the stages that have been asked for when so much has been read. `adds_read` is
  what one argument adds; `mem_stages_iff` says that all of them together add **those stages that
  their words ask for and no other**.
* `selection_of_read` — **the backend is told what the stop flags ask for**: to stop if there is one,
  and the place of the earliest among the stages, counted from one, or else 5.
-/

namespace CompilerDriver.CommandLine

/-! ## What is asked for -/

/-- The word that ends the options. -/
def endWord : Bytes := [Bytes.dash, Bytes.dash]

/-- The word that asks to stop after a stage. -/
def stopWord (stage : Stage) : Bytes := Bytes.ofString ("--" ++ stage.name)

/-- The stages that some arguments ask to stop after, earliest first. -/
def stopsAsked (arguments : List Bytes) : List Stage :=
  Stage.stopping.filter fun stage => stopWord stage ∈ arguments.takeWhile fun a => a ≠ endWord

/-- The stage that a word asks to stop after, if it is such a word. -/
def stageOf? (word : Bytes) : Option Stage :=
  Stage.stopping.find? fun stage => stopWord stage = word

/-- The stage that a switch asks to stop after, if it is such a switch. -/
def Switch.stage? : Switch → Option Stage
  | .flag f => f.stage?
  | _ => none

theorem stageOf?_eq_some_iff {word : Bytes} {stage : Stage} :
    stageOf? word = some stage ↔ stage ∈ Stage.stopping ∧ stopWord stage = word := by
  constructor
  · intro found
    exact ⟨List.mem_of_find?_eq_some found, by simpa using List.find?_some found⟩
  · rintro ⟨stops, rfl⟩
    revert stage
    decide

/-! ## What a word looks like -/

/-- A stop word is a long option without a value. -/
theorem ofBytes_of_stageOf? {word : Bytes} {stage : Stage} (asks : stageOf? word = some stage) :
    Argument.ofBytes word = .long (Bytes.ofString stage.name) none := by
  obtain ⟨stops, rfl⟩ := stageOf?_eq_some_iff.1 asks
  clear asks
  revert stage
  decide

theorem ofBytes_endWord : Argument.ofBytes endWord = .endOfOptions := by decide

/-- What a word can look like. -/
theorem ofBytes_cases (a : Bytes) :
    Argument.ofBytes a = .endOfOptions ∧ a = endWord ∨
      (∃ name, Argument.ofBytes a = .long name none ∧ a = Bytes.dash :: Bytes.dash :: name) ∨
      (∃ name value, Argument.ofBytes a = .long name (some value)) ∨
      (∃ letters rest, Argument.ofBytes a = .group letters rest) ∨
      Argument.ofBytes a = .plain a := by
  match a with
  | [] => simp [Argument.ofBytes]
  | [b] => simp [Argument.ofBytes]
  | b :: c :: rest =>
    by_cases first : b = Bytes.dash
    · by_cases second : c = Bytes.dash
      · by_cases short : rest = []
        · left
          rw [first, second, short]
          decide
        · subst first second
          cases cut : Bytes.cut? Bytes.equals rest with
          | none => exact .inr (.inl ⟨rest, by simp [Argument.ofBytes, short, cut], rfl⟩)
          | some parts =>
            exact .inr (.inr (.inl ⟨parts.1, parts.2, by simp [Argument.ofBytes, short, cut]⟩))
      · simp [Argument.ofBytes, first, second]
    · simp [Argument.ofBytes, first]

/-- A switch asks for the stage that its word asks for. -/
theorem stageOf?_of_ofName? {name : Bytes} {switch : Switch}
    (found : Switch.ofName? name = some switch) :
    stageOf? (Bytes.dash :: Bytes.dash :: name) = switch.stage? := by
  have named : Bytes.ofString switch.name = name := by simpa using List.find?_some found
  have all : ∀ switch ∈ Switch.all, 
      stageOf? (Bytes.dash :: Bytes.dash :: Bytes.ofString switch.name) = switch.stage? := by decide
  rw [← named]
  exact all switch (List.mem_of_find?_eq_some found)

/-- No letter asks for a stage. -/
theorem stage?_of_ofLetter? {c : Char} {switch : Switch}
    (found : Switch.ofLetter? c = some switch) : switch.stage? = none := by
  have lettered : switch.letter? = some c := by simpa using List.find?_some found
  have all : ∀ switch ∈ Switch.all, switch.letter?.isSome → switch.stage? = none := by decide
  exact all switch (List.mem_of_find?_eq_some found) (by rw [lettered]; rfl)

/-! ## What one argument adds -/

/-- Two steps in a row succeed if both do. -/
theorem bind_eq_ok_iff {ε α β : Type} {x : Except ε α} {f : α → Except ε β} {b : β} :
    (x >>= f) = .ok b ↔ ∃ a, x = .ok a ∧ f a = .ok b := by
  cases x with
  | error e => simp [bind, Except.bind]
  | ok a => simp [bind, Except.bind]

namespace Reading

variable {r r' : Reading}

/-- The stages that have been asked for so far. -/
def stages (r : Reading) : List Stage := r.flags.filterMap Flag.stage?

/-- Between two readings these stages have been asked for, and no end of the options was met. -/
structure Adds (asked : List Stage) (r r' : Reading) : Prop where
  stages : r'.stages = r.stages ++ asked
  escaped : r'.escaped = r.escaped

/-- Nothing has been asked for. -/
abbrev Keeps (r r' : Reading) : Prop := Adds [] r r'

theorem Keeps.refl (r : Reading) : Keeps r r := ⟨by simp, rfl⟩

theorem Adds.trans {asked more : List Stage} {r₁ r₂ r₃ : Reading} (first : Adds asked r₁ r₂)
    (second : Adds more r₂ r₃) : Adds (asked ++ more) r₁ r₃ := by
  refine ⟨?_, ?_⟩
  · rw [second.stages, first.stages, List.append_assoc]
  · rw [second.escaped, first.escaped]

theorem keeps_give {s : Setting} {value : Bytes} (ok : r.give s value = .ok r') : Keeps r r' := by
  unfold give at ok
  split at ok
  · cases ok
  · split at ok
    · cases ok
    · cases s with
      | cc | backend =>
        cases ok
        exact ⟨by simp [stages], rfl⟩

theorem keeps_settle (ok : r.settle = .ok r') : Keeps r r' := by
  have emptied : Keeps r { r with pending := none } := ⟨by simp [stages], rfl⟩
  unfold settle at ok
  simp only at ok
  split at ok
  · cases ok
    exact emptied
  · cases ok
  · exact emptied.trans (keeps_give ok)
  · split at ok
    · cases ok
    · cases ok
      exact ⟨by simp [stages], rfl⟩

/-- A switch that is applied adds the stage that it asks for. -/
theorem adds_apply {switch : Switch} (ok : r.apply switch = .ok r') :
    Adds switch.stage?.toList r r' := by
  obtain ⟨settled, taken, ok⟩ := bind_eq_ok_iff.1 ok
  have kept := keeps_settle taken
  cases switch with
  | help | version => cases ok
  | setting s =>
    cases ok
    exact kept.trans ⟨by simp [stages], rfl⟩
  | flag f =>
    simp only at ok
    split at ok
    · cases ok
    · cases ok
      refine kept.trans ⟨?_, rfl⟩
      simp only [stages, List.filterMap_append, Switch.stage?, List.filterMap_cons]
      cases f.stage? <;> rfl

theorem keeps_readFile {value : Bytes} (ok : r.readFile value = .ok r') : Keeps r r' := by
  unfold readFile at ok
  split at ok
  · cases ok
  · obtain ⟨settled, taken, ok⟩ := bind_eq_ok_iff.1 ok
    cases ok
    exact (keeps_settle taken).trans ⟨by simp [stages], rfl⟩

theorem keeps_readLetter {c : Char} (ok : r.readLetter c = .ok r') : Keeps r r' := by
  unfold readLetter at ok
  split at ok
  · rename_i switch found
    have adds := adds_apply ok
    rw [stage?_of_ofLetter? found] at adds
    exact adds
  · cases ok

theorem keeps_readLetters {letters : List Char} (ok : letters.foldlM readLetter r = .ok r') :
    Keeps r r' := by
  induction letters generalizing r with
  | nil =>
    cases ok
    exact Keeps.refl _
  | cons c letters ih =>
    rw [List.foldlM_cons] at ok
    obtain ⟨next, read, ok⟩ := bind_eq_ok_iff.1 ok
    exact (keeps_readLetter read).trans (ih ok)

theorem keeps_readGroup {letters : List Char} {rest : Bytes}
    (ok : r.readGroup letters rest = .ok r') : Keeps r r' := by
  obtain ⟨read, letters_read, ok⟩ := bind_eq_ok_iff.1 ok
  split at ok
  · cases ok
    exact keeps_readLetters letters_read
  · cases ok

/-- A long option with a value gives a setting. -/
theorem keeps_readLong {name value : Bytes} (ok : r.readLong name (some value) = .ok r') :
    Keeps r r' := by
  unfold readLong at ok
  split at ok
  · cases ok
  · obtain ⟨settled, taken, ok⟩ := bind_eq_ok_iff.1 ok
    cases ‹some value = some _›
    exact (keeps_settle taken).trans (keeps_give ok)
  · cases ‹some value = none›
  · cases ok

/-- A long option without a value is a switch. -/
theorem adds_readLong {name : Bytes} (ok : r.readLong name none = .ok r') :
    Adds (stageOf? (Bytes.dash :: Bytes.dash :: name)).toList r r' := by
  unfold readLong at ok
  split at ok
  · cases ok
  · cases ‹none = some _›
  · rename_i switch found _
    rw [stageOf?_of_ofName? found]
    exact adds_apply ok
  · cases ‹none = some _›

/-- After the end of the options nothing asks for a stage. -/
theorem keeps_read {a : Bytes} (escaped : r.escaped = true) (ok : r.read a = .ok r') :
    Keeps r r' := by
  rw [read, if_pos escaped] at ok
  exact keeps_readFile ok

/-- The end of the options itself asks for none. -/
theorem stages_of_read_endWord (options : r.escaped = false) (ok : r.read endWord = .ok r') :
    r'.stages = r.stages ∧ r'.escaped = true := by
  rw [read, if_neg (by simp [options]), ofBytes_endWord] at ok
  cases ok
  exact ⟨rfl, rfl⟩

/-- **Any other argument adds the stage that its word asks for.** -/
theorem adds_read {a : Bytes} (options : r.escaped = false) (more : a ≠ endWord)
    (ok : r.read a = .ok r') : Adds (stageOf? a).toList r r' := by
  have no_stage : (∀ name, Argument.ofBytes a ≠ .long name none) → stageOf? a = none := by
    intro other
    cases asks : stageOf? a with
    | none => rfl
    | some stage => exact absurd (ofBytes_of_stageOf? asks) (other _)
  rw [read, if_neg (by simp [options])] at ok
  rcases ofBytes_cases a with ⟨-, ends⟩ | ⟨name, looks, rfl⟩ | ⟨name, value, looks⟩ |
    ⟨letters, rest, looks⟩ | looks
  · exact absurd ends more
  · rw [looks] at ok
    exact adds_readLong ok
  · rw [no_stage (by simp [looks])]
    rw [looks] at ok
    exact keeps_readLong ok
  · rw [no_stage (by simp [looks])]
    rw [looks] at ok
    exact keeps_readGroup ok
  · rw [no_stage (by simp [looks])]
    rw [looks] at ok
    simp only at ok
    split at ok
    · cases ok
      exact ⟨by simp [stages], rfl⟩
    · exact keeps_readFile ok

/-! ## What all arguments add -/

/-- After the end of the options. -/
theorem keeps_readRest {arguments : List Bytes} (escaped : r.escaped = true)
    (ok : arguments.foldlM read r = .ok r') : Keeps r r' := by
  induction arguments generalizing r with
  | nil =>
    cases ok
    exact Keeps.refl _
  | cons a arguments ih =>
    rw [List.foldlM_cons] at ok
    obtain ⟨next, first, ok⟩ := bind_eq_ok_iff.1 ok
    have kept := keeps_read escaped first
    exact kept.trans (ih (kept.escaped.trans escaped) ok)

/-- The arguments add the stages that the words among the options ask for. -/
theorem stages_of_foldlM {arguments : List Bytes} (options : r.escaped = false)
    (ok : arguments.foldlM read r = .ok r') :
    r'.stages = r.stages ++ (arguments.takeWhile fun a => a ≠ endWord).filterMap stageOf? := by
  induction arguments generalizing r with
  | nil =>
    cases ok
    simp
  | cons a arguments ih =>
    rw [List.foldlM_cons] at ok
    obtain ⟨next, first, others⟩ := bind_eq_ok_iff.1 ok
    by_cases ends : a = endWord
    · rw [ends] at first
      obtain ⟨stages, escaped⟩ := stages_of_read_endWord options first
      rw [(keeps_readRest escaped others).stages, stages]
      simp [ends]
    · have adds := adds_read options ends first
      rw [ih (adds.escaped.trans options) others, adds.stages, List.append_assoc,
        List.takeWhile_cons_of_pos (by simpa using ends), List.filterMap_cons]
      cases stageOf? a <;> rfl

/-- **A stage has been asked for if it is asked for.** -/
theorem mem_stages_iff {arguments : List Bytes} {stage : Stage} (ok : readAll arguments = .ok r) :
    stage ∈ r.stages ↔ stage ∈ stopsAsked arguments := by
  obtain ⟨read, all, ok⟩ := bind_eq_ok_iff.1 ok
  rw [(keeps_settle ok).stages, List.append_nil, stages_of_foldlM rfl all, stopsAsked,
    List.mem_filter]
  simp only [stages, List.filterMap_nil, List.nil_append, List.mem_filterMap,
    stageOf?_eq_some_iff, decide_eq_true_eq]
  constructor
  · rintro ⟨word, mem, stops, rfl⟩
    exact ⟨stops, mem⟩
  · rintro ⟨stops, mem⟩
    exact ⟨stopWord stage, mem, stops, rfl⟩

end Reading

/-! ## What the backend is told -/

/-- A flag is set if it was before or has been inserted. -/
theorem isSet_insert (f : StopFlags) {stage : Stage} (stops : stage ∈ Stage.stopping)
    (inserted : Stage) : (f.insert inserted).isSet stage = (f.isSet stage || stage == inserted) := by
  cases inserted <;> cases stage <;> first
    | exact absurd stops (by decide)
    | simp [StopFlags.insert, StopFlags.isSet]

/-- The flags that are set are those of the stages that have been asked for. -/
theorem isSet_foldl (stages : List Stage) (f : StopFlags) {stage : Stage}
    (stops : stage ∈ Stage.stopping) :
    (stages.foldl StopFlags.insert f).isSet stage = (f.isSet stage || stages.contains stage) := by
  induction stages generalizing f with
  | nil => simp
  | cons inserted stages ih =>
    rw [List.foldl_cons, ih, isSet_insert f stops, List.contains_cons, Bool.or_assoc]

/-- The earliest of some stages as the backend is told it. -/
theorem selection_getD_find? (asked : Stage → Bool) :
    ((Stage.stopping.find? asked).getD .full).selection =
      ⟨Stage.stopping.any asked,
        match Stage.stopping.findIdx? asked with
        | some index => index + 1
        | none => 5⟩ := by
  simp only [Stage.stopping, List.find?_cons, List.findIdx?_cons, List.any_cons]
  cases asked .lex <;> cases asked .parse <;> cases asked .tacky <;> cases asked .assemble <;>
    cases asked .codegen <;> rfl

namespace Reading

variable {arguments : List Bytes} {env : Environment} {r : Reading} {c : Compilation}

/-- A reading stops at the earliest stage that is asked for. -/
theorem cutoff_of_readAll (ok : readAll arguments = .ok r) :
    r.stopFlags.cutoff =
      (Stage.stopping.find? fun stage => stage ∈ stopsAsked arguments).getD .full := by
  have same : r.stopFlags.isSet = fun stage => decide (stage ∈ stopsAsked arguments) := by
    funext stage
    by_cases stops : stage ∈ Stage.stopping
    · rw [stopFlags, isSet_foldl _ _ stops, Bool.eq_iff_iff, decide_eq_true_iff,
        ← mem_stages_iff ok]
      cases stage <;> simp [StopFlags.isSet, stages]
    · have not_asked : stage ∉ stopsAsked arguments := fun asked => stops (List.mem_filter.1 asked).1
      have full : stage = .full := by simpa [Stage.mem_stopping_iff, Stage.stops] using stops
      rw [decide_eq_false not_asked, full]
      rfl
  rw [StopFlags.cutoff, same]

/-- What is read to its end is a compilation that stops where the flags say. -/
theorem cutoff_of_toCompilation (ok : r.toCompilation env = .ok c) :
    c.cutoff = r.stopFlags.cutoff := by
  simp only [toCompilation] at ok
  -- Each of the two programs may be given or fall back; neither has a say in the rest.
  split at ok
  all_goals
    obtain ⟨cc, -, ok⟩ := bind_eq_ok_iff.1 ok
    split at ok
    all_goals
      obtain ⟨backend, -, ok⟩ := bind_eq_ok_iff.1 ok
      split at ok
      · cases ok
      · cases ok
        rfl

end Reading

/-- **The backend is told what the stop flags ask for**: to stop if there is one, and the place of
the earliest of them among the stages, counted from one, or 5 if there is none. -/
theorem selection_of_read {arguments : List Bytes} {env : Environment} {c : Compilation}
    (read : CommandLine.read arguments env = .ok c) :
    c.cutoff.selection =
      ⟨stopsAsked arguments ≠ [],
        match Stage.stopping.findIdx? fun stage => stage ∈ stopsAsked arguments with
        | some index => index + 1
        | none => 5⟩ := by
  obtain ⟨r, all, ok⟩ := bind_eq_ok_iff.1 read
  rw [Reading.cutoff_of_toCompilation ok, Reading.cutoff_of_readAll all, selection_getD_find?]
  congr 1
  rw [Bool.eq_iff_iff, List.any_eq_true, decide_eq_true_iff]
  constructor
  · rintro ⟨stage, -, asked⟩
    exact List.ne_nil_of_mem (of_decide_eq_true asked)
  · intro some_asked
    obtain ⟨stage, asked⟩ := List.exists_mem_of_ne_nil _ some_asked
    exact ⟨stage, (List.mem_filter.1 asked).1, decide_eq_true asked⟩

end CompilerDriver.CommandLine
