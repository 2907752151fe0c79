import CompilerDriver.Proofs.CommandLine.Meaning

/-!
# A word for the log

* `Says.split` — arguments that say some items are cut into two between two items, unless the cut
  goes between an option and its value; and `Says.append` puts the parts together again.
* `read_of_verbose` — **one more word for the log makes the compilation verbose and changes nothing
  else**, wherever between two options it stands.
* `read_of_environment` — the environment matters only by the variables of the settings.
-/

namespace CompilerDriver.CommandLine

variable {item : Item} {items first rest : List Item} {arguments words more before after : List Bytes}

/-! ## Between two items -/

/-- The last word is not an option that waits for its value. -/
def EndsWhole (words : List Bytes) : Prop :=
  ∀ s : Setting, words.getLast? ≠ some (optionWord (.setting s))

instance (words : List Bytes) : Decidable (EndsWhole words) :=
  decidable_of_iff (words.getLast? ≠ some (optionWord (.setting .cc)) ∧
      words.getLast? ≠ some (optionWord (.setting .backend)))
    ⟨fun ⟨cc, backend⟩ s => by cases s <;> assumption, fun whole => ⟨whole .cc, whole .backend⟩⟩

/-- A cut further on goes between an option and its value only if this one does. -/
theorem EndsWhole.of_append (whole : EndsWhole (words ++ more)) : EndsWhole more := by
  cases more with
  | nil => exact fun s ends => by cases ends
  | cons word more =>
    intro s ends
    exact whole s (by rw [List.getLast?_append, ends]; rfl)

/-- The words of an item are all before a cut or all after it. -/
theorem Item.Spelled.whole (spelled : item.Spelled words) (parts : words ++ more = before ++ after)
    (some_before : before ≠ []) (whole : EndsWhole before) : ∃ between, before = words ++ between := by
  obtain ⟨word, others, rfl⟩ := List.exists_cons_of_ne_nil some_before
  cases spelled with
  | flag | letter | attached | file =>
    obtain ⟨rfl, -⟩ := List.cons.inj parts
    exact ⟨others, rfl⟩
  | detached s unmarked =>
    obtain ⟨rfl, tail⟩ := List.cons.inj parts
    cases others with
    | nil => exact absurd rfl (whole s)
    | cons second others =>
      obtain ⟨rfl, -⟩ := List.cons.inj tail
      exact ⟨others, rfl⟩

/-- Words that spell some items are cut between two items. -/
theorem Spelled.split (spelled : Spelled items words) (parts : words = before ++ after)
    (whole : EndsWhole before) :
    ∃ first rest, items = first ++ rest ∧ Spelled first before ∧ Spelled rest after := by
  induction spelled generalizing before with
  | nil =>
    obtain ⟨rfl, rfl⟩ := List.append_eq_nil_iff.1 parts.symm
    exact ⟨[], [], rfl, .nil, .nil⟩
  | @cons item items words more head others ih =>
    by_cases some_before : before = []
    · subst some_before
      rw [List.nil_append] at parts
      rw [← parts]
      exact ⟨[], item :: items, rfl, .nil, .cons head others⟩
    · obtain ⟨between, rfl⟩ := head.whole parts some_before whole
      rw [List.append_assoc] at parts
      obtain ⟨first, rest, rfl, before_spelled, after_spelled⟩ :=
        ih (List.append_cancel_left parts) whole.of_append
      exact ⟨item :: first, rest, rfl, .cons head before_spelled, after_spelled⟩

/-- **Arguments that say some items are cut between two items**, if the cut is before the end of the
options. -/
theorem Says.split (said : Says (before ++ after) items) (options : endWord ∉ before)
    (whole : EndsWhole before) :
    ∃ first rest, items = first ++ rest ∧ Spelled first before ∧ Says after rest := by
  generalize parts : before ++ after = arguments at said
  cases said with
  | options spelled =>
    obtain ⟨first, rest, rfl, before_spelled, after_spelled⟩ := spelled.split parts.symm whole
    exact ⟨first, rest, rfl, before_spelled, .options after_spelled⟩
  | @inputs items words spelled values =>
    have inside : ∃ between, words = before ++ between ∧ after = between ++ endWord :: values := by
      rcases List.append_eq_append_iff.1 parts with ⟨between, is, rest⟩ | ⟨between, is, rest⟩
      · exact ⟨between, is, rest⟩
      · cases between with
        | nil => exact ⟨[], by simpa using is.symm, by simpa using rest.symm⟩
        | cons word between =>
          obtain ⟨rfl, -⟩ := List.cons.inj rest
          exact absurd (by simp [is]) options
    obtain ⟨between, cut, rfl⟩ := inside
    obtain ⟨first, rest, rfl, before_spelled, after_spelled⟩ := spelled.split cut whole
    rw [List.append_assoc]
    exact ⟨first, _, rfl, before_spelled, .inputs after_spelled values⟩

/-- Words that spell some items, and arguments that say the others, say all of them. -/
theorem Says.append (spelled : Spelled first before) (said : Says after rest) :
    Says (before ++ after) (first ++ rest) := by
  induction spelled with
  | nil => exact said
  | cons head others ih =>
    rw [List.append_assoc]
    exact ih.cons head

/-! ## One more flag -/

variable {env env' : Environment} {c : Compilation}

theorem names_cons_flag_iff {f : Flag} {subject : Subject} (other : subject ≠ .flag f) :
    Names (.flag f :: items) subject ↔ Names items subject :=
  List.mem_cons.trans (or_iff_right other)

/-- What is asked for with one more flag for the log. -/
theorem Means.verbose_cons (means : Means items env c) :
    Means (.flag .verbose :: items) env { c with verbose := true } where
  input value := by simpa using means.input value
  least f stage mem stops := by
    rcases List.mem_cons.1 mem with is | mem
    · cases is
      cases stops
    · exact means.least f stage mem stops
  asked := means.asked.imp_right fun ⟨f, mem, stops⟩ => ⟨f, .tail _ mem, stops⟩
  keepAssembly := by simpa using means.keepAssembly
  verbose := by simp
  given s value mem := means.given s value (by simpa using mem)
  otherwise s free := means.otherwise s fun named => free ((names_cons_flag_iff (by simp)).2 named)

theorem Admissible.verbose_cons (admissible : Admissible items env)
    (new : .flag .verbose ∉ items) : Admissible (.flag .verbose :: items) env where
  once := by
    rw [List.map_cons, List.nodup_cons]
    exact ⟨mt names_flag_iff.1 new, admissible.once⟩
  fits := List.forall_mem_cons.2 ⟨trivial, admissible.fits⟩
  has_file := (names_cons_flag_iff (by simp)).2 admissible.has_file
  environment free := admissible.environment fun named =>
    free ((names_cons_flag_iff (by simp)).2 named)

/-- **One more word for the log makes the compilation verbose and changes nothing else.** -/
theorem read_of_verbose (accepted : read (before ++ after) env = .ok c) (quiet : c.verbose = false)
    (options : endWord ∉ before) (whole : EndsWhole before)
    (spelled : (Item.flag .verbose).Spelled words) :
    read (before ++ words ++ after) env = .ok { c with verbose := true } := by
  obtain ⟨items, said⟩ := exists_said_of_read accepted
  have means := means_of_read said accepted
  have admissible := (exists_read_iff_of_said said).1 ⟨c, accepted⟩
  have new : .flag .verbose ∉ items := by
    rw [← means.verbose, quiet]
    simp
  obtain ⟨first, rest, rfl, before_spelled, after_said⟩ := said.split options whole
  have said' : Says (before ++ words ++ after) (first ++ .flag .verbose :: rest) := by
    rw [List.append_assoc]
    exact .append before_spelled (after_said.cons spelled)
  have perm : (first ++ .flag .verbose :: rest).Perm (.flag .verbose :: (first ++ rest)) :=
    List.perm_middle
  obtain ⟨c', accepted'⟩ :=
    (exists_read_iff_of_said said').2 ((admissible.verbose_cons new).perm perm)
  rw [accepted', (means.verbose_cons.perm perm).unique (means_of_read said' accepted')]

/-! ## The environment -/

/-- The environment matters only by the variables of the settings. -/
theorem read_of_environment
    (same : ∀ s : Setting, env'.get? s.variableName = env.get? s.variableName) :
    read arguments env' = read arguments env := by
  have fallback (s : Setting) (otherwise : Bytes) :
      Reading.fallback env' s otherwise = Reading.fallback env s otherwise := by
    rw [Reading.fallback, Reading.fallback, same]
  simp only [read, Reading.toCompilation, fallback]

end CompilerDriver.CommandLine
