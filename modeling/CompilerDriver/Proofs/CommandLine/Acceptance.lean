import CompilerDriver.Proofs.CommandLine.Adding

/-!
# Which command lines are accepted

* `read_cases` — what one argument before the end of the options can be.
* `exists_said` — what is read to its end is said by some items.
* `toCompilation_eq` — what becomes of what is read to its end: it is a compilation if the
  environment gives no empty backend and an input was named (`toCompilation_eq_ok_iff`).
* `exists_read_iff` — **which command lines are accepted**: those that say admissible items.
-/

namespace CompilerDriver.CommandLine

namespace Reading

variable {r r' m : Reading} {arguments : List Bytes}

/-! ## What is read to its end is said by some items -/

/-- A value that does not come cannot be taken up. -/
theorem settle_of_waits (waits : r.Waits) : r.settle ≠ .ok m := by
  obtain ⟨⟨s, pending⟩, -⟩ := waits
  simp [settle, pending]

/-- A switch that is applied is a flag that was not there yet, or a setting that now is pending. -/
theorem of_apply {switch : Switch} (ok : r.apply switch = .ok m) :
    (∃ f, switch = .flag f ∧ f ∉ r.flags ∧ m.flags = r.flags ++ [f] ∧ m.pending = none) ∨
      ∃ s, switch = .setting s ∧ m.pending = some (.setting s none) := by
  obtain ⟨settled, taken, ok⟩ := bind_eq_ok_iff.1 ok
  obtain ⟨rests, -, flags, -⟩ := of_settle taken
  cases switch with
  | help | version => cases ok
  | setting s =>
    cases ok
    exact .inr ⟨s, rfl, rfl⟩
  | flag f =>
    simp only at ok
    split at ok
    · cases ok
    · rename_i new
      cases ok
      exact .inl ⟨f, rfl, flags ▸ new, by rw [flags], rests⟩

/-- There is one letter for a flag. -/
theorem of_readLetter {c : Char} (ok : r.readLetter c = .ok m) :
    c = 'v' ∧ .verbose ∉ r.flags ∧ .verbose ∈ m.flags ∧ m.pending = none := by
  unfold readLetter at ok
  split at ok
  · rename_i switch found
    have lettered : switch.letter? = some c := by simpa using List.find?_some found
    rcases of_apply ok with ⟨f, rfl, new, flags, rests⟩ | ⟨s, rfl, -⟩
    · cases f <;> simp only [Switch.letter?, reduceCtorEq, Option.some.injEq] at lettered
      exact ⟨lettered.symm, new, by simp [flags], rests⟩
    · cases lettered
  · cases ok

/-- A group of letters is that letter alone, since a flag may not be repeated. -/
theorem of_readGroup {letters : List Char} {rest : Bytes} (something : rest = [] → letters ≠ [])
    (ok : r.readGroup letters rest = .ok m) :
    letters = ['v'] ∧ rest = [] ∧ m.pending = none := by
  obtain ⟨read, letters_read, ok⟩ := bind_eq_ok_iff.1 ok
  split at ok
  · rename_i whole
    cases ok
    match letters with
    | [] => exact absurd rfl (something whole)
    | [c] =>
      rw [List.foldlM_cons] at letters_read
      obtain ⟨next, first, last⟩ := bind_eq_ok_iff.1 letters_read
      cases last
      obtain ⟨rfl, -, -, rests⟩ := of_readLetter first
      exact ⟨rfl, whole, rests⟩
    | c :: c' :: letters =>
      simp only [List.foldlM_cons] at letters_read
      obtain ⟨next, first, others⟩ := bind_eq_ok_iff.1 letters_read
      obtain ⟨next', second, -⟩ := bind_eq_ok_iff.1 others
      exact absurd (of_readLetter first).2.2.1 (of_readLetter second).2.1
  · cases ok

/-- An input that is read is pending. -/
theorem of_readFile {value : Bytes} (ok : r.readFile value = .ok m) :
    m.pending = some (.file value) := by
  unfold readFile at ok
  split at ok
  · cases ok
  · obtain ⟨settled, -, ok⟩ := bind_eq_ok_iff.1 ok
    cases ok
    rfl

/-- A long option without a value is a flag, or a setting that now is pending. -/
theorem of_readLong_none {name : Bytes} (ok : r.readLong name none = .ok m) :
    (∃ f, Bytes.dash :: Bytes.dash :: name = optionWord (.flag f) ∧ m.pending = none) ∨
      ∃ s, Bytes.dash :: Bytes.dash :: name = optionWord (.setting s) ∧
        m.pending = some (.setting s none) := by
  unfold readLong at ok
  split at ok
  · cases ok
  · cases ‹none = some _›
  · rename_i switch found _
    rw [optionWord_of_ofName? found]
    rcases of_apply ok with ⟨f, rfl, -, -, rests⟩ | ⟨s, rfl, pending⟩
    · exact .inl ⟨f, rfl, rests⟩
    · exact .inr ⟨s, rfl, pending⟩
  · cases ‹none = some _›

/-- A long option with a value is a setting. -/
theorem of_readLong_some {name value : Bytes} (ok : r.readLong name (some value) = .ok m) :
    (∃ s, Bytes.dash :: Bytes.dash :: (name ++ Bytes.equals :: value) = attachedWord s value) ∧
      m.pending = none := by
  unfold readLong at ok
  split at ok
  · cases ok
  · rename_i s value' found _
    cases ‹some value = some value'›
    obtain ⟨settled, taken, given⟩ := bind_eq_ok_iff.1 ok
    refine ⟨⟨s, ?_⟩, (of_give given).1.trans (of_settle taken).1⟩
    rw [attachedWord, ← optionWord_of_ofName? found]
    rfl
  · cases ‹some value = none›
  · cases ok

/-- **An argument before the end of the options** is the value that a reading waits for, or it spells
an item, or it is the name of a setting whose value is then waited for. -/
theorem read_cases {a : Bytes} (options : r.escaped = false) (more : a ≠ endWord)
    (ok : r.read a = .ok m) :
    (r.Waits ∧ Unmarked a ∧ ¬ m.Waits) ∨
      (¬ r.Waits ∧ (∃ item, Item.Spelled item [a]) ∧ ¬ m.Waits) ∨
      (¬ r.Waits ∧ (∃ s, a = optionWord (.setting s)) ∧ m.Waits) := by
  have escaped := (adds_read options more ok).escaped.trans options
  have idle_of {step : Reading → Except Ending Reading} (takes : TakesUp step r)
      (ok : step r = .ok m) : ¬ r.Waits := by
    intro waits
    obtain ⟨settled, taken, -⟩ := (takes m).1 ok
    exact settle_of_waits waits taken
  have idle_of_some {p : Pending} (pending : m.pending = some p) (other : ∀ s, p ≠ .setting s none) :
      ¬ m.Waits := by
    rintro ⟨⟨s, waits⟩, -⟩
    exact other s (Option.some.inj (pending.symm.trans waits))
  rw [read, if_neg (by simp [options])] at ok
  rcases ofBytes_cases a with ⟨-, ends⟩ | ⟨name, looks, rfl⟩ | ⟨name, value, looks⟩ |
    ⟨letters, rest, looks⟩ | looks
  · exact absurd ends more
  · rw [looks] at ok
    have idle := idle_of (takesUp_readLong name none r) ok
    rcases of_readLong_none ok with ⟨f, word, rests⟩ | ⟨s, word, pending⟩
    · rw [word]
      exact .inr (.inl ⟨idle, ⟨_, .flag f⟩, not_waits_of_none rests⟩)
    · exact .inr (.inr ⟨idle, ⟨s, word⟩, ⟨s, pending⟩, escaped⟩)
  · rw [looks] at ok
    obtain ⟨⟨s, word⟩, rests⟩ := of_readLong_some ok
    rw [(ofBytes_eq_long_iff.1 looks).1, word]
    exact .inr (.inl ⟨idle_of (takesUp_readLong name (some value) r) ok, ⟨_, .attached s value⟩,
      not_waits_of_none rests⟩)
  · rw [looks] at ok
    have something : rest = [] → letters ≠ [] := by
      rintro rfl
      exact (eq_of_group looks).2
    have idle := idle_of (takesUp_readGroup something r) ok
    obtain ⟨rfl, rfl, rests⟩ := of_readGroup something ok
    have word : a = letterWord := (eq_of_group looks).1.trans (by decide)
    rw [word]
    exact .inr (.inl ⟨idle, ⟨_, .letter⟩, not_waits_of_none rests⟩)
  · have unmarked := ofBytes_eq_plain_iff.1 looks
    simp only [looks] at ok
    split at ok
    · rename_i s pending
      cases ok
      exact .inl ⟨⟨⟨s, pending⟩, options⟩, unmarked, idle_of_some rfl (by simp)⟩
    · exact .inr (.inl ⟨idle_of (takesUp_readFile a r) ok, ⟨_, .file unmarked⟩,
        idle_of_some (of_readFile ok) (by simp)⟩)

/-- **Arguments that are read to their end say some items**; first comes the value that is waited
for, if one is. -/
theorem exists_said_of_finish (options : r.escaped = false) (ok : r.finish arguments = .ok r') :
    (r.Waits → ∃ value more, arguments = value :: more ∧ Unmarked value ∧ ∃ items, Says more items) ∧
      (¬ r.Waits → ∃ items, Says arguments items) := by
  induction arguments generalizing r with
  | nil => exact ⟨fun waits => absurd ok (settle_of_waits waits), fun _ => ⟨[], .options .nil⟩⟩
  | cons a arguments ih =>
    obtain ⟨next, first, others⟩ := finish_cons_eq_ok_iff.1 ok
    by_cases ends : a = endWord
    · subst ends
      refine ⟨fun waits => ?_, fun _ => ⟨_, .inputs .nil arguments⟩⟩
      -- What is waited for cannot come any more.
      rw [read, if_neg (by simp [options]), ofBytes_endWord] at first
      cases first
      have ended : ¬ ({ r with escaped := true } : Reading).Waits := fun waits => by cases waits.2
      obtain ⟨m, taken, -⟩ := (takesUp_finish arguments ended r').1 others
      obtain ⟨⟨s, pending⟩, -⟩ := waits
      simp [settle, pending] at taken
    · obtain ⟨of_waits, of_idle⟩ :=
        ih ((adds_read options ends first).escaped.trans options) others
      rcases read_cases options ends first with ⟨waits, unmarked, idle'⟩ |
        ⟨idle, ⟨item, spelled⟩, idle'⟩ | ⟨idle, ⟨s, word⟩, waits'⟩
      · exact ⟨fun _ => ⟨a, arguments, rfl, unmarked, of_idle idle'⟩, fun idle => absurd waits idle⟩
      · obtain ⟨items, said⟩ := of_idle idle'
        exact ⟨fun waits => absurd waits idle, fun _ => ⟨_, said.cons spelled⟩⟩
      · obtain ⟨value, more, rfl, unmarked, items, said⟩ := of_waits waits'
        rw [word]
        exact ⟨fun waits => absurd waits idle, fun _ => ⟨_, said.cons (.detached s unmarked)⟩⟩

theorem exists_said (ok : readAll arguments = .ok r) : ∃ items, Says arguments items :=
  (exists_said_of_finish rfl ok).2 (not_waits_of_none rfl)

/-! ## The compilation that is asked for -/

variable {env : Environment} {c : Compilation}

/-- The environment gives a setting its value, unless that is an empty one that will not do. -/
theorem fallback_eq (env : Environment) (s : Setting) (otherwise : Bytes) :
    fallback env s otherwise =
      if s.takesEmpty = false ∧ env.get? s.variableName = some [] then
        .error (.wrong (.valueRequired (.setting s)))
      else .ok ((env.get? s.variableName).getD otherwise) := by
  unfold fallback
  cases env.get? s.variableName with
  | none => simp
  | some value => simp [and_comm]

/-- The programs, as given on the command line, or else by the environment, or else the usual ones. -/
def programs (r : Reading) (env : Environment) : Programs where
  cc := r.cc.getD ((env.get? Setting.cc.variableName).getD ({} : Programs).cc)
  backend := r.backend.getD ((env.get? Setting.backend.variableName).getD ({} : Programs).backend)

/-- What is read to its end comes to: the environment is looked at first, for a backend that is not
given, and only then is a missing input noticed. -/
theorem toCompilation_eq (r : Reading) (env : Environment) :
    r.toCompilation env =
      if r.backend = none ∧ env.get? Setting.backend.variableName = some [] then
        .error (.wrong (.valueRequired (.setting .backend)))
      else match r.file with
        | none => .error (.wrong .missingFile)
        | some file => .ok
          { input := ⟨file⟩
            cutoff := r.stopFlags.cutoff
            keepAssembly := .keepAssembly ∈ r.flags
            verbose := .verbose ∈ r.flags
            programs := r.programs env } := by
  have cc (otherwise : Bytes) : fallback env .cc otherwise =
      .ok ((env.get? Setting.cc.variableName).getD otherwise) := by
    simp [fallback_eq, Setting.takesEmpty]
  have backend (otherwise : Bytes) : fallback env .backend otherwise =
      if env.get? Setting.backend.variableName = some [] then
        .error (.wrong (.valueRequired (.setting .backend)))
      else .ok ((env.get? Setting.backend.variableName).getD otherwise) := by
    simp [fallback_eq, Setting.takesEmpty]
  simp only [toCompilation, programs, cc, backend]
  by_cases empty : env.get? Setting.backend.variableName = some [] <;>
  cases r.cc <;> cases r.backend <;> cases r.file <;> simp [empty, bind, Except.bind]

/-- **What is read to its end is a compilation** if an input was named and the environment does not
give an empty backend where none was given. -/
theorem toCompilation_eq_ok_iff : r.toCompilation env = .ok c ↔
    (r.backend = none → env.get? Setting.backend.variableName ≠ some []) ∧
      ∃ file, r.file = some file ∧
        { input := ⟨file⟩
          cutoff := r.stopFlags.cutoff
          keepAssembly := .keepAssembly ∈ r.flags
          verbose := .verbose ∈ r.flags
          programs := r.programs env } = c := by
  rw [toCompilation_eq, ← not_and]
  split
  · rename_i lost
    simp [lost]
  · rename_i given
    cases r.file <;> simp [given]

end Reading

/-- Arguments that say some items are accepted if the items are admissible. -/
theorem exists_read_iff_of_said {arguments : List Bytes} {items : List Item} {env : Environment}
    (said : Says arguments items) :
    (∃ c, read arguments env = .ok c) ↔ Admissible items env := by
  obtain ⟨consistent, holds⟩ := Reading.readAll_of_said said
  constructor
  · rintro ⟨c, accepted⟩
    obtain ⟨r, whole, ok⟩ := bind_eq_ok_iff.1 accepted
    obtain ⟨environment, value, named, -⟩ := Reading.toCompilation_eq_ok_iff.1 ok
    refine ⟨consistent.1 ⟨r, whole⟩, ?_, fun free => environment ?_⟩
    · rw [(holds r whole).named_file_iff, named]
      exact Option.some_ne_none value
    · rwa [(holds r whole).named_setting_iff, Decidable.not_not] at free
  · intro admissible
    obtain ⟨r, whole⟩ := consistent.2 admissible.toConsistent
    obtain ⟨value, named⟩ :=
      Option.ne_none_iff_exists'.1 ((holds r whole).named_file_iff.1 admissible.has_file)
    have environment := admissible.environment
    rw [(holds r whole).named_setting_iff, Decidable.not_not] at environment
    have ok := Reading.toCompilation_eq_ok_iff.2 ⟨environment, value, named, rfl⟩
    exact ⟨_, bind_eq_ok_iff.2 ⟨r, whole, ok⟩⟩

/-- What is accepted is said by some items. -/
theorem exists_said_of_read {arguments : List Bytes} {env : Environment} {c : Compilation}
    (accepted : read arguments env = .ok c) : ∃ items, Says arguments items := by
  obtain ⟨r, whole, -⟩ := bind_eq_ok_iff.1 accepted
  exact Reading.exists_said whole

/-- **Which command lines are accepted**: those whose arguments, after the first of them, which is the
program's name, say admissible items. -/
theorem exists_read_iff (arguments : List Bytes) (env : Environment) :
    (∃ c, read arguments.tail env = .ok c) ↔
      ∃ items, Says arguments.tail items ∧ Admissible items env := by
  constructor
  · rintro ⟨c, accepted⟩
    obtain ⟨items, said⟩ := exists_said_of_read accepted
    exact ⟨items, said, (exists_read_iff_of_said said).1 ⟨c, accepted⟩⟩
  · rintro ⟨items, said, admissible⟩
    exact (exists_read_iff_of_said said).2 admissible

end CompilerDriver.CommandLine
