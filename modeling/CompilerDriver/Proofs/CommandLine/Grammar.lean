import CompilerDriver.Proofs.CommandLine.StopFlags
import CompilerDriver.Proofs.Source.Names
import CompilerDriver.Proofs.Text.Utf8

/-!
# The grammar of the command line

* `Item` — one thing that a command line says: a flag, a setting with its value, or an input. Its
  `Subject` is what may be said only once.
* `Item.Spelled` — the words for an item. A setting has two spellings, and so has the one flag with
  a letter.
* `Says` — arguments say some items: one after the other, and perhaps, after a `--`, inputs that may
  look like anything.
* `Admissible` — what the items of a command line must keep to in an environment; without the
  environment and the input that there must be, `Consistent`.

The rest of this module is about the looks of these words: which words are taken for what, and that
each look is that of the words which are written so and of no others.
-/

namespace CompilerDriver.CommandLine

/-! ## Items -/

/-- One thing that a command line says. -/
inductive Item where
  | flag (flag : Flag)
  | setting (setting : Setting) (value : Bytes)
  | file (value : Bytes)
deriving DecidableEq, Repr

/-- What an item is about. Two items about the same thing are one too many. -/
inductive Subject where
  | flag (flag : Flag)
  | setting (setting : Setting)
  | file
deriving DecidableEq, Repr

namespace Item

/-- What an item is about. -/
def subject : Item → Subject
  | flag f => .flag f
  | setting s _ => .setting s
  | file _ => .file

/-- The value of an item is not empty, unless it is one that may be. -/
def Fits : Item → Prop
  | flag _ => True
  | setting s value => value = [] → s.takesEmpty = true
  | file value => value ≠ []

end Item

/-- The items name a subject. -/
def Names (items : List Item) (subject : Subject) : Prop := subject ∈ items.map Item.subject

theorem names_flag_iff {items : List Item} {f : Flag} :
    Names items (.flag f) ↔ .flag f ∈ items := by
  refine List.mem_map.trans ⟨?_, fun mem => ⟨_, mem, rfl⟩⟩
  rintro ⟨_ | _ | _, mem, is⟩ <;> cases is
  exact mem

theorem names_setting_iff {items : List Item} {s : Setting} :
    Names items (.setting s) ↔ ∃ value, .setting s value ∈ items := by
  refine List.mem_map.trans ⟨?_, fun ⟨value, mem⟩ => ⟨_, mem, rfl⟩⟩
  rintro ⟨_ | ⟨_, value⟩ | _, mem, is⟩ <;> cases is
  exact ⟨value, mem⟩

theorem names_file_iff {items : List Item} : Names items .file ↔ ∃ value, .file value ∈ items := by
  refine List.mem_map.trans ⟨?_, fun ⟨value, mem⟩ => ⟨_, mem, rfl⟩⟩
  rintro ⟨_ | _ | value, mem, is⟩ <;> cases is
  exact ⟨value, mem⟩

/-! ## The words of an item -/

/-- A word that is not taken for an option: it does not begin with a dash, or it is a lone dash. -/
def Unmarked (word : Bytes) : Prop := word.head? = some Bytes.dash → word = [Bytes.dash]

instance (word : Bytes) : Decidable (Unmarked word) :=
  inferInstanceAs (Decidable (word.head? = some Bytes.dash → word = [Bytes.dash]))

/-- The word of a switch. -/
def optionWord (switch : Switch) : Bytes := Bytes.ofString ("--" ++ switch.name)

/-- The word of a setting with its value attached. -/
def attachedWord (s : Setting) (value : Bytes) : Bytes :=
  optionWord (.setting s) ++ Bytes.equals :: value

/-- The word of the one flag that has a letter. -/
def letterWord : Bytes := Bytes.ofString "-v"

/-- The spellings of an item before the end of the options. -/
inductive Item.Spelled : Item → List Bytes → Prop where
  /-- `--lex`, and the others. -/
  | flag (f : Flag) : Spelled (.flag f) [optionWord (.flag f)]
  /-- `-v` -/
  | letter : Spelled (.flag .verbose) [letterWord]
  /-- `--cc=X` -/
  | attached (s : Setting) (value : Bytes) : Spelled (.setting s value) [attachedWord s value]
  /-- `--cc X` -/
  | detached (s : Setting) {value : Bytes} (unmarked : Unmarked value) :
      Spelled (.setting s value) [optionWord (.setting s), value]
  /-- An input that does not look like an option. -/
  | file {value : Bytes} (unmarked : Unmarked value) : Spelled (.file value) [value]

/-- Words that spell some items, one after the other. -/
inductive Spelled : List Item → List Bytes → Prop where
  | nil : Spelled [] []
  | cons {item : Item} {items : List Item} {words more : List Bytes} (first : item.Spelled words)
      (others : Spelled items more) : Spelled (item :: items) (words ++ more)

/-- Arguments that say some items: they spell them; or they spell the first of them, and after the
end of the options all that comes is an input, whatever it looks like. -/
inductive Says : List Bytes → List Item → Prop where
  | options {items : List Item} {words : List Bytes} (spelled : Spelled items words) :
      Says words items
  | inputs {items : List Item} {words : List Bytes} (spelled : Spelled items words)
      (values : List Bytes) : Says (words ++ endWord :: values) (items ++ values.map .file)

/-- One more item in front. -/
theorem Says.cons {item : Item} {items : List Item} {words more : List Bytes}
    (first : item.Spelled words) (others : Says more items) :
    Says (words ++ more) (item :: items) := by
  cases others with
  | options spelled => exact .options (.cons first spelled)
  | inputs spelled values =>
    rw [← List.append_assoc, ← List.cons_append]
    exact .inputs (.cons first spelled) values

/-! ## What the items must keep to -/

/-- Items that can be said together: none of them twice, and no value empty where that will not do.
-/
structure Consistent (items : List Item) : Prop where
  once : (items.map Item.subject).Nodup
  fits : ∀ item ∈ items, item.Fits

/-- Items that make a command line in an environment: there is an input, and the environment does not
give an empty backend where the items give none. -/
structure Admissible (items : List Item) (env : Environment) : Prop extends Consistent items where
  has_file : Names items .file
  environment : ¬ Names items (.setting .backend) →
    env.get? Setting.backend.variableName ≠ some []

theorem consistent_nil : Consistent [] := ⟨by simp, by simp⟩

/-- Items are consistent if some of them are and each of the others is about something new. -/
theorem consistent_concat_iff {items : List Item} {item : Item} :
    Consistent (items ++ [item]) ↔
      Consistent items ∧ ¬ Names items item.subject ∧ item.Fits := by
  have once : ((items ++ [item]).map Item.subject).Nodup ↔
      (items.map Item.subject).Nodup ∧ ¬ Names items item.subject := by
    rw [List.map_append, List.map_singleton, List.nodup_append]
    constructor
    · rintro ⟨before, -, apart⟩
      exact ⟨before, fun mem => apart _ mem _ List.mem_cons_self rfl⟩
    · rintro ⟨before, new⟩
      refine ⟨before, List.nodup_cons.2 ⟨List.not_mem_nil, List.nodup_nil⟩, ?_⟩
      intro subject mem other is
      rw [List.mem_singleton.1 is]
      rintro rfl
      exact new mem
  constructor
  · rintro ⟨nodup, fits⟩
    obtain ⟨before, new⟩ := once.1 nodup
    exact ⟨⟨before, fun i mem => fits i (List.mem_append_left _ mem)⟩, new,
      fits item (List.mem_append_right _ List.mem_cons_self)⟩
  · rintro ⟨⟨before, fits⟩, new, fit⟩
    refine ⟨once.2 ⟨before, new⟩, ?_⟩
    intro i mem
    rcases List.mem_append.1 mem with mem | mem
    · exact fits i mem
    · rwa [List.mem_singleton.1 mem]

/-- The first of some consistent items are consistent. -/
theorem Consistent.left {items more : List Item} (consistent : Consistent (items ++ more)) :
    Consistent items where
  once := consistent.once.sublist ((List.sublist_append_left items more).map _)
  fits item mem := consistent.fits item (List.mem_append_left _ mem)

/-! ## The looks of the words -/

/-- The words that look plain are the unmarked ones. -/
theorem ofBytes_eq_plain_iff {word : Bytes} :
    Argument.ofBytes word = .plain word ↔ Unmarked word := by
  match word with
  | [] => simp [Argument.ofBytes, Unmarked]
  | [b] => simp [Argument.ofBytes, Unmarked]
  | b :: c :: rest =>
    by_cases dash : b = Bytes.dash
    · subst dash
      simp only [Argument.ofBytes, Unmarked, List.head?_cons, List.cons.injEq, reduceCtorEq,
        and_false, imp_false, not_true, iff_false, ne_eq, if_false]
      split
      · simp
      · split
        · simp
        · split <;> simp
    · simp [Argument.ofBytes, Unmarked, dash]

theorem mem_all (switch : Switch) : switch ∈ Switch.all := by
  rcases switch with (_ | _ | _ | _ | _ | _ | _) | (_ | _) | _ | _ <;> decide

/-- The word of a switch looks like a long option. -/
theorem ofBytes_optionWord (switch : Switch) :
    Argument.ofBytes (optionWord switch) = .long (Bytes.ofString switch.name) none := by
  have all : ∀ switch ∈ Switch.all,
      Argument.ofBytes (optionWord switch) = .long (Bytes.ofString switch.name) none := by decide
  exact all switch (mem_all switch)

/-- The name of a switch is found again. -/
theorem ofName?_name (switch : Switch) :
    Switch.ofName? (Bytes.ofString switch.name) = some switch := by
  have all : ∀ switch ∈ Switch.all,
      Switch.ofName? (Bytes.ofString switch.name) = some switch := by decide
  exact all switch (mem_all switch)

/-- A switch is found by nothing but its name. -/
theorem optionWord_of_ofName? {name : Bytes} {switch : Switch}
    (found : Switch.ofName? name = some switch) :
    Bytes.dash :: Bytes.dash :: name = optionWord switch := by
  have named : Bytes.ofString switch.name = name := by simpa using List.find?_some found
  have all : ∀ switch ∈ Switch.all,
      Bytes.dash :: Bytes.dash :: Bytes.ofString switch.name = optionWord switch := by decide
  rw [← named]
  exact all switch (mem_all switch)

/-- A word looks like a long option with a value exactly if it is written so, with the first equals
sign between the two. -/
theorem ofBytes_eq_long_iff {word name value : Bytes} :
    Argument.ofBytes word = .long name (some value) ↔
      word = Bytes.dash :: Bytes.dash :: (name ++ Bytes.equals :: value) ∧ Bytes.equals ∉ name := by
  constructor
  · intro looks
    match word with
    | [] | [b] => simp [Argument.ofBytes] at looks
    | b :: c :: rest =>
      by_cases first : b = Bytes.dash
      · by_cases second : c = Bytes.dash
        · by_cases short : rest = []
          · simp [Argument.ofBytes, first, second, short] at looks
          · cases cut : Bytes.cut? Bytes.equals rest with
            | none => simp [Argument.ofBytes, first, second, short, cut] at looks
            | some parts =>
              simp only [Argument.ofBytes, first, second, ne_eq, not_true, if_false, short, cut]
                at looks
              cases looks
              obtain ⟨rfl, plain⟩ := Bytes.eq_of_cut? cut
              rw [first, second]
              exact ⟨rfl, plain⟩
        · simp [Argument.ofBytes, first, second] at looks
      · simp [Argument.ofBytes, first] at looks
  · rintro ⟨rfl, plain⟩
    simp [Argument.ofBytes, Bytes.cut?_append plain value]

/-- The word of a setting with its value looks like a long option with this value. -/
theorem ofBytes_attachedWord (s : Setting) (value : Bytes) :
    Argument.ofBytes (attachedWord s value) =
      .long (Bytes.ofString (Switch.setting s).name) (some value) := by
  refine ofBytes_eq_long_iff.2 ?_
  cases s with
  | cc | backend => exact ⟨rfl, by decide⟩

theorem ofBytes_letterWord : Argument.ofBytes letterWord = .group ['v'] [] := by decide

/-! ## Groups of letters -/

/-- After a whole character the reading stands at a start again. -/
theorem phase_of_step {phase next : Text.Utf8.Phase} {b : UInt8} {c : Char}
    (stepped : Text.Utf8.step phase b = ([some c], next)) : next = .start := by
  have of_first : ∀ {yield}, Text.Utf8.first b = (some c :: yield, next) → next = .start := by
    intro yield first
    unfold Text.Utf8.first at first
    split at first <;> simp_all
  cases phase with
  | start => exact of_first stepped
  | inside low high more value =>
    simp only [Text.Utf8.step] at stepped
    split at stepped
    · split at stepped <;> simp_all
    · simp at stepped

/-- A reading that meets no gap has read all. What is pending at a gap is not empty, since it starts
with the byte that has opened the gap. -/
theorem readFrom_of_go {phase : Text.Utf8.Phase} {pending s : Bytes} {letters : List Char}
    (some_pending : s ≠ [] ∨ phase ≠ .start → pending ≠ [])
    (whole : Text.Utf8.splitAtGap.go phase pending s = (letters, [])) :
    Text.Utf8.readFrom phase s = letters.map some := by
  induction s generalizing phase pending letters with
  | nil =>
    cases phase with
    | start =>
      cases whole
      rfl
    | inside low high more value =>
      cases whole
      exact absurd rfl (some_pending (.inr (by simp)))
  | cons b s ih =>
    rw [Text.Utf8.splitAtGap.go] at whole
    split at whole
    · rename_i next stepped
      have rest := ih (fun _ => some_pending (.inl (by simp))) whole
      cases phase <;> simp [Text.Utf8.readFrom, stepped, rest]
    · rename_i c next stepped
      have start := phase_of_step stepped
      obtain ⟨rfl, rest_whole⟩ := Prod.mk.inj whole
      have others : Text.Utf8.splitAtGap.go next s s = (_, []) := Prod.ext rfl rest_whole
      have rest := ih (by simp [start]) others
      cases phase <;> simp [Text.Utf8.readFrom, stepped, rest]
    · cases whole
      exact absurd rfl (some_pending (.inl (by simp)))

/-- What is read as letters to its end is the bytes of these letters. -/
theorem eq_of_splitAtGap {s : Bytes} {letters : List Char}
    (whole : Text.Utf8.splitAtGap s = (letters, [])) :
    s = letters.flatMap String.utf8EncodeChar := by
  have read : Text.Utf8.readFrom .start s = letters.map some :=
    readFrom_of_go (by simp) whole
  obtain ⟨cs, rfl⟩ := Text.Utf8.exists_flatMap s (by simp [read])
  have same : cs.map some = letters.map some := (Text.Utf8.read_flatMap cs).symm.trans read
  rw [(List.map_inj_right fun _ _ => Option.some.inj).1 same]

/-- A word that looks like nothing but letters is a dash and these letters, of which there is one at
least. -/
theorem eq_of_group {word : Bytes} {letters : List Char}
    (looks : Argument.ofBytes word = .group letters []) :
    word = Bytes.dash :: letters.flatMap String.utf8EncodeChar ∧ letters ≠ [] := by
  match word with
  | [] | [b] => simp [Argument.ofBytes] at looks
  | b :: c :: rest =>
    by_cases first : b = Bytes.dash
    · by_cases second : c = Bytes.dash
      · simp only [Argument.ofBytes, first, second, ne_eq, not_true, if_false] at looks
        split at looks
        · cases looks
        · split at looks <;> cases looks
      · simp only [Argument.ofBytes, first, second, ne_eq, not_true, if_false, not_false_eq_true,
          if_true, Argument.group.injEq] at looks
        have eq := eq_of_splitAtGap (Prod.ext looks.1 looks.2)
        refine ⟨by rw [first, eq], ?_⟩
        rintro rfl
        cases eq
    · simp [Argument.ofBytes, first] at looks

end CompilerDriver.CommandLine
