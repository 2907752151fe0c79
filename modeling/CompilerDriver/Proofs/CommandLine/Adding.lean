import CompilerDriver.Proofs.CommandLine.Grammar

/-!
# Reading a command line item by item

* `TakesUp` — a step that may as well be made after what is pending has been taken up.
  `takesUp_finish`: reading on is such a step, unless a value is still to come. So a reading need
  only be looked at between two items.
* `Reading.add` — takes up one item as a whole. Reading is adding: `finish_item` says it of the words
  of one item, with anything after them, and `finish_items` of the words of many.
* `Holds` — a reading holds what some items say. An item can be added if it is about something new
  and fits (`add_eq_ok_iff`).
* `readAll_of_said` — **arguments that say some items are read to their end if the items are
  consistent**, and then the reading holds what they say.
-/

namespace CompilerDriver.CommandLine

namespace Reading

variable {r r' m : Reading} {arguments more words : List Bytes} {item : Item} {items : List Item}

/-- Takes up an item. -/
def add (r : Reading) : Item → Except Ending Reading
  | .flag f => r.apply (.flag f)
  | .setting s value => r.give s value
  | .file value => do (← r.readFile value).settle

/-- Reads some arguments to their end. -/
def finish (r : Reading) (arguments : List Bytes) : Except Ending Reading := do
  (← arguments.foldlM read r).settle

theorem finish_cons_eq_ok_iff {a : Bytes} :
    r.finish (a :: more) = .ok r' ↔ ∃ next, r.read a = .ok next ∧ next.finish more = .ok r' := by
  simp only [finish, List.foldlM_cons, bind_eq_ok_iff]
  constructor
  · rintro ⟨last, ⟨next, first, others⟩, ok⟩
    exact ⟨next, first, last, others, ok⟩
  · rintro ⟨next, first, last, others, ok⟩
    exact ⟨last, ⟨next, first, others⟩, ok⟩

/-! ## Taking up what is pending -/

/-- With nothing pending there is nothing to take up. -/
theorem settle_of_none (rests : r.pending = none) : r.settle = .ok r := by
  obtain ⟨flags, cc, backend, file, pending, escaped⟩ := r
  cases rests
  rfl

theorem finish_nil (rests : r.pending = none) : r.finish [] = .ok r := settle_of_none rests

/-- Giving a setting its value changes nothing else. -/
theorem of_give {s : Setting} {value : Bytes} (ok : r.give s value = .ok m) :
    m.pending = r.pending ∧ m.file = r.file ∧ m.flags = r.flags ∧ m.escaped = r.escaped := by
  unfold give at ok
  split at ok
  · cases ok
  · split at ok
    · cases ok
    · cases s with
      | cc | backend =>
        cases ok
        exact ⟨rfl, rfl, rfl, rfl⟩

/-- After what was pending has been taken up nothing is, and an input has been named if one was. -/
theorem of_settle (ok : r.settle = .ok m) :
    m.pending = none ∧ m.hasFile = r.hasFile ∧ m.flags = r.flags ∧ m.escaped = r.escaped := by
  unfold settle at ok
  simp only at ok
  split at ok
  · rename_i rests
    cases ok
    exact ⟨rfl, by simp [hasFile, rests], rfl, rfl⟩
  · cases ok
  · rename_i given
    obtain ⟨pending, file, flags, escaped⟩ := of_give ok
    exact ⟨pending, by simp [hasFile, pending, file, given], flags, escaped⟩
  · rename_i named
    split at ok
    · cases ok
    · cases ok
      exact ⟨rfl, by simp [hasFile, named], rfl, rfl⟩

/-- A step that works on a reading as it does once what is pending has been taken up. Which error is
found first may differ. -/
def TakesUp (step : Reading → Except Ending Reading) (r : Reading) : Prop :=
  ∀ r', step r = .ok r' ↔ ∃ m, r.settle = .ok m ∧ step m = .ok r'

/-- A step that takes up what is pending, and then does something. -/
theorem takesUp_of_settle {step next : Reading → Except Ending Reading}
    (shape : ∀ r, step r = r.settle >>= next) (r : Reading) : TakesUp step r := by
  intro r'
  rw [shape, bind_eq_ok_iff]
  refine exists_congr fun m => and_congr_right fun taken => ?_
  rw [shape, settle_of_none (of_settle taken).1]
  rfl

theorem TakesUp.bind {step : Reading → Except Ending Reading} (takes : TakesUp step r)
    (next : Reading → Except Ending Reading) : TakesUp (fun r => step r >>= next) r := by
  intro r'
  simp only [bind_eq_ok_iff, takes _]
  constructor
  · rintro ⟨last, ⟨m, taken, first⟩, ok⟩
    exact ⟨m, taken, last, first, ok⟩
  · rintro ⟨m, taken, last, first, ok⟩
    exact ⟨last, ⟨m, taken, first⟩, ok⟩

theorem TakesUp.congr {step step' : Reading → Except Ending Reading} (takes : TakesUp step r)
    (same : step' r = step r) (same' : ∀ m, r.settle = .ok m → step' m = step m) :
    TakesUp step' r := by
  intro r'
  rw [same, takes]
  refine exists_congr fun m => and_congr_right fun taken => ?_
  rw [same' m taken]

theorem takesUp_apply (switch : Switch) (r : Reading) : TakesUp (·.apply switch) r :=
  takesUp_of_settle (fun _ => rfl) r

theorem takesUp_readLetter (c : Char) (r : Reading) : TakesUp (·.readLetter c) r := by
  unfold readLetter
  split
  · exact takesUp_apply _ r
  · intro r'
    simp

theorem takesUp_readFile (value : Bytes) (r : Reading) : TakesUp (·.readFile value) r := by
  by_cases named : r.hasFile = true
  · intro r'
    simp only [readFile, named, if_true, reduceCtorEq, false_iff]
    rintro ⟨m, taken, ok⟩
    simp [(of_settle taken).2.1, named] at ok
  · have takes : TakesUp
        (fun r => r.settle >>= fun r => .ok { r with pending := some (.file value) }) r :=
      takesUp_of_settle (fun _ => rfl) r
    refine takes.congr ?_ fun m taken => ?_
    · rw [readFile, if_neg named]
    · rw [readFile, if_neg (by rwa [(of_settle taken).2.1])]

theorem takesUp_readLong (name : Bytes) (value : Option Bytes) (r : Reading) :
    TakesUp (·.readLong name value) r := by
  unfold readLong
  split
  · intro r'
    simp
  · exact takesUp_of_settle (fun _ => rfl) r
  · exact takesUp_apply _ r
  · intro r'
    simp

theorem takesUp_readGroup {letters : List Char} {rest : Bytes}
    (something : rest = [] → letters ≠ []) (r : Reading) :
    TakesUp (·.readGroup letters rest) r := by
  cases letters with
  | nil =>
    have stray : rest ≠ [] := fun nothing => something nothing rfl
    intro r'
    simp [readGroup, stray]
  | cons c letters =>
    have first := (takesUp_readLetter c r).bind (·.readGroup letters rest)
    refine first.congr ?_ fun m _ => ?_ <;>
    simp only [readGroup, List.foldlM_cons, bind_assoc]

/-- The end of the options is noted, whether something is pending or not. -/
theorem settle_escaped (r : Reading) :
    ({ r with escaped := true } : Reading).settle =
      r.settle.map fun m => { m with escaped := true } := by
  obtain ⟨flags, cc, backend, file, pending, escaped⟩ := r
  rcases pending with _ | ⟨s, _ | value⟩ | value
  · rfl
  · rfl
  · cases s with
    | cc | backend =>
      simp only [settle, give, value?]
      split
      · rfl
      · split <;> rfl
  · simp only [settle]
    split <;> rfl

/-- A reading that waits for the value of a setting. After the end of the options none will come. -/
def Waits (r : Reading) : Prop := (∃ s, r.pending = some (.setting s none)) ∧ r.escaped = false

/-- **What is pending may be taken up before the next argument is read**, unless it has yet to get
its value. -/
theorem takesUp_finish (arguments : List Bytes) (ready : ¬ r.Waits) :
    TakesUp (·.finish arguments) r := by
  induction arguments generalizing r with
  | nil =>
    have shape : ∀ r : Reading, r.finish [] = r.settle >>= .ok := fun r => (bind_pure r.settle).symm
    exact takesUp_of_settle shape r
  | cons a arguments ih =>
    -- It is enough that reading the one argument takes up what is pending.
    have of_read (takes : TakesUp (·.read a) r) : TakesUp (·.finish (a :: arguments)) r := by
      refine (takes.bind (·.finish arguments)).congr ?_ fun m _ => ?_ <;>
      simp only [finish, List.foldlM_cons, bind_assoc]
    by_cases escaped : r.escaped = true
    · refine of_read ((takesUp_readFile a r).congr ?_ fun m taken => ?_)
      · rw [read, if_pos escaped]
      · rw [read, if_pos ((of_settle taken).2.2.2.trans escaped)]
    · have options : ∀ m, r.settle = .ok m → ¬ m.escaped = true := by
        intro m taken
        rwa [(of_settle taken).2.2.2]
      rcases ofBytes_cases a with ⟨looks, -⟩ | ⟨name, looks, -⟩ | ⟨name, value, looks⟩ |
        ⟨letters, rest, looks⟩ | looks
      · have ended := ih (r := { r with escaped := true }) fun waits => by cases waits.2
        intro r'
        have step : ∀ m : Reading, ¬ m.escaped = true →
            (m.finish (a :: arguments) = .ok r' ↔
              ({ m with escaped := true } : Reading).finish arguments = .ok r') := by
          intro m options
          rw [finish_cons_eq_ok_iff, read, if_neg options, looks]
          simp
        rw [step r escaped, ended r', settle_escaped]
        cases taken : r.settle with
        | error e => simp [Except.map]
        | ok m => simp [Except.map, step m (options m taken)]
      · refine of_read ((takesUp_readLong name none r).congr ?_ fun m taken => ?_)
        · rw [read, if_neg escaped, looks]
        · rw [read, if_neg (options m taken), looks]
      · refine of_read ((takesUp_readLong name (some value) r).congr ?_ fun m taken => ?_)
        · rw [read, if_neg escaped, looks]
        · rw [read, if_neg (options m taken), looks]
      · have something : rest = [] → letters ≠ [] := by
          rintro rfl
          exact (eq_of_group looks).2
        refine of_read ((takesUp_readGroup something r).congr ?_ fun m taken => ?_)
        · rw [read, if_neg escaped, looks]
        · rw [read, if_neg (options m taken), looks]
      · refine of_read ((takesUp_readFile a r).congr ?_ fun m taken => ?_)
        · simp only [read, if_neg escaped, looks]
          split
          · rename_i s waits
            exact absurd ⟨⟨s, waits⟩, by simpa using escaped⟩ ready
          · rfl
        · simp only [read, if_neg (options m taken), looks, (of_settle taken).1]

/-! ## Reading the words of an item -/

theorem read_optionWord (switch : Switch) (options : r.escaped = false) :
    r.read (optionWord switch) = r.apply switch := by
  rw [read, if_neg (by simp [options]), ofBytes_optionWord]
  simp only [readLong, ofName?_name]

theorem read_letterWord (options : r.escaped = false) :
    r.read letterWord = r.apply (.flag .verbose) := by
  have found : Switch.ofLetter? 'v' = some (.flag .verbose) := by decide
  rw [read, if_neg (by simp [options]), ofBytes_letterWord]
  simp only [readGroup, List.foldlM_cons, List.foldlM_nil, readLetter, found, bind_pure, if_true]
  exact bind_pure _

theorem read_attachedWord (s : Setting) (value : Bytes) (rests : r.pending = none)
    (options : r.escaped = false) : r.read (attachedWord s value) = r.give s value := by
  rw [read, if_neg (by simp [options]), ofBytes_attachedWord]
  simp only [readLong, ofName?_name, settle_of_none rests]
  rfl

theorem read_unmarked {value : Bytes} (unmarked : Unmarked value) (ready : ¬ r.Waits)
    (options : r.escaped = false) : r.read value = r.readFile value := by
  rw [read, if_neg (by simp [options]), ofBytes_eq_plain_iff.2 unmarked]
  simp only
  split
  · rename_i s waits
    exact absurd ⟨⟨s, waits⟩, options⟩ ready
  · rfl

/-- A word that is not taken for an option is the value that a reading waits for. -/
theorem read_of_waits {s : Setting} {value : Bytes} (unmarked : Unmarked value)
    (waits : r.pending = some (.setting s none)) (options : r.escaped = false) :
    r.read value = .ok { r with pending := some (.setting s (some value)) } := by
  rw [read, if_neg (by simp [options]), ofBytes_eq_plain_iff.2 unmarked]
  simp only [waits]

theorem not_waits_of_none (rests : r.pending = none) : ¬ r.Waits := by
  rintro ⟨⟨s, waits⟩, -⟩
  rw [rests] at waits
  cases waits

/-- A reading that goes on after an input has been named goes on after it has been taken up. -/
theorem readFile_finish (value : Bytes) :
    (∃ next, r.readFile value = .ok next ∧ next.finish more = .ok r') ↔
      ∃ m, r.add (.file value) = .ok m ∧ m.finish more = .ok r' := by
  have ready : ∀ next, r.readFile value = .ok next → ¬ next.Waits := by
    intro next ok
    unfold readFile at ok
    split at ok
    · cases ok
    · obtain ⟨settled, -, ok⟩ := bind_eq_ok_iff.1 ok
      cases ok
      rintro ⟨⟨s, waits⟩, -⟩
      cases waits
  simp only [add, bind_eq_ok_iff]
  constructor
  · rintro ⟨next, named, ok⟩
    obtain ⟨m, taken, ok⟩ := (takesUp_finish more (ready next named) r').1 ok
    exact ⟨m, ⟨next, named, taken⟩, ok⟩
  · rintro ⟨m, ⟨next, named, taken⟩, ok⟩
    exact ⟨next, named, (takesUp_finish more (ready next named) r').2 ⟨m, taken, ok⟩⟩

/-- **Reading the words of an item is adding the item.** -/
theorem finish_item (spelled : item.Spelled words) (rests : r.pending = none)
    (options : r.escaped = false) :
    r.finish (words ++ more) = .ok r' ↔
      ∃ m, r.add item = .ok m ∧ m.finish more = .ok r' := by
  cases spelled with
  | flag f => rw [List.singleton_append, finish_cons_eq_ok_iff, read_optionWord _ options, add]
  | letter => rw [List.singleton_append, finish_cons_eq_ok_iff, read_letterWord options, add]
  | attached s value =>
    rw [List.singleton_append, finish_cons_eq_ok_iff, read_attachedWord s value rests options, add]
  | @detached s value unmarked =>
    have waits : r.apply (.setting s) = .ok { r with pending := some (.setting s none) } := by
      rw [apply, settle_of_none rests]
      rfl
    have given : ({ r with pending := some (.setting s (some value)) } : Reading).settle =
        r.give s value := by
      obtain ⟨flags, cc, backend, file, pending, escaped⟩ := r
      cases rests
      rfl
    have ready : ¬ ({ r with pending := some (.setting s (some value)) } : Reading).Waits := by
      rintro ⟨⟨s', waits⟩, -⟩
      cases waits
    have read := read_of_waits (r := { r with pending := some (.setting s none) }) unmarked rfl
      options
    simp only [List.cons_append, List.nil_append, finish_cons_eq_ok_iff, read_optionWord _ options,
      waits, Except.ok.injEq, exists_eq_left', read]
    rw [takesUp_finish more ready r', given, add]
  | file unmarked =>
    rw [List.singleton_append, finish_cons_eq_ok_iff,
      read_unmarked unmarked (not_waits_of_none rests) options]
    exact readFile_finish _

/-! ## Reading arguments that say some items -/

/-- After an item has been added nothing is pending. -/
theorem of_add (rests : r.pending = none) (ok : r.add item = .ok m) :
    m.pending = none ∧ m.escaped = r.escaped := by
  cases item with
  | flag f =>
    simp only [add, apply, settle_of_none rests] at ok
    obtain ⟨settled, taken, ok⟩ := bind_eq_ok_iff.1 ok
    cases taken
    split at ok
    · cases ok
    · cases ok
      exact ⟨rests, rfl⟩
  | setting s value =>
    obtain ⟨pending, -, -, escaped⟩ := of_give ok
    exact ⟨pending.trans rests, escaped⟩
  | file value =>
    obtain ⟨next, named, taken⟩ := bind_eq_ok_iff.1 ok
    obtain ⟨pending, -, -, escaped⟩ := of_settle taken
    exact ⟨pending, escaped.trans (keeps_readFile named).escaped⟩

/-- Reading the words of some items is adding them. -/
theorem finish_items (spelled : Spelled items words) (rests : r.pending = none)
    (options : r.escaped = false) :
    r.finish (words ++ more) = .ok r' ↔
      ∃ m, items.foldlM add r = .ok m ∧ m.finish more = .ok r' := by
  induction spelled generalizing r with
  | nil =>
    simp only [List.nil_append, List.foldlM_nil, pure, Except.pure, Except.ok.injEq,
      exists_eq_left']
  | cons first others ih =>
    rw [List.append_assoc, finish_item first rests options]
    simp only [List.foldlM_cons, bind_eq_ok_iff]
    constructor
    · rintro ⟨next, added, ok⟩
      obtain ⟨pending, escaped⟩ := of_add rests added
      obtain ⟨m, rest, ok⟩ := (ih pending (escaped.trans options)).1 ok
      exact ⟨m, ⟨next, added, rest⟩, ok⟩
    · rintro ⟨m, ⟨next, added, rest⟩, ok⟩
      obtain ⟨pending, escaped⟩ := of_add rests added
      exact ⟨next, added, (ih pending (escaped.trans options)).2 ⟨m, rest, ok⟩⟩

/-- Of what has been added, nothing is pending. -/
theorem of_adds (rests : r.pending = none) (ok : items.foldlM add r = .ok m) :
    m.pending = none ∧ m.escaped = r.escaped := by
  induction items generalizing r with
  | nil =>
    cases ok
    exact ⟨rests, rfl⟩
  | cons item items ih =>
    rw [List.foldlM_cons] at ok
    obtain ⟨next, added, ok⟩ := bind_eq_ok_iff.1 ok
    obtain ⟨pending, escaped⟩ := of_add rests added
    obtain ⟨pending', escaped'⟩ := ih pending ok
    exact ⟨pending', escaped'.trans escaped⟩

/-- After the end of the options every argument is an input. -/
theorem finish_inputs (values : List Bytes) (rests : r.pending = none)
    (escaped : r.escaped = true) :
    r.finish values = .ok r' ↔ (values.map Item.file).foldlM add r = .ok r' := by
  induction values generalizing r with
  | nil => rw [finish_nil rests]; rfl
  | cons value values ih =>
    have read : r.read value = r.readFile value := by rw [read, if_pos escaped]
    rw [finish_cons_eq_ok_iff, read, readFile_finish, List.map_cons, List.foldlM_cons,
      bind_eq_ok_iff]
    refine exists_congr fun next => and_congr_right fun added => ?_
    obtain ⟨pending', escaped'⟩ := of_add rests added
    exact ih pending' (escaped'.trans escaped)

/-! ## What a reading holds -/

/-- A reading holds what some items say. -/
structure Holds (items : List Item) (r : Reading) : Prop where
  flags : ∀ f, f ∈ r.flags ↔ .flag f ∈ items
  settings : ∀ s value, r.value? s = some value ↔ .setting s value ∈ items
  file : ∀ value, r.file = some value ↔ .file value ∈ items
  rests : r.pending = none

theorem holds_nil : Holds [] {} where
  flags := by simp
  settings s value := by cases s <;> simp [value?]
  file := by simp
  rests := rfl

theorem Holds.named_setting_iff (holds : Holds items r) {s : Setting} :
    Names items (.setting s) ↔ r.value? s ≠ none := by
  rw [names_setting_iff, Option.ne_none_iff_exists']
  exact exists_congr fun value => (holds.settings s value).symm

theorem Holds.named_file_iff (holds : Holds items r) : Names items .file ↔ r.file ≠ none := by
  rw [names_file_iff, Option.ne_none_iff_exists']
  exact exists_congr fun value => (holds.file value).symm

/-- The end of the options says nothing. -/
theorem Holds.escaped (holds : Holds items r) : Holds items { r with escaped := true } where
  flags := holds.flags
  settings s value := by
    rw [← holds.settings s value]
    cases s <;> rfl
  file := holds.file
  rests := holds.rests

/-- A reading that also holds what an item says. -/
def put (r : Reading) : Item → Reading
  | .flag f => { r with flags := r.flags ++ [f] }
  | .setting .cc value => { r with cc := some value }
  | .setting .backend value => { r with backend := some value }
  | .file value => { r with file := some value }

/-- **An item is added if it is about something new and fits.** -/
theorem add_eq_ok_iff (holds : Holds items r) :
    r.add item = .ok m ↔ ¬ Names items item.subject ∧ item.Fits ∧ r.put item = m := by
  cases item with
  | flag f =>
    have named : Names items (.flag f) ↔ f ∈ r.flags := names_flag_iff.trans (holds.flags f).symm
    simp only [add, apply, settle_of_none holds.rests, Item.subject, Item.Fits, named, put]
    by_cases mem : f ∈ r.flags <;> simp [bind, Except.bind, mem]
  | setting s value =>
    have named : Names items (.setting s) ↔ (r.value? s).isSome := by
      rw [holds.named_setting_iff, Option.isSome_iff_ne_none]
    have fits : (Item.setting s value).Fits ↔ ¬ (value = [] ∧ !s.takesEmpty) := by
      simp [Item.Fits]
    simp only [add, give, Item.subject, named, fits]
    by_cases given : (r.value? s).isSome = true
    · simp [given]
    · rw [if_neg given]
      by_cases empty : value = [] ∧ (!s.takesEmpty) = true
      · simp [empty]
      · rw [if_neg empty]
        simp only [given, empty, not_false_eq_true, true_and, Bool.false_eq_true]
        cases s <;> simp [put]
  | file value =>
    have named : Names items .file ↔ r.hasFile := by
      simp only [names_file_iff, hasFile, holds.rests, Bool.or_false, Option.isSome_iff_exists]
      exact exists_congr fun v => (holds.file v).symm
    simp only [add, readFile, settle_of_none holds.rests, Item.subject, Item.Fits, named, put]
    by_cases given : r.hasFile = true
    · simp [bind, Except.bind, given]
    · by_cases empty : value = [] <;>
      simp [bind, Except.bind, given, settle, empty, holds.rests]

/-- After an item has been added a reading holds that as well. -/
theorem Holds.put (holds : Holds items r) (new : ¬ Names items item.subject) :
    Holds (items ++ [item]) (r.put item) := by
  cases item with
  | flag f =>
    refine ⟨fun f' => ?_, fun s value => ?_, fun value => ?_, holds.rests⟩
    · simp [Reading.put, holds.flags]
    · have := holds.settings s value
      cases s <;> simpa [Reading.put, value?] using this
    · simpa [Reading.put] using holds.file value
  | setting s given =>
    have absent : ∀ value, .setting s value ∉ items := fun value mem =>
      new (names_setting_iff.2 ⟨value, mem⟩)
    refine ⟨fun f => ?_, fun s' value => ?_, fun value => ?_, ?_⟩
    · cases s <;> simpa [Reading.put] using holds.flags f
    · have := holds.settings s' value
      have := absent value
      cases s <;> cases s' <;> simp_all [Reading.put, value?, eq_comm]
    · cases s <;> simpa [Reading.put] using holds.file value
    · cases s <;> exact holds.rests
  | file given =>
    have absent : ∀ value, .file value ∉ items := fun value mem =>
      new (names_file_iff.2 ⟨value, mem⟩)
    refine ⟨fun f => ?_, fun s value => ?_, fun value => ?_, holds.rests⟩
    · simpa [Reading.put] using holds.flags f
    · have := holds.settings s value
      cases s <;> simpa [Reading.put, value?] using this
    · simp [Reading.put, absent, eq_comm]

/-- **Items are added if they are consistent, with those before them**, and then the reading holds
what all of them say. -/
theorem adds_eq_ok_iff (items : List Item) {before : List Item} (holds : Holds before r)
    (consistent : Consistent before) :
    ((∃ m, items.foldlM add r = .ok m) ↔ Consistent (before ++ items)) ∧
      ∀ m, items.foldlM add r = .ok m → Holds (before ++ items) m := by
  induction items generalizing before r with
  | nil =>
    simp only [List.foldlM_nil, List.append_nil, consistent, iff_true]
    refine ⟨⟨r, rfl⟩, ?_⟩
    rintro m ⟨⟩
    exact holds
  | cons item items ih =>
    have split : before ++ item :: items = before ++ [item] ++ items := by simp
    by_cases add : ¬ Names before item.subject ∧ item.Fits
    · have added : r.add item = .ok (r.put item) := (add_eq_ok_iff holds).2 ⟨add.1, add.2, rfl⟩
      rw [split, List.foldlM_cons, added]
      exact ih (holds.put add.1) (consistent_concat_iff.2 ⟨consistent, add⟩)
    · have refused : ∀ m, (item :: items).foldlM Reading.add r ≠ .ok m := by
        intro m ok
        rw [List.foldlM_cons] at ok
        obtain ⟨next, added, -⟩ := bind_eq_ok_iff.1 ok
        obtain ⟨new, fits, -⟩ := (add_eq_ok_iff holds).1 added
        exact add ⟨new, fits⟩
      refine ⟨iff_of_false ?_ ?_, fun m ok => absurd ok (refused m)⟩
      · rintro ⟨m, ok⟩
        exact refused m ok
      · intro all
        rw [split] at all
        exact add (consistent_concat_iff.1 all.left).2

/-- **Arguments that say some items are read to their end if the items are consistent**, and then the
reading holds what they say. -/
theorem readAll_of_said (said : Says arguments items) :
    ((∃ r, readAll arguments = .ok r) ↔ Consistent items) ∧
      ∀ r, readAll arguments = .ok r → Holds items r := by
  have readAll_eq : readAll arguments = finish {} arguments := rfl
  rw [readAll_eq]
  clear readAll_eq
  cases said with
  | options spelled =>
    obtain ⟨accepted, holds⟩ := adds_eq_ok_iff items holds_nil consistent_nil
    have same : ∀ r, finish {} arguments = .ok r ↔ items.foldlM add {} = .ok r := by
      intro r
      have read : finish {} (arguments ++ []) = .ok r ↔
          ∃ m, items.foldlM add {} = .ok m ∧ m.finish [] = .ok r := finish_items spelled rfl rfl
      rw [List.append_nil] at read
      rw [read]
      constructor
      · rintro ⟨m, added, ok⟩
        rw [finish_nil (of_adds rfl added).1] at ok
        cases ok
        exact added
      · intro added
        exact ⟨r, added, finish_nil (of_adds rfl added).1⟩
    simp only [same]
    exact ⟨accepted, holds⟩
  | @inputs items words spelled values =>
    have ended (m : Reading) (options : m.escaped = false) :
        m.read endWord = .ok { m with escaped := true } := by
      rw [read, if_neg (by simp [options]), ofBytes_endWord]
    have same : ∀ r, finish {} (words ++ endWord :: values) = .ok r ↔
        ∃ m, items.foldlM add {} = .ok m ∧
          (values.map Item.file).foldlM add { m with escaped := true } = .ok r := by
      intro r
      rw [finish_items (r := {}) spelled rfl rfl]
      refine exists_congr fun m => and_congr_right fun added => ?_
      obtain ⟨rests, options⟩ := of_adds rfl added
      rw [finish_cons_eq_ok_iff, ended m options]
      simp only [Except.ok.injEq, exists_eq_left']
      exact finish_inputs values rests rfl
    obtain ⟨first, holds⟩ := adds_eq_ok_iff items holds_nil consistent_nil
    simp only [List.nil_append] at first holds
    have others (m : Reading) (added : items.foldlM add {} = .ok m) :=
      adds_eq_ok_iff (values.map Item.file) (holds m added).escaped
        (first.1 ⟨m, added⟩)
    simp only [same]
    constructor
    · constructor
      · rintro ⟨r, m, added, ok⟩
        exact (others m added).1.1 ⟨r, ok⟩
      · intro consistent
        obtain ⟨m, added⟩ := first.2 consistent.left
        obtain ⟨r, ok⟩ := (others m added).1.2 consistent
        exact ⟨r, m, added, ok⟩
    · rintro r ⟨m, added, ok⟩
      exact (others m added).2 r ok

end Reading

end CompilerDriver.CommandLine
