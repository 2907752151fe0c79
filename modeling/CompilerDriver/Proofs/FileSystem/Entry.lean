import CompilerDriver.Proofs.FileSystem.Walk
import CompilerDriver.Proofs.Path.FileName

/-!
# The entry that a path names

* `Names` — a path names a location: the entry it ends in is to stand there, whether there is one or
  not. Whatever a path names **ends in the path's file name** (`Names.head`), so paths with
  different file names never name the same entry.
* `slotFrom_eq_entry_iff` and `locate_bare_iff` — what is checked before a path ends in an entry.
* `locate_of_isFile` and `entry_of_isFile` — **a path that leads to a regular file names an entry
  that is there**, a file or a link, and no slash comes after it.
-/

namespace CompilerDriver.FileSystem

variable {fs : FileSystem}

/-- The path ends in the name of that entry, whether the entry is there or not. -/
def Names (fs : FileSystem) (p : Path) (l : Location) : Prop :=
  ∃ directory name slashAfter,
    fs.locate p = .ok (.entry directory name slashAfter) ∧ l = name :: directory

/-- Dropping more goes on where dropping less has ended. -/
theorem dropWhile_of_imp {α : Type} {p q : α → Bool} (imp : ∀ a, p a = true → q a = true)
    (xs : List α) : (xs.dropWhile p).dropWhile q = xs.dropWhile q := by
  induction xs with
  | nil => rfl
  | cons x xs ih =>
    by_cases h : p x = true
    · simp only [List.dropWhile_cons, h, imp x h, if_true, ih]
    · simp only [List.dropWhile_cons, h, if_false, Bool.false_eq_true]

/-- Where the empty segments have been dropped there is none in front. -/
theorem ne_nil_of_dropWhile {segments before : List Bytes} {name : Bytes}
    (shape : segments.dropWhile (fun s => s = []) = name :: before) : name ≠ [] := by
  have := List.head?_dropWhile_not (fun s : Bytes => decide (s = [])) segments
  rw [shape] at this
  simpa using this

/-- What is checked before segments end in an entry: the walk arrives in its directory, which is
there, and the name is the last of the segments that leads anywhere. -/
theorem slotFrom_eq_entry_iff {l : Location} {segments : List Bytes} {directory : Location}
    {name : Bytes} {slashAfter : Bool} :
    fs.slotFrom l segments = .ok (.entry directory name slashAfter) ↔
      ∃ before, segments.reverse.dropWhile (fun s => s = []) = name :: before ∧
        fs.walk linkLimit l before.reverse = .ok directory ∧ fs.canStandIn directory = true ∧
        name ≠ Path.hereSegment ∧ name ≠ Path.upSegment ∧ fs.get? directory ≠ none ∧
        name.length ≤ nameLimit ∧ slashAfter = decide (segments.getLast? = some []) := by
  unfold slotFrom
  constructor
  · intro slot
    split at slot
    · cases slot
    · rename_i last before shape
      rcases walked : fs.walk linkLimit l before.reverse with e | d
      · rw [walked] at slot
        cases slot
      · simp only [walked, bind, Except.bind] at slot
        split at slot
        · cases slot
        · split at slot
          · cases slot
          · split at slot
            · cases slot
            · split at slot
              · cases slot
              · cases slot
                exact ⟨before, shape, walked, by simp_all⟩
  · rintro ⟨before, shape, walked, stands, here, up, there, short, rfl⟩
    rw [shape]
    simp only [walked, bind, Except.bind, stands, here, up]
    simp [there, Nat.not_lt.2 short]

/-- A path is located when the operating system takes it and its segments end in something. -/
theorem locate_eq_ok_iff {p : Path} {slot : Slot} :
    fs.locate p = .ok slot ↔
      accept p = .ok () ∧ fs.slotFrom (startOf fs.cwd p) p.segments = .ok slot := by
  unfold locate
  rcases accept p with cause | ⟨⟩ <;>
  rcases fs.slotFrom (startOf fs.cwd p) p.segments with e | found <;>
  simp [bind, Except.bind]

/-- A path is resolved when the operating system takes it and the walk along it arrives. -/
theorem resolve_eq_ok_iff {p : Path} {l : Location} :
    fs.resolve p = .ok l ↔
      accept p = .ok () ∧ fs.walk linkLimit (startOf fs.cwd p) p.segments = .ok l := by
  unfold resolve
  rcases accept p with cause | ⟨⟩ <;>
  rcases fs.walk linkLimit (startOf fs.cwd p) p.segments with e | found <;>
  simp [bind, Except.bind]

/-- The operating system takes a path if it has no zero byte, is not empty and not too long. -/
theorem accept_eq_ok_iff {p : Path} :
    accept p = .ok () ↔ 0 ∉ p.bytes ∧ p.bytes ≠ [] ∧ p.bytes.length ≤ pathLimit := by
  unfold accept
  split
  · simp_all
  · split
    · simp_all
    · split
      · simp_all
      · simp_all

/-- A path ends in an entry with no slash after it when its last segment is a name and those before
lead to the directory of the entry. -/
theorem locate_bare_iff {p : Path} {directory : Location} {name : Bytes} :
    fs.locate p = .ok (.entry directory name false) ↔
      accept p = .ok () ∧ ∃ before, p.segments = (name :: before).reverse ∧
        fs.Leads directory linkLimit (startOf fs.cwd p) before.reverse ∧
        fs.canStandIn directory = true ∧ ¬ Path.IsIdle name ∧ name ≠ Path.upSegment ∧
        fs.get? directory ≠ none ∧ name.length ≤ nameLimit := by
  rw [locate_eq_ok_iff, slotFrom_eq_entry_iff]
  refine and_congr_right fun _ => ?_
  constructor
  · rintro ⟨before, shape, walked, stands, here, up, there, short, slash⟩
    have nonempty : name ≠ [] := ne_nil_of_dropWhile shape
    have bare : p.segments.reverse = name :: before := by
      rw [← shape]
      have last : p.segments.reverse.head? ≠ some [] := by
        rw [List.head?_reverse]
        exact of_decide_eq_false slash.symm
      generalize p.segments.reverse = reversed at last ⊢
      cases reversed with
      | nil => rfl
      | cons s rest =>
        rw [List.dropWhile_cons_of_neg]
        simpa using last
    refine ⟨before, ?_, leads_iff.1 walked, stands, ?_, up, there, short⟩
    · rw [← bare, List.reverse_reverse]
    · rintro (empty | dot)
      · exact nonempty empty
      · exact here dot
  · rintro ⟨before, segments, leads, stands, busy, up, there, short⟩
    simp only [Path.IsIdle, not_or] at busy
    refine ⟨before, ?_, leads_iff.2 leads, stands, busy.2, up, there, short, ?_⟩
    · simp [segments, busy.1]
    · simp [segments, busy.1]

/-- The name of the entry that a path ends in is the file name of the path. -/
theorem fileName?_of_locate {p : Path} {directory : Location} {name : Bytes} {slashAfter : Bool}
    (located : fs.locate p = .ok (.entry directory name slashAfter)) : p.fileName? = some name := by
  obtain ⟨before, shape, -, -, here, up, -⟩ :=
    slotFrom_eq_entry_iff.1 (locate_eq_ok_iff.1 located).2
  have nonempty : name ≠ [] := ne_nil_of_dropWhile shape
  have leading : p.leading = name :: before := by
    rw [Path.leading, ← dropWhile_of_imp (p := fun s => decide (s = [])), shape]
    · simp [Path.IsIdle, nonempty, here]
    · intro s empty
      simp_all [Path.IsIdle]
  simp [Path.fileName?, leading, up]

/-- A path that ends in an entry names no other. -/
theorem names_iff_of_locate {p : Path} {directory : Location} {name : Bytes} {slashAfter : Bool}
    (located : fs.locate p = .ok (.entry directory name slashAfter)) {l : Location} :
    fs.Names p l ↔ l = name :: directory := by
  constructor
  · rintro ⟨directory', name', slashAfter', located', rfl⟩
    rw [located] at located'
    cases located'
    rfl
  · rintro rfl
    exact ⟨directory, name, slashAfter, located, rfl⟩

/-- All that a path names ends in its file name. -/
theorem Names.head {p : Path} {l : Location} (names : fs.Names p l) : l.head? = p.fileName? := by
  obtain ⟨directory, name, slashAfter, located, rfl⟩ := names
  rw [fileName?_of_locate located]
  rfl

/-- What one path names, another with a different file name does not. -/
theorem not_names_of_fileName?_ne {p q : Path} {l : Location} (names : fs.Names p l)
    (other : q.fileName? ≠ p.fileName?) : ¬ fs.Names q l := by
  intro names'
  exact other (names'.head.symm.trans names.head)

/-! ## Paths to regular files -/

/-- A path that leads to a regular file is taken, and the walk along it ends where no one can
stand. -/
theorem walk_of_isFile {p : Path} (file : fs.isFile p = true) :
    accept p = .ok () ∧ ∃ l, fs.walk linkLimit (startOf fs.cwd p) p.segments = .ok l ∧
      fs.canStandIn l = false := by
  unfold isFile node? resolve at file
  rcases accepted : accept p with cause | ⟨⟩
  · simp [accepted, bind, Except.bind, Except.toOption] at file
  · refine ⟨rfl, ?_⟩
    rcases walked : fs.walk linkLimit (startOf fs.cwd p) p.segments with e | l
    · simp [accepted, walked, bind, Except.bind, Except.toOption] at file
    · simp only [accepted, walked, bind, Except.bind, mapError_ok, Except.toOption,
        Option.map_some, Option.any_some] at file
      refine ⟨l, rfl, ?_⟩
      rw [found] at file
      rw [canStandIn]
      revert file
      rcases fs.get? l with _ | node
      · intro file
        cases file
      · cases node <;> simp [Node.isFile, Node.isDirectory]

/-- Where the walk along a last name stands, and what it finds there. -/
theorem found_of_leads {links : Nat} {directory d : Location} {name : Bytes}
    (busy : ¬ Path.IsIdle name) (down : name ≠ Path.upSegment)
    (leads : fs.Leads d links directory [name]) :
    fs.canStandIn directory = true ∧ fs.get? directory ≠ none ∧ name.length ≤ nameLimit ∧
      ∃ node, fs.get? (name :: directory) = some node ∧
        (node = .directory → d = name :: directory) := by
  cases leads with
  | idle stands idle onward => exact absurd idle busy
  | up stands onward => exact absurd rfl down
  | link stands busy down there short found onward =>
    exact ⟨stands, there, short, _, found, fun h => by cases h⟩
  | name stands busy down there short found no_link onward =>
    cases onward
    exact ⟨stands, there, short, _, found, fun _ => rfl⟩

/-- A path that leads to a regular file ends in an entry that is there and is no directory, and no
slash comes after it. -/
theorem locate_of_isFile {p : Path} {name : Bytes} (file : fs.isFile p = true)
    (named : p.fileName? = some name) :
    ∃ directory node, fs.locate p = .ok (.entry directory name false) ∧
      fs.get? (name :: directory) = some node ∧ node ≠ .directory := by
  obtain ⟨accepted, l, walked, outside⟩ := walk_of_isFile file
  obtain ⟨before, shape, down⟩ := Path.leading_of_fileName? named
  obtain ⟨idle, segments, all⟩ := Path.segments_of_leading shape
  have busy := Path.busy_of_leading shape
  -- A segment after the name would lead nowhere, and then the walk would end in a directory.
  have bare : idle = [] := by
    rcases ends : idle.getLast? with _ | last
    · exact List.getLast?_eq_none_iff.1 ends
    · have whole : p.segments.getLast? = some last := by
        rw [segments, List.getLast?_append, List.getLast?_cons, ends]
        rfl
      have stands := (leads_iff.1 walked).canStandIn (all last (List.mem_of_getLast? ends)) whole
      rw [outside] at stands
      cases stands
  subst bare
  obtain ⟨directory, arrived, links, last⟩ := (leads_iff.1 walked).split segments
  obtain ⟨stands, there, short, node, found, only⟩ := found_of_leads busy down last
  have located : fs.locate p = .ok (.entry directory name false) := by
    rw [← List.reverse_cons] at segments
    exact locate_bare_iff.2
      ⟨accepted, before, segments, arrived, stands, busy, down, there, short⟩
  refine ⟨directory, node, located, found, ?_⟩
  rintro rfl
  rw [only rfl, canStandIn, found] at outside
  cases outside

/-- **A path that leads to a regular file names an entry that is there and is no directory.** -/
theorem entry_of_isFile {p : Path} {name : Bytes} (file : fs.isFile p = true)
    (named : p.fileName? = some name) :
    ∃ directory node, fs.locateEntry p = .ok (name :: directory) ∧
      fs.get? (name :: directory) = some node ∧ node ≠ .directory := by
  obtain ⟨directory, node, located, found, kind⟩ := locate_of_isFile file named
  refine ⟨directory, node, ?_, found, kind⟩
  simp [locateEntry, located, found, bind, Except.bind]

end CompilerDriver.FileSystem
