import CompilerDriver.Path

/-!
# File systems

A file system says which entry stands at which location. A location is the names from the root
inwards, innermost first, so the parent of a location is its tail. A file is kept apart from its
names, under a number of its own: it may have several names, and one that has lost its last name is
still there for whoever has it open. The view of a file system is `get?`; two lemmas say what
putting a node and erasing one do to it.
-/

namespace CompilerDriver

/-- A place in the tree: the names from the root inwards, innermost first. The root is `[]`. -/
abbrev Location := List Bytes

/-- The permission bits of a file. -/
structure Mode where
  bits : Nat
deriving DecidableEq, Repr

namespace Mode

/-- The mode of a new file. -/
def plain : Mode := ⟨0o644⟩

/-- The mode of a file that all may execute. -/
def executable : Mode := ⟨0o755⟩

/-- Whether someone may execute the file. The driver and its tools may do all that someone may. -/
def isExecutable (m : Mode) : Bool := m.bits &&& 0o111 ≠ 0

end Mode

/-- The devices that a tool may use. -/
inductive Device where
  /-- Swallows what is written to it and has nothing to read. -/
  | null
  /-- Has no room for anything, and zeros to read. -/
  | full
  /-- Swallows what is written to it, and has zeros to read. -/
  | zeros
  /-- Stands for one of the descriptors of the process that opens it. -/
  | descriptor (number : Nat)
deriving DecidableEq, Repr

/-- What stands at a location. -/
inductive Node where
  | directory
  | file (contents : Bytes) (mode : Mode)
  | link (target : Path)
  | device (device : Device)
deriving DecidableEq, Repr

namespace Node

def isDirectory : Node → Bool
  | directory => true
  | _ => false

def isFile : Node → Bool
  | file .. => true
  | _ => false

end Node

/-- The number of a file. -/
abbrev FileId := Nat

/-- A name in the tree: like a node, but of a file only the number. -/
inductive Entry where
  | directory
  | file (id : FileId)
  | link (target : Path)
  | device (device : Device)
deriving DecidableEq, Repr

/-- The number of the file that an entry names. -/
def Entry.id? : Entry → Option FileId
  | file id => some id
  | _ => none

/-- What is kept of a file. -/
structure Stored where
  contents : Bytes := []
  mode : Mode := .plain
deriving DecidableEq, Repr

/-- A file system as one process sees it: relative paths start from the directory it works in. -/
structure FileSystem where
  entries : List (Location × Entry)
  stored : List (FileId × Stored) := []
  /-- The directory that the process works in. -/
  cwd : Location
  /-- The directories of the processes that wait for this one, the nearest first. -/
  waiting : List Location := []
deriving DecidableEq, Repr

namespace FileSystem

/-- The entry at a location; the root is always a directory. -/
def entryAt? (fs : FileSystem) (l : Location) : Option Entry :=
  if l = [] then some .directory else (fs.entries.find? fun e => e.1 = l).map (·.2)

/-- The file of a number. -/
def file (fs : FileSystem) (id : FileId) : Stored :=
  ((fs.stored.find? fun e => e.1 = id).map (·.2)).getD {}

/-- The node that an entry stands for. -/
def view (fs : FileSystem) : Entry → Node
  | .directory => .directory
  | .file id => .file (fs.file id).contents (fs.file id).mode
  | .link target => .link target
  | .device device => .device device

/-- The node at a location. -/
def get? (fs : FileSystem) (l : Location) : Option Node := (fs.entryAt? l).map fs.view

/-- The number of the file at a location. -/
def fileId? (fs : FileSystem) (l : Location) : Option FileId := (fs.entryAt? l).bind Entry.id?

/-- A number that no file has. -/
def freshId (fs : FileSystem) : FileId :=
  (fs.entries.filterMap (·.2.id?) ++ fs.stored.map (·.1)).foldr (fun id n => max (id + 1) n) 0

/-- The file system without the entry at a location. -/
def erase (fs : FileSystem) (l : Location) : FileSystem :=
  { fs with entries := fs.entries.filter fun e => e.1 ≠ l }

/-- The file system with an entry put at a location. -/
def enroll (fs : FileSystem) (l : Location) (e : Entry) : FileSystem :=
  { fs with entries := (l, e) :: fs.entries.filter fun e => e.1 ≠ l }

/-- The file of a number changed, under all its names. -/
def store (fs : FileSystem) (id : FileId) (s : Stored) : FileSystem :=
  { fs with stored := (id, s) :: fs.stored.filter fun e => e.1 ≠ id }

/-- The file system with a node put at a location. A file that is put is a new one. -/
def put (fs : FileSystem) (l : Location) : Node → FileSystem
  | .directory => fs.enroll l .directory
  | .link target => fs.enroll l (.link target)
  | .device device => fs.enroll l (.device device)
  | .file contents mode => (fs.store fs.freshId ⟨contents, mode⟩).enroll l (.file fs.freshId)

/-- Whether a location is `top` or lies inside it. -/
def isWithin (top l : Location) : Bool := top.isSuffixOf l

/-- Where a location goes when `source` is moved to `target`. -/
def relocate (source target l : Location) : Location :=
  if isWithin source l then l.take (l.length - source.length) ++ target else l

/-- A location that no path leads to: where a directory is after it has been removed. The slash in
its name keeps any entry from being made there, and its parent is the same as before. -/
def removed : Location → Location
  | [] => []
  | name :: parent => (name ++ [Bytes.slash]) :: parent

/-- The directories that processes work in, each moved in the same way. -/
def moveWorkers (fs : FileSystem) (f : Location → Location) : FileSystem :=
  { fs with cwd := f fs.cwd, waiting := fs.waiting.map f }

/-- The file system without a location and all that lies inside it. A directory in there that a
process works in is removed with it. -/
def prune (fs : FileSystem) (top : Location) : FileSystem :=
  moveWorkers { fs with entries := fs.entries.filter fun e => !isWithin top e.1 }
    (relocate top (removed top))

/-- The file system after moving a location with all that lies inside it. What was inside the
target is gone; processes that work inside the source move along. -/
def move (fs : FileSystem) (source target : Location) : FileSystem :=
  let cleared := fs.prune target
  moveWorkers
    { cleared with entries := cleared.entries.map fun e => (relocate source target e.1, e.2) }
    (relocate source target)

/-! ## Processes -/

/-- The file system as a new process sees it, which starts where its parent works. -/
def startProcess (fs : FileSystem) : FileSystem := { fs with waiting := fs.cwd :: fs.waiting }

/-- The file system as the parent sees it again. -/
def endProcess (fs : FileSystem) : FileSystem :=
  match fs.waiting with
  | cwd :: waiting => { fs with cwd, waiting }
  | [] => fs

/-! ## The view -/

@[simp] theorem get?_nil (fs : FileSystem) : fs.get? [] = some .directory := rfl

theorem entryAt_of_ne_nil (fs : FileSystem) {l : Location} (h : l ≠ []) :
    fs.entryAt? l = (fs.entries.find? fun e => e.1 = l).map (·.2) := by
  simp [entryAt?, h]

private theorem find?_filter_same {α : Type} (es : List (Location × α)) (l : Location) :
    (es.filter fun e => e.1 ≠ l).find? (fun e => e.1 = l) = none := by
  simp [List.find?_eq_none]

private theorem find?_filter_other {κ α : Type} [DecidableEq κ] (es : List (κ × α)) {l m : κ}
    (h : m ≠ l) :
    (es.filter fun e => e.1 ≠ l).find? (fun e => e.1 = m) = es.find? (fun e => e.1 = m) := by
  induction es with
  | nil => rfl
  | cons e es ih =>
    by_cases hl : e.1 = l
    · have hm : ¬ e.1 = m := fun hm => h (hm ▸ hl)
      simp only [hl, ne_eq, not_true_eq_false, decide_false, Bool.false_eq_true,
        not_false_eq_true, List.filter_cons_of_neg]
      rw [ih]
      simp [hm]
    · simp only [ne_eq, hl, not_false_eq_true, decide_true, List.filter_cons_of_pos,
        List.find?_cons]
      split
      · rfl
      · exact ih

theorem entryAt_erase (fs : FileSystem) {l : Location} (hl : l ≠ []) (m : Location) :
    (fs.erase l).entryAt? m = if m = l then none else fs.entryAt? m := by
  by_cases hm : m = []
  · subst hm
    simp [entryAt?, Ne.symm hl]
  · rw [entryAt_of_ne_nil _ hm, entryAt_of_ne_nil _ hm]
    by_cases h : m = l
    · subst h
      simp only [erase, if_true]
      rw [find?_filter_same]
      rfl
    · simp only [erase, h, if_false]
      rw [find?_filter_other _ h]

/-- Erasing a location empties it and nothing else. -/
theorem get?_erase (fs : FileSystem) {l : Location} (hl : l ≠ []) (m : Location) :
    (fs.erase l).get? m = if m = l then none else fs.get? m := by
  simp only [get?, entryAt_erase fs hl]
  split <;> rfl

theorem entryAt_enroll (fs : FileSystem) {l : Location} (hl : l ≠ []) (e : Entry) (m : Location) :
    (fs.enroll l e).entryAt? m = if m = l then some e else fs.entryAt? m := by
  by_cases hm : m = []
  · subst hm
    simp [entryAt?, Ne.symm hl]
  · rw [entryAt_of_ne_nil _ hm, entryAt_of_ne_nil _ hm]
    by_cases h : m = l
    · subst h
      simp [enroll]
    · simp only [enroll, List.find?_cons, h, if_false]
      rw [show decide (l = m) = false by simpa using fun e => h e.symm]
      simp only
      rw [find?_filter_other _ h]

private theorem lt_foldr_max {ids : List Nat} {id : Nat} (h : id ∈ ids) :
    id < ids.foldr (fun id n => max (id + 1) n) 0 := by
  induction ids with
  | nil => cases h
  | cons i ids ih =>
    simp only [List.foldr_cons]
    rcases List.mem_cons.1 h with rfl | h
    · exact Nat.le_max_left ..
    · exact Nat.lt_of_lt_of_le (ih h) (Nat.le_max_right ..)

/-- No entry names the file of the fresh number. -/
theorem ne_freshId {fs : FileSystem} {l : Location} {id : FileId}
    (h : fs.entryAt? l = some (.file id)) : id ≠ fs.freshId := by
  by_cases hl : l = []
  · simp [entryAt?, hl] at h
  · rw [entryAt_of_ne_nil _ hl] at h
    obtain ⟨e, he, hid⟩ := Option.map_eq_some_iff.1 h
    have : id ∈ fs.entries.filterMap (·.2.id?) ++ fs.stored.map (·.1) :=
      List.mem_append_left _
        (List.mem_filterMap.2 ⟨e, List.mem_of_find?_eq_some he, by rw [hid]; rfl⟩)
    exact Nat.ne_of_lt (lt_foldr_max this)

theorem file_store (fs : FileSystem) (id : FileId) (s : Stored) (other : FileId) :
    (fs.store id s).file other = if other = id then s else fs.file other := by
  by_cases h : other = id
  · subst h
    simp [file, store]
  · simp only [file, store, List.find?_cons, h, if_false]
    rw [show decide (id = other) = false by simpa using fun e => h e.symm]
    simp only
    rw [find?_filter_other _ h]

/-- Putting a node at a location changes what stands there and nothing else. -/
theorem get?_put (fs : FileSystem) {l : Location} (hl : l ≠ []) (n : Node) (m : Location) :
    (fs.put l n).get? m = if m = l then some n else fs.get? m := by
  cases n with
  | directory | link | device =>
    simp only [get?, put, entryAt_enroll fs hl]
    split <;> rfl
  | file contents mode =>
    simp only [get?, put, entryAt_enroll _ hl]
    split
    · simp [view, enroll, file, store]
    · change (fs.entryAt? m).map _ = _
      cases h : fs.entryAt? m with
      | none => rfl
      | some e =>
        cases e with
        | file id =>
          have := file_store fs fs.freshId ⟨contents, mode⟩ id
          rw [if_neg (ne_freshId h)] at this
          simp only [Option.map_some, view]
          change some (Node.file ((fs.store _ _).file id).contents ((fs.store _ _).file id).mode) = _
          rw [this]
        | directory | link | device => rfl

@[simp] theorem cwd_put (fs : FileSystem) (l : Location) (n : Node) : (fs.put l n).cwd = fs.cwd := by
  cases n <;> rfl

@[simp] theorem cwd_erase (fs : FileSystem) (l : Location) : (fs.erase l).cwd = fs.cwd := rfl

end FileSystem

end CompilerDriver
